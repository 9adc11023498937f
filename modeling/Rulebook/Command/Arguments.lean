/-!
Arguments of a command line: switches, with or without a value, and operands.

A value stands behind an equals sign, directly behind a short switch, or in the next
argument, whatever that looks like. Two dashes alone end the switches.
-/

namespace Rulebook.Command

/-- A switch: its spellings and whether it takes a value. -/
structure Switch (κ : Type) where
  key : κ
  spellings : List String
  takesValue : Bool

/-- What was given: switches with their values, a switch without one having the
empty text, and operands, both in order. -/
structure Given (κ : Type) where
  switches : List (κ × String)
  operands : List String

namespace Given

variable {κ : Type} [DecidableEq κ]

/-- Nothing but operands. -/
def ofOperands (operands : List String) : Given κ := ⟨[], operands⟩

/-- More switches in front. -/
def withSwitches (given : Given κ) (switches : List (κ × String)) : Given κ :=
  { given with switches := switches ++ given.switches }

/-- One more operand in front. -/
def withOperand (given : Given κ) (operand : String) : Given κ :=
  { given with operands := operand :: given.operands }

/-- All values of a switch. -/
def values (given : Given κ) (key : κ) : List String :=
  (given.switches.filter fun switch => decide (switch.1 = key)).map (·.2)

/-- The value of a switch given last. -/
def value? (given : Given κ) (key : κ) : Option String := (given.values key).getLast?

/-- Whether a switch was given. -/
def has (given : Given κ) (key : κ) : Bool := !(given.values key).isEmpty

end Given

/-- What one argument says: switches, the last of which may still need the next
argument for its value. -/
structure Reading (κ : Type) where
  complete : List (κ × String)
  pending : Option κ

section Reading

variable {κ : Type}

/-- The switch of a spelling. -/
def findSwitch (switches : List (Switch κ)) (spelling : String) : Option (Switch κ) :=
  switches.find? fun switch => switch.spellings.contains spelling

/-- Whether an argument is spelled like a switch. -/
def looksLikeSwitch (argument : String) : Bool :=
  match argument.toList with
  | '-' :: _ :: _ => true
  | _ => false

/-- Whether a spelling is short: a dash and one more character. -/
def isShort (spelling : String) : Bool := spelling.length == 2

/-- An argument before and behind its first equals sign. -/
def splitValue (argument : String) : String × Option String :=
  let cs := argument.toList
  match cs.dropWhile (· != '=') with
  | [] => (argument, none)
  | _ :: value => (String.ofList (cs.takeWhile (· != '=')), some (String.ofList value))

/-- Read characters as short switches; what follows one that takes a value is its
value. -/
def readShort (switches : List (Switch κ)) : List Char → Option (Reading κ)
  | [] => some ⟨[], none⟩
  | c :: rest => do
    let switch ← findSwitch switches (String.ofList ['-', c])
    if switch.takesValue then
      if rest.isEmpty then pure ⟨[], some switch.key⟩
      else pure ⟨[(switch.key, String.ofList rest)], none⟩
    else
      let others ← readShort switches rest
      pure { others with complete := (switch.key, "") :: others.complete }

/-- Read an argument as a long switch, with its value if that is part of it. -/
def readLong (switch : Switch κ) : (value : Option String) → Option (Reading κ)
  | some value => if switch.takesValue then some ⟨[(switch.key, value)], none⟩ else none
  | none =>
    if switch.takesValue then some ⟨[], some switch.key⟩ else some ⟨[(switch.key, "")], none⟩

/-- Read an argument that is spelled like a switch. -/
def readSwitch (switches : List (Switch κ)) (argument : String) : Option (Reading κ) :=
  let (spelling, value) := splitValue argument
  match if isShort spelling then none else findSwitch switches spelling with
  | some switch => readLong switch value
  | none =>
    match argument.toList with
    | '-' :: '-' :: _ => none
    | _ :: shorts => readShort switches shorts
    | [] => none

/-- Read arguments. Switches may stand between operands if they are `mixed`, or else
before all operands only. -/
def readArguments (switches : List (Switch κ)) (mixed : Bool) : List String → Option (Given κ)
  | [] => some (.ofOperands [])
  | argument :: rest =>
    if argument = "--" then some (.ofOperands rest)
    else if looksLikeSwitch argument then
      match readSwitch switches argument with
      | none => none
      | some ⟨complete, none⟩ =>
        (readArguments switches mixed rest).map (·.withSwitches complete)
      | some ⟨complete, some key⟩ =>
        match rest with
        | [] => none
        | value :: rest =>
          (readArguments switches mixed rest).map (·.withSwitches (complete ++ [(key, value)]))
    else if mixed then (readArguments switches mixed rest).map (·.withOperand argument)
    else some (.ofOperands (argument :: rest))

end Reading

end Rulebook.Command
