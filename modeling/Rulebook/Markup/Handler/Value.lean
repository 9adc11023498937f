/-!
Values of handler parameters.

A text may denote more than a value: what has to be worked out first, such as a name or
a call, is refused. Sets and the keys of tables hold nothing that can change.
-/

namespace Rulebook.Markup.Handler

/-- What a text of parameters denotes. -/
inductive Value where
  | number (isImaginary : Bool)
  /-- A value with a name of its own, or the ellipsis. -/
  | constant (name : String)
  | text
  | tuple (items : List Value)
  | set (items : List Value)
  /-- A table of keys and values; a table inside it has no key. -/
  | table (members : List (Option Value × Value))
  | emptySet
  | signed (operand : Value)
  | sum (left right : Value)
  /-- Anything that has to be worked out, by the name of its form. -/
  | other (form : String)

namespace Value

/-- The name of the form of a value. -/
def form : Value → String
  | .number _ | .text => "literal"
  | .constant name => name
  | .tuple _ => "tuple"
  | .set _ => "set display"
  | .table _ => "dict literal"
  | .emptySet => "function call"
  | .signed _ | .sum _ _ => "expression"
  | .other form => form

/-- Why a text denotes no value. -/
inductive Refusal where
  /-- It has to be worked out. -/
  | unknown
  /-- A table in a table has no key. -/
  | noKey
  /-- A set, or the keys of a table, would hold what can change. -/
  | changeable (typeName : String)
deriving DecidableEq

/-- The wording of a refusal. -/
def Refusal.message : Refusal → String
  | .unknown => "malformed node or string on line 1"
  | .noKey => "malformed node or string: None"
  | .changeable typeName => s!"unhashable type: '{typeName}'"

/-- Whether a value is a number that is not imaginary, perhaps with a sign. -/
def isReal : Value → Bool
  | .number isImaginary => !isImaginary
  | .signed (.number isImaginary) => !isImaginary
  | _ => false

mutual

/-- The type of what can change in a value, if there is any. -/
def changing : Value → Except Refusal (Option String)
  | .number _ | .constant _ | .text => .ok none
  | .tuple items => changingIn items
  | .set items => do
    keep items
    pure (some "set")
  | .table members => do
    keepKeys members
    pure (some "dict")
  | .emptySet => .ok (some "set")
  | .signed (.number _) => .ok none
  | .sum left (.number true) => if left.isReal then .ok none else .error .unknown
  | .signed _ | .sum _ _ | .other _ => .error .unknown

/-- The type of the first that can change in some values. -/
def changingIn : List Value → Except Refusal (Option String)
  | [] => .ok none
  | item :: rest => do
    let first ← item.changing
    let others ← changingIn rest
    pure (first <|> others)

/-- Refuse values that can change. -/
def keep : List Value → Except Refusal Unit
  | [] => .ok ()
  | item :: rest => do
    match ← item.changing with
    | some typeName => .error (.changeable typeName)
    | none => keep rest

/-- Refuse keys that can change or are missing. -/
def keepKeys : List (Option Value × Value) → Except Refusal Unit
  | [] => .ok ()
  | (none, _) :: _ => .error .noKey
  | (some key, value) :: rest => do
    let changing ← key.changing
    let _ ← value.changing
    match changing with
    | some typeName => .error (.changeable typeName)
    | none => keepKeys rest

end

/-- Why a text that denotes this is refused, if it is. -/
def refusal? (value : Value) : Option Refusal :=
  match value.changing with
  | .ok _ => none
  | .error refusal => some refusal

end Value

end Rulebook.Markup.Handler
