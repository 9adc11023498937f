import Rulebook.Expr.Decoding
import Rulebook.Expr.Encoding
import Rulebook.Scope

/-!
The document form of a scope: an object of inputs with their kinds, calculations
with their expressions, and a list of outputs.

Reading checks the layout of all three fields before it reads any calculation.
Unknown fields are ignored.
-/

namespace Rulebook.Scope

/-! ### Writing -/

/-- Inputs as members, each with the word of its kind. -/
def encodeInputs (inputs : List (String × Kind)) : List (String × Data) :=
  inputs.map fun (name, kind) => (name, .string kind.word)

/-- Calculations as members. -/
def encodeCalculations (calculations : List (String × Expr)) : List (String × Data) :=
  calculations.map fun (name, e) => (name, e.encode)

/-- The document form of a scope. -/
def encode (scope : Scope) : Data :=
  .object
    [("inputs", .object (encodeInputs scope.inputs)),
      ("calculations", .object (encodeCalculations scope.calculations)),
      ("outputs", .array (scope.outputs.map .string))]

/-- The document form of a scope, if the stack reaches the leaves of all its
calculations. -/
def encode? (machine : Machine) (scope : Scope) : Option Data :=
  if scope.calculations.all (fun calculation => machine.encodes calculation.2.encode) then
    some scope.encode
  else none

/-- Write a scope as JSON text under an indentation. -/
def toJson (machine : Machine) (indent : Option Int) (scope : Scope) : Except WriteFault String :=
  machine.writeDocument indent (scope.encode? machine)

/-- The text of a file that holds a scope. -/
def toFile (machine : Machine) (indent : Option Int) (scope : Scope) :
    Except WriteFault String :=
  (scope.toJson machine indent).map (· ++ "\n")

/-! ### Reading -/

/-- Members read one by one under the same names. -/
def readMembers {α : Type} (read : String → Data → Except DecodeError α) :
    (members : List (String × Data)) →
      Except DecodeError { read : List (String × α) // Members.names read = Members.names members }
  | [] => .ok ⟨[], rfl⟩
  | (name, value) :: rest => do
    let first ← read name value
    let others ← readMembers read rest
    pure ⟨(name, first) :: others.val, congrArg (name :: ·) others.property⟩

/-- The kind of an input. -/
def readKind (name : String) (value : Data) : Except DecodeError Kind :=
  let unknown := faultAt (.unknownInputType value) [.key "inputs", .key name]
  match value with
  | .string word =>
    match Kind.ofWord? word with
    | some kind => .ok kind
    | none => unknown
  | _ => unknown

/-- The expression of a calculation. -/
def readCalculation (machine : Machine) (name : String) (value : Data) :
    Except DecodeError Expr :=
  Expr.decodeAt machine [.key "calculations", .key name] value

/-- An output. -/
def readOutput (path : DataPath) : Data → Except DecodeError String
  | .string name => .ok name
  | _ => faultAt .notString path

/-- The items of a field that must be a list. -/
def listField (members : List (String × Data)) (name : String) :
    Except DecodeError (List Data) := do
  match ← requiredField members name [.key name] with
  | .array items => pure items
  | _ => faultAt .notList [.key name]

/-- The layout of a document: inputs with their kinds, calculations not yet read,
and outputs. -/
structure Layout where
  inputs : List (String × Kind)
  calculations : List (String × Data)
  outputs : List String
  nodup_inputs : (Members.names inputs).Nodup
  nodup_calculations : (Members.names calculations).Nodup

/-- A field that is an object: its members, each name once. -/
def uniqueField (members : List (String × Data)) (name : String) :
    Except DecodeError { fields : List (String × Data) // (Members.names fields).Nodup } := do
  match ← requiredField members name [.key name] with
  | .object fields => pure ⟨Members.ofList fields, Members.nodup_names_ofList fields⟩
  | _ => faultAt .notObject [.key name]

/-- Check the layout of a document, field by field. -/
def Layout.read : Data → Except DecodeError Layout
  | .object members => do
    let inputs ← uniqueField members "inputs"
    let kinds ← readMembers readKind inputs.val
    let calculations ← uniqueField members "calculations"
    let items ← listField members "outputs"
    let outputs ← Expr.readItems readOutput [.key "outputs"] 0 items
    pure ⟨kinds.val, calculations.val, outputs, by rw [kinds.property]; exact inputs.property,
      calculations.property⟩
  | _ => faultAt .scopeNotObject []

/-- Read a document value as a scope. -/
def decode (machine : Machine) (value : Data) : Except DecodeError Scope := do
  let layout ← Layout.read value
  let calculations ← readMembers (readCalculation machine) layout.calculations
  pure ⟨layout.inputs, calculations.val, sortedNames layout.outputs, layout.nodup_inputs,
    by rw [calculations.property]; exact layout.nodup_calculations,
    pairwise_sortedNames layout.outputs⟩

/-- Read a JSON text as a scope. -/
def ofJson (machine : Machine) (text : String) : Except LoadError Scope := do
  let value ← parseDocument machine.jsonRoom text
  (decode machine value).mapError .decode

end Rulebook.Scope
