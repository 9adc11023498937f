import Rulebook.Json.Reading
import Rulebook.Json.Writing
import Rulebook.Literal

/-!
Errors of reading documents: what is wrong and where in the document.
-/

namespace Rulebook

/-! ### Places in a document -/

/-- A step into a document value. -/
inductive Segment where
  | key (name : String)
  | index (i : Nat)
deriving DecidableEq

/-- A place in a document, from its root. -/
abbrev DataPath := List Segment

/-- The text of a step. -/
def Segment.text : Segment → String
  | .key name => "." ++ name
  | .index i => s!"[{i}]"

/-- The text of a place; the root is a dollar sign. -/
def DataPath.text (path : DataPath) : String :=
  path.foldl (fun text segment => text ++ segment.text) "$"

/-- The value at a place. -/
def Data.at? (value : Data) : DataPath → Option Data
  | [] => some value
  | .key name :: path =>
    match value with
    | .object members => (Members.get? members name).bind (·.at? path)
    | _ => none
  | .index i :: path =>
    match value with
    | .array items => items[i]?.bind (·.at? path)
    | _ => none

/-! ### Faults -/

/-- What is wrong with a document. -/
inductive DecodeFault where
  /-- The text is not JSON. -/
  | malformed (fault : Json.Fault) (place : Text.Place)
  /-- The text opens too many containers. -/
  | textTooDeep
  | missingField (name : String)
  | numberOutOfRange
  | numberNotFinite (x : Number)
  | referenceNotString (got : Data)
  | unknownType (got : Data)
  | branchNotObject
  | branchFormUnknown
  | ruleNotObject
  | rulesNotList
  | caseNotPair
  | casesNotList
  | notExpression
  /-- The expression has more levels than documents may have. -/
  | tooDeep (limit : Nat)
  /-- The stack does not reach its leaves. -/
  | outOfStack
  | scopeNotObject
  | notObject
  | notList
  | notString
  | unknownInputType (got : Data)
  /-- A file of input values cannot be parsed. -/
  | unreadableInputs (file reason : String)
  | inputsNotMapping (file : String)

/-- The names of the kinds, quoted and listed. -/
def kindList : String :=
  ", ".intercalate (Kind.all.map fun kind => "'" ++ kind.word ++ "'")

/-- The wording of a fault. -/
def DecodeFault.message : DecodeFault → String
  | .malformed fault place =>
    s!"Invalid JSON: {fault.message} (line {place.line}, column {place.column})"
  | .textTooDeep => "Invalid JSON: document nests too deeply"
  | .missingField name => s!"Missing required field '{name}'"
  | .numberOutOfRange => "Number literal is out of range"
  | .numberNotFinite x => "Number literal must be finite. Got: " ++ String.ofList x.text
  | .referenceNotString got =>
    "Reference name must be a string. Got: " ++ Json.text .line got
  | .unknownType got => "Unknown expression type: " ++ Json.text .line got
  | .branchNotObject => "Branch value must be an object"
  | .branchFormUnknown => "Branch must have one of the fields 'if', 'rules' or 'branchOn'"
  | .ruleNotObject => "Rule must be an object with 'when' and 'then'"
  | .rulesNotList => "'rules' must be a list"
  | .caseNotPair => "Case must be a [key, value] pair"
  | .casesNotList => "'when' must be a list of [key, value] pairs"
  | .notExpression =>
    "Expected a string, number, boolean, \x7b\"ref\": ...\x7d or \x7b\"type\": \"branch\", ...\x7d"
  | .tooDeep limit => s!"Expression nests deeper than {limit}"
  | .outOfStack => "Expression nests too deeply to decode"
  | .scopeNotObject => "Input should be a valid dictionary or instance of ScopeDocument"
  | .notObject => "Input should be a valid dictionary"
  | .notList => "Input should be a valid list"
  | .notString => "Input should be a valid string"
  | .unknownInputType got =>
    "Unknown input type " ++ Json.text .line got ++ ", expected one of " ++ kindList
  | .unreadableInputs file reason => s!"Cannot parse input file {file}: {reason}"
  | .inputsNotMapping file =>
    s!"Input file {file} must contain a mapping of input names to values"

/-- Why a fault cannot be put into words, if it cannot: it shows a part of the document,
which need not have a text. -/
def DecodeFault.refusal? : DecodeFault → Option Json.Refusal
  | .referenceNotString got | .unknownType got | .unknownInputType got => Json.refusal? got
  | _ => none

/-- A fault and its place. -/
structure DecodeError where
  fault : DecodeFault
  path : DataPath

/-- The wording of an error: the fault and its place. -/
def DecodeError.message (error : DecodeError) : String :=
  s!"{error.fault.message} (at {error.path.text})"

/-- Why a text is no document: it says something wrong, or it holds an integer of
more digits than are converted. -/
inductive LoadError where
  | decode (error : DecodeError)
  | tooManyDigits (count : Nat)

/-- The document value that a JSON text says. -/
def parseDocument (room : Nat) (text : String) : Except LoadError Data :=
  match Json.parse room text with
  | .ok value => .ok value
  | .error (.malformed fault place) => .error (.decode ⟨.malformed fault place, []⟩)
  | .error (.tooDeep _) => .error (.decode ⟨.textTooDeep, []⟩)
  | .error (.tooManyDigits count) => .error (.tooManyDigits count)

end Rulebook
