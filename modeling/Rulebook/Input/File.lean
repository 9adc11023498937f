import Rulebook.Scope.Document
import Rulebook.Text.LineEnd
import Rulebook.Text.Utf8
import Rulebook.PathName
import Rulebook.Toml.Reading

/-!
Reading files: scopes as JSON, input values as JSON or TOML by the ending of the
name.
-/

namespace Rulebook

/-- Why the content of a file cannot be read. -/
inductive ContentError where
  | decode (error : DecodeError)
  | tooManyDigits (count : Nat)
  | notText (error : Text.Utf8Error)
  | tooDeep (container : Json.Container)
  /-- Values of TOML are nested too deep. -/
  | tomlTooDeep

/-- An error of a document as one of the file that holds it. -/
def ContentError.ofLoad : LoadError → ContentError
  | .decode error => .decode error
  | .tooManyDigits count => .tooManyDigits count

/-- The text of a file, with line feeds for all line ends. -/
def fileText (octets : List UInt8) : Except ContentError (List Char) :=
  match Text.decodeUtf8 octets with
  | .ok cs => .ok (Text.unifyLineEnds cs)
  | .error error => .error (.notText error)

/-- Read the content of a file as a scope. -/
def Scope.ofFile (machine : Machine) (octets : List UInt8) : Except ContentError Scope := do
  let cs ← fileText octets
  (Scope.ofJson machine (String.ofList cs)).mapError .ofLoad

namespace Input

/-- The reason that a text is not JSON, for a reader of the file. -/
def jsonReason (fault : Json.Fault) (place : Text.Place) : String :=
  s!"{fault.message}: line {place.line} column {place.column} (char {place.offset})"

/-- A file that cannot be parsed, for a reason. -/
def unreadable (path : PathName) (reason : String) : ContentError :=
  .decode ⟨.unreadableInputs path.text reason, []⟩

/-- The value in a JSON file. -/
def jsonValue (machine : Machine) (path : PathName) (octets : List UInt8) :
    Except ContentError Data := do
  let cs ← fileText octets
  match Json.parse machine.jsonRoom (String.ofList cs) with
  | .ok value => .ok value
  | .error (.malformed fault place) => .error (unreadable path (jsonReason fault place))
  | .error (.tooManyDigits count) => .error (.tooManyDigits count)
  | .error (.tooDeep container) => .error (.tooDeep container)

/-- The value in a TOML file. -/
def tomlValue (machine : Machine) (path : PathName) (octets : List UInt8) :
    Except ContentError Data :=
  match Text.decodeUtf8 octets with
  | .error error => .error (.notText error)
  | .ok cs =>
    match Toml.parse machine.tomlStack cs with
    | .ok members => .ok (.object members)
    | .error (.malformed fault place) => .error (unreadable path (Toml.faultReason fault place))
    | .error (.tooManyDigits count) => .error (.tooManyDigits count)
    | .error .tooDeep => .error .tomlTooDeep

/-- The named values in a file. -/
def readValues (machine : Machine) (path : PathName) (octets : List UInt8) :
    Except ContentError (List (String × Data)) := do
  let value ←
    if path.suffix = ".json" then jsonValue machine path octets else tomlValue machine path octets
  match value with
  | .object members => .ok members
  | _ => .error (.decode ⟨.inputsNotMapping path.text, []⟩)

end Input

end Rulebook
