import Rulebook.Data.Digits
import Rulebook.Data.Shown
import Rulebook.Evaluation
import Rulebook.Machine
import Rulebook.PathName
import Rulebook.Text.Utf8

/-!
Configuration of a project: a section of its project file.

Paths in the section are seen from the folder of the project file. A section that
says nothing is an empty configuration.
-/

namespace Rulebook

/-- What a project is configured to use. -/
structure Config where
  scope : Option PathName
  inputs : Option PathName
  output : Option PathName
  maxDepth : Int
  projectRoot : Option PathName
deriving DecidableEq

/-- What is wrong with a configuration. -/
inductive ConfigError where
  | malformed (file : PathName) (reason : String)
  | notTable
  | pathNotString (key : String)
  | badMaxDepth (got : Data)

/-- The wording of an error. -/
def ConfigError.message : ConfigError → String
  | .malformed file reason => s!"Invalid TOML in {file.text}: {reason}"
  | .notTable => "Invalid [tool.pluraal] configuration: expected a table"
  | .pathNotString key => s!"Invalid [tool.pluraal].{key}: expected string path"
  | .badMaxDepth got =>
    "Invalid [tool.pluraal].max-depth: expected a positive integer, got " ++ got.shown

/-- Whether an error can be put into words: it shows no integer of too many digits. -/
def ConfigError.isWritable : ConfigError → Bool
  | .badMaxDepth got => got.isWritable
  | _ => true

/-- Why a project has no configuration: the section is wrong, the table around it
is none, or the file cannot be read. An integer of too many digits can neither be read
nor shown as what is wrong, and values nested too deep cannot be read. -/
inductive ConfigFailure where
  | config (error : ConfigError)
  | toolNotTable (typeName : String)
  | tooManyDigits (count : Nat)
  | integerTooLong
  | notText (error : Text.Utf8Error)
  | tooDeep

/-- An error of the section as a reason to have no configuration. -/
def ConfigFailure.ofError (error : ConfigError) : ConfigFailure :=
  if error.isWritable then .config error else .integerTooLong

/-- The wording of the refusal of a value that has no members. -/
def toolNotTableMessage (typeName : String) : String :=
  s!"'{typeName}' object has no attribute 'get'"

namespace Config

/-- The name of a project file. -/
def fileName : String := "pyproject.toml"

/-- The configuration that says nothing. -/
def empty (projectRoot : Option PathName) : Config :=
  ⟨none, none, none, defaultMaxDepth, projectRoot⟩

/-- A path in a section. -/
def readPath (settings : List (String × Data)) (key : String) (root : PathName) :
    Except ConfigError (Option PathName) :=
  match Members.get? settings key with
  | none => .ok none
  | some (.string s) => .ok (some (root.join (.parse s)))
  | some _ => .error (.pathNotString key)

/-- The depth limit in a section. -/
def readMaxDepth (settings : List (String × Data)) : Except ConfigError Int :=
  match Members.get? settings "max-depth" with
  | none => .ok defaultMaxDepth
  | some (.int n) => if n < 1 then .error (.badMaxDepth (.int n)) else .ok n
  | some got => .error (.badMaxDepth got)

/-- Read a section of the project file in a folder. -/
def ofSection (root : PathName) (settings : List (String × Data)) : Except ConfigError Config := do
  let scope ← readPath settings "scope" root
  let inputs ← readPath settings "inputs" root
  let output ← readPath settings "output" root
  let maxDepth ← readMaxDepth settings
  pure ⟨scope, inputs, output, maxDepth, some root⟩

/-- Read what stands in the place of the section. -/
def ofTool (root : PathName) (tool : List (String × Data)) : Except ConfigError Config :=
  match Members.get? tool "pluraal" with
  | none => .ok (empty (some root))
  | some (.object settings) =>
    if settings.isEmpty then .ok (empty (some root)) else ofSection root settings
  | some other => if other.isEmptyLike then .ok (empty (some root)) else .error .notTable

/-- Read the document of the project file in a folder. -/
def ofDocument (root : PathName) (document : List (String × Data)) :
    Except ConfigFailure Config :=
  match Members.get? document "tool" with
  | none => .ok (empty (some root))
  | some (.object tool) => (ofTool root tool).mapError .ofError
  | some other => .error (.toolNotTable other.typeName)

/-- Read the content of a project file. -/
def ofFile (machine : Machine) (file : PathName) (octets : List UInt8) :
    Except ConfigFailure Config :=
  match Text.decodeUtf8 octets with
  | .error error => .error (.notText error)
  | .ok cs =>
    match Toml.parse machine.tomlStack cs with
    | .ok document => ofDocument file.parent document
    | .error (.malformed fault place) =>
      .error (.config (.malformed file (Toml.faultReason fault place)))
    | .error (.tooManyDigits count) => .error (.tooManyDigits count)
    | .error .tooDeep => .error .tooDeep

/-- The project files that may belong to a folder, nearest first: one in the folder
itself and one in each folder around it. -/
def candidates (folder : PathName) : List PathName :=
  (List.range (folder.parts.length + 1)).map fun up =>
    (PathName.mk folder.root (folder.parts.take (folder.parts.length - up))).child fileName

end Config

end Rulebook
