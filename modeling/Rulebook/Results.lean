import Rulebook.Expr.Encoding
import Rulebook.PathName
import Rulebook.Toml.Writing

/-!
Results of a scope as documents.
-/

namespace Rulebook.Results

/-- The document form of results: an object by name. -/
def encode (results : List (String × Expr)) : List (String × Data) :=
  results.map fun (name, e) => (name, e.encode)

/-- The document form of results, if the stack reaches the leaves of each. -/
def encode? (machine : Machine) (results : List (String × Expr)) : Option (List (String × Data)) :=
  let members := encode results
  if members.all (fun member => machine.encodes member.2) then some members else none

/-- The JSON text of results. -/
def toJson (machine : Machine) (results : List (String × Expr)) : Except WriteFault String :=
  match encode? machine results with
  | some members => (machine.jsonText (.indented 2) (.object members)).mapError .refused
  | none => .error .tooHigh

/-- What a file of results holds in the end, if it is made, and why it does not hold all of
them, if it does not. -/
structure Exported where
  content : Option String
  fault : Option WriteFault

/-- Results in a file of JSON, which is made when their text is there. -/
def Exported.json (machine : Machine) (results : List (String × Expr)) : Exported :=
  match toJson machine results with
  | .ok text => ⟨some (text ++ "\n"), none⟩
  | .error fault => ⟨none, some fault⟩

/-- Results in a file of TOML, which is made first and filled piece by piece. -/
def Exported.toml (machine : Machine) (results : List (String × Expr)) : Exported :=
  match encode? machine results with
  | none => ⟨some "", some .tooHigh⟩
  | some members =>
    let text := Toml.text members
    match machine.tomlCut? members with
    | none => ⟨some text, none⟩
    | some count => ⟨some (String.ofList (text.toList.take count)), some (.refused .outOfStack)⟩

/-- Results in a file, as JSON or TOML by the ending of its name. -/
def exported (machine : Machine) (path : PathName) (results : List (String × Expr)) : Exported :=
  if path.suffix = ".json" then .json machine results else .toml machine results

end Rulebook.Results
