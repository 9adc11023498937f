import Rulebook.Scope

/-!
Inspection of a scope without evaluating it.

Warns of calculations that take the name of an input, of references that no
input and no earlier calculation can satisfy, and of outputs that name nothing.
-/

namespace Rulebook

/-- A problem of a scope, with the calculation or output it is about. -/
inductive ScopeWarning where
  | shadowsInput (calculation : String)
  | calculatedLater (calculation : String) (name : String)
  | unknownName (calculation : String) (name : String)
  | unknownOutput (name : String)
deriving DecidableEq

namespace ScopeWarning

/-- What a warning is about. -/
def subject : ScopeWarning → String
  | .shadowsInput calculation => calculation
  | .calculatedLater calculation _ => calculation
  | .unknownName calculation _ => calculation
  | .unknownOutput name => name

/-- The wording of a warning. -/
def message : ScopeWarning → String
  | .shadowsInput calculation =>
    s!"Calculation {calculation} shadows an input of the same name"
  | .calculatedLater calculation name =>
    s!"Calculation {calculation} references {name}, which is calculated later"
  | .unknownName calculation name =>
    s!"Calculation {calculation} references unknown name {name}"
  | .unknownOutput name => s!"Output {name} is neither an input nor a calculation"

end ScopeWarning

namespace Scope

/-- The warning of a name that is not visible to a calculation. -/
def unresolved (scope : Scope) (calculation name : String) : ScopeWarning :=
  if name ∈ Members.names scope.calculations then .calculatedLater calculation name
  else .unknownName calculation name

/-- The warnings of one calculation that sees the given names. -/
def calculationWarnings (scope : Scope) (visible : List String) (name : String) (e : Expr) :
    List ScopeWarning :=
  let shadows :=
    if name ∈ Members.names scope.inputs then [ScopeWarning.shadowsInput name] else []
  let missing := (sortedNames e.references).filter fun other => !decide (other ∈ visible)
  shadows ++ missing.map (scope.unresolved name)

/-- The warnings of calculations in order, the first one seeing the given
names. -/
def calculationsWarnings (scope : Scope) : (visible : List String) →
    List (String × Expr) → List ScopeWarning
  | _, [] => []
  | visible, (name, e) :: rest =>
    scope.calculationWarnings visible name e
      ++ calculationsWarnings scope (visible ++ [name]) rest

/-- The warnings of outputs that are neither inputs nor calculations. -/
def outputWarnings (scope : Scope) : List ScopeWarning :=
  let known := Members.names scope.inputs ++ Members.names scope.calculations
  (scope.outputs.filter fun name => !decide (name ∈ known)).map .unknownOutput

/-- All warnings, calculations in order and then outputs. -/
def warnings (scope : Scope) : List ScopeWarning :=
  scope.calculationsWarnings (Members.names scope.inputs) scope.calculations
    ++ scope.outputWarnings

end Scope

end Rulebook
