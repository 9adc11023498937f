import Rulebook.Evaluation
import Rulebook.Scope

/-!
Evaluation of scopes.

A scope is evaluated in a context in three stages. Every declared input must be
bound and reduce to a literal of its kind; then the calculations run in order,
each one seeing the literals of the earlier ones; then the outputs that are bound
are published, calculations as literals and everything else as it was bound. The
decisions of calculations are traced, those of the input check are not.
-/

namespace Rulebook

/-- A tree met by the evaluation of a scope. -/
inductive ScopeOrigin where
  | calculation (name : String)
  | binding (name : String)
deriving DecidableEq

/-- What is wrong with a declared input. -/
inductive InputFault where
  | missing
  | wrongKind
deriving DecidableEq

/-- Why a scope has no results. -/
inductive ScopeError where
  | input (name : String) (fault : InputFault)
  /-- The bound value of an input has no value itself. -/
  | inputEvaluation (error : EvalError)
  | calculation (name : String) (cause : EvalError)
deriving DecidableEq

/-- The wording of an error. -/
def ScopeError.message : ScopeError → String
  | .input name .missing => s!"Required input not found: {name}"
  | .input name .wrongKind => s!"Input {name} has incorrect type"
  | .inputEvaluation error => error.message
  | .calculation name cause => s!"Error calculating calculation {name}: {cause.message}"

namespace Scope

/-! ### Inputs -/

/-- Check one declared input. -/
def checkInput (context : Context) (maxDepth : Int) (name : String) (kind : Kind) :
    Except ScopeError Unit :=
  match Members.get? context name with
  | none => .error (.input name .missing)
  | some bound =>
    match (evaluate context maxDepth bound).outcome with
    | .error error => .error (.inputEvaluation error)
    | .ok value => if value.kind = kind then .ok () else .error (.input name .wrongKind)

/-- Check declared inputs in order, up to the first one at fault. -/
def checkInputs (context : Context) (maxDepth : Int) :
    List (String × Kind) → Except ScopeError Unit
  | [] => .ok ()
  | (name, kind) :: rest => do
    checkInput context maxDepth name kind
    checkInputs context maxDepth rest

/-- Check every declared input of a scope. -/
def validate (context : Context) (maxDepth : Int) (scope : Scope) : Except ScopeError Unit :=
  checkInputs context maxDepth scope.inputs

/-! ### Calculations -/

/-- A run over the trees of a scope. -/
abbrev ScopeRun (α : Type) := Run (Decision ScopeOrigin) ScopeError α

/-- Where a tree met by a calculation stands in the scope. -/
def originIn (name : String) : Origin → ScopeOrigin
  | .subject => .calculation name
  | .binding other => .binding other

/-- Evaluate one calculation. -/
def runCalculation (context : Context) (maxDepth : Int) (name : String) (e : Expr) :
    ScopeRun Literal :=
  (evaluate context maxDepth e).mapBoth
    (fun d => ⟨⟨originIn name d.site.origin, d.site.path⟩, d.arm⟩)
    (.calculation name)

/-- Evaluate calculations in order, binding each one's value before the next. -/
def runCalculations (maxDepth : Int) : Context → List (String × Expr) → ScopeRun Context
  | context, [] => .done context
  | context, (name, e) :: rest => do
    let value ← runCalculation context maxDepth name e
    runCalculations maxDepth (Members.put context name (.literal value)) rest

/-! ### Outputs -/

/-- The outputs that are bound, in order, with what they are bound to. -/
def publish (outputs : List String) (context : Context) : List (String × Expr) :=
  outputs.filterMap fun name => (Members.get? context name).map fun value => (name, value)

/-- A run that makes no decision. -/
def untraced {α : Type} (outcome : Except ScopeError α) : ScopeRun α := ⟨[], outcome⟩

/-- Evaluate a scope in a context. -/
def evaluate (context : Context) (maxDepth : Int) (scope : Scope) :
    ScopeRun (List (String × Expr)) := do
  untraced (scope.validate context maxDepth)
  let working ← runCalculations maxDepth context scope.calculations
  pure (publish scope.outputs working)

end Scope

end Rulebook
