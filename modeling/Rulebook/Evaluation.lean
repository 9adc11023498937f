import Rulebook.Trace

/-!
Evaluation of expressions.

`evaluate` reduces an expression to a literal. References are resolved when they
are reached, so a name may be bound to an unreduced branch or to another
reference; a name that is reached again while it is being resolved is a cycle.
Only the selected arm of a branch is reduced. Each step into a part and each
reference hop goes one level deeper, and more than `maxDepth` levels are an error.

A run keeps the decisions made up to its end, also where it fails.
-/

namespace Rulebook

/-- A tree met by an evaluation: the expression it was asked for, or the one
bound to a name. -/
inductive Origin where
  | subject
  | binding (name : String)
deriving DecidableEq

/-! ### Errors -/

/-- A place that asks for a truth value. -/
inductive Condition where
  | ifThenElse
  | rule (index : Nat)
deriving DecidableEq

/-- What a condition is called. -/
def Condition.text : Condition → String
  | .ifThenElse => "If condition"
  | .rule index => s!"Rule {index} condition"

/-- Why an expression has no value. -/
inductive EvalError where
  /-- A name is not bound. -/
  | unbound (name : String)
  /-- A condition reduces to a literal that is not a truth value. -/
  | notBoolean (condition : Condition) (value : Literal)
  /-- No rule applies and there is no fallback. -/
  | noRuleMatched
  /-- No case has the value and there is no fallback. -/
  | noCaseMatched (value : Literal)
  /-- A name is reached again; the chain leads from it back to it. -/
  | cyclic (chain : List String)
  /-- More levels than the limit are needed. -/
  | tooDeep (limit : Int)
deriving DecidableEq

/-- The wording of an error. -/
def EvalError.message : EvalError → String
  | .unbound name => s!"Variable not found: {name}"
  | .notBoolean condition value =>
    s!"{condition.text} must evaluate to a boolean, got {value.text}"
  | .noRuleMatched => "No rule matched and no otherwise branch was given"
  | .noCaseMatched value => s!"No case matched {value.text} and no otherwise branch was given"
  | .cyclic chain => "Cyclic reference: " ++ " -> ".intercalate chain
  | .tooDeep limit => s!"Maximum evaluation depth of {limit} exceeded"

/-! ### Runs -/

/-- A computation that makes decisions and ends with a value or an error. -/
structure Run (δ ε α : Type) where
  decisions : List δ
  outcome : Except ε α

namespace Run

variable {δ ε α β : Type}

/-- End at once with a value. -/
def done (value : α) : Run δ ε α := ⟨[], .ok value⟩

/-- End at once with an error. -/
def fail (error : ε) : Run δ ε α := ⟨[], .error error⟩

/-- Make one decision. -/
def record (decision : δ) : Run δ ε Unit := ⟨[decision], .ok ()⟩

/-- Go on with the value of a run, unless it failed. -/
def andThen (run : Run δ ε α) (next : α → Run δ ε β) : Run δ ε β :=
  match run.outcome with
  | .error error => ⟨run.decisions, .error error⟩
  | .ok value =>
    let rest := next value
    ⟨run.decisions ++ rest.decisions, rest.outcome⟩

instance : Monad (Run δ ε) where
  pure := done
  bind := andThen

/-- The same run with its decisions and its error seen from elsewhere. -/
def mapBoth {δ' ε' : Type} (decision : δ → δ') (error : ε → ε') (run : Run δ ε α) :
    Run δ' ε' α :=
  ⟨run.decisions.map decision, run.outcome.mapError error⟩

end Run

/-- A run of the evaluator. -/
abbrev EvalRun (α : Type) := Run (Decision Origin) EvalError α

/-! ### Reduction -/

/-- The truth value that a condition must reduce to. -/
def asBool (condition : Condition) : Literal → EvalRun Bool
  | .bool b => .done b
  | value => .fail (.notBoolean condition value)

/-- Take an arm of the branch at a site: note the decision, then reduce the
result of the arm. -/
def takeArm (reduce : Step → Expr → EvalRun Literal) (site : Site Origin) (arm : Arm)
    (result : Expr) : EvalRun Literal := do
  Run.record ⟨site, arm⟩
  reduce arm.step result

/-- The first rule from `index` on whose condition holds, or the fallback. -/
def reduceRules (reduce : Step → Expr → EvalRun Literal) (site : Site Origin) :
    (index : Nat) → List (Expr × Expr) → Option Expr → EvalRun Literal
  | _, [], none => .fail .noRuleMatched
  | _, [], some e => takeArm reduce site .otherwise e
  | index, (condition, result) :: rest, otherwise => do
    let value ← reduce (.ruleCondition index) condition
    let holds ← asBool (.rule index) value
    if holds then takeArm reduce site (.rule index) result
    else reduceRules reduce site (index + 1) rest otherwise

/-- The first case from `index` on whose key is the value, or the fallback. -/
def reduceCases (reduce : Step → Expr → EvalRun Literal) (site : Site Origin)
    (value : Literal) : (index : Nat) → List (Expr × Expr) → Option Expr → EvalRun Literal
  | _, [], none => .fail (.noCaseMatched value)
  | _, [], some e => takeArm reduce site .otherwise e
  | index, (key, result) :: rest, otherwise => do
    let candidate ← reduce (.caseKey index) key
    if candidate.same value then takeArm reduce site (.case index) result
    else reduceCases reduce site value (index + 1) rest otherwise

/-- One level of the reduction of the expression at a site, given how its parts
and the names it refers to are reduced. -/
def reduceLevel (part : Step → Expr → EvalRun Literal) (resolve : String → EvalRun Literal)
    (site : Site Origin) : Expr → EvalRun Literal
  | .literal value => .done value
  | .reference name => resolve name
  | .ifThenElse condition thenArm elseArm => do
    let value ← part .condition condition
    let holds ← asBool .ifThenElse value
    if holds then takeArm part site .thenArm thenArm else takeArm part site .elseArm elseArm
  | .ruleChain rules otherwise => reduceRules part site 0 rules otherwise
  | .finiteBranch subject cases otherwise => do
    let value ← part .subject subject
    reduceCases part site value 0 cases otherwise

/-- Go on with what a name is bound to. -/
def followBinding (context : Context) (next : Expr → EvalRun Literal) (name : String) :
    EvalRun Literal :=
  match Members.get? context name with
  | none => .fail (.unbound name)
  | some bound => next bound

/-- Reduce the expression at a site. `levels` is how many more levels may be
entered, this one included, and `resolving` the names being resolved, outermost
first. -/
def reduce (context : Context) (limit : Int) :
    (levels : Nat) → (site : Site Origin) → (resolving : List String) → Expr → EvalRun Literal
  | 0, _, _, _ => .fail (.tooDeep limit)
  | levels + 1, site, resolving, expr =>
    reduceLevel (fun step e => reduce context limit levels (site.child step) resolving e)
      (fun name =>
        if name ∈ resolving then .fail (.cyclic (resolving.dropWhile (· != name) ++ [name]))
        else
          followBinding context
            (reduce context limit levels ⟨.binding name, []⟩ (resolving ++ [name])) name)
      site expr

/-- Levels of nesting and reference hops allowed where no other limit is given;
also the deepest nesting that documents are read with. -/
def defaultMaxDepth : Nat := 256

/-- Reduce an expression in a context, entering at most `maxDepth` levels below
the root. -/
def evaluate (context : Context) (maxDepth : Int) (expr : Expr) : EvalRun Literal :=
  reduce context maxDepth (maxDepth + 1).toNat ⟨.subject, []⟩ [] expr

end Rulebook
