import Rulebook.Proofs.Provenance

/-!
Evaluation whose values are expressions.

`Untyped.evaluate` reduces an expression to an expression: whether a condition is a truth
value is decided where it is asked for, keys are compared with values by any comparison
of expressions, and the check of an input has a fault of its own for a value that is no
literal. None of this is ever needed: it runs as `evaluate` does, whatever the
comparison makes of expressions that are not literals (`Untyped.evaluate_eq`,
`Untyped.evaluateScope_eq`).
-/

namespace Rulebook

/-! ### Runs -/

namespace Run

variable {δ ε ε' α α' β β' : Type}

/-- The same run, with its value and its error as other things. -/
def mapEnds (value : α → α') (error : ε → ε') (run : Run δ ε α) : Run δ ε' α' :=
  ⟨run.decisions, match run.outcome with
    | .ok v => .ok (value v)
    | .error e => .error (error e)⟩

theorem mapEnds_bind (run : Run δ ε α) (value : α → α') {next : α → Run δ ε β}
    {next' : α' → Run δ ε' β'} {value' : β → β'} {error : ε → ε'}
    (h : ∀ v, next' (value v) = (next v).mapEnds value' error) :
    (run.mapEnds value error >>= next') = (run >>= next).mapEnds value' error := by
  cases hrun : run.outcome with
  | ok v =>
      have hmapped : (run.mapEnds value error).outcome = .ok (value v) := by
        simp only [mapEnds, hrun]
      rw [bind_of_ok hrun, bind_of_ok hmapped, h v]
      rfl
  | error e =>
      have hmapped : (run.mapEnds value error).outcome = .error (error e) := by
        simp only [mapEnds, hrun]
      rw [bind_of_error hrun, bind_of_error hmapped]
      rfl

end Run

namespace Untyped

/-! ### Errors -/

/-- Why an expression has no value, where values are expressions. -/
inductive Error where
  | unbound (name : String)
  | notBoolean (condition : Condition) (value : Expr)
  | noRuleMatched
  | noCaseMatched (value : Expr)
  | cyclic (chain : List String)
  | tooDeep (limit : Int)

/-- An error with its literal as an expression. -/
def Error.ofTyped : EvalError → Error
  | .unbound name => .unbound name
  | .notBoolean condition value => .notBoolean condition (.literal value)
  | .noRuleMatched => .noRuleMatched
  | .noCaseMatched value => .noCaseMatched (.literal value)
  | .cyclic chain => .cyclic chain
  | .tooDeep limit => .tooDeep limit

/-- A run of the untyped evaluator. -/
abbrev Reduction (α : Type) := Run (Decision Origin) Error α

/-! ### Reduction -/

/-- The truth value that a condition must reduce to. -/
def asBool (condition : Condition) : Expr → Reduction Bool
  | .literal (.bool b) => .done b
  | value => .fail (.notBoolean condition value)

section Level

variable (part : Step → Expr → Reduction Expr) (equal : Expr → Expr → Bool) (site : Site Origin)

/-- Take an arm of the branch at a site. -/
def takeArm (arm : Arm) (result : Expr) : Reduction Expr := do
  Run.record ⟨site, arm⟩
  part arm.step result

/-- The first rule from `index` on whose condition holds, or the fallback. -/
def reduceRules : (index : Nat) → List (Expr × Expr) → Option Expr → Reduction Expr
  | _, [], none => .fail .noRuleMatched
  | _, [], some e => takeArm part site .otherwise e
  | index, (condition, result) :: rest, otherwise => do
    let value ← part (.ruleCondition index) condition
    let holds ← asBool (.rule index) value
    if holds then takeArm part site (.rule index) result
    else reduceRules (index + 1) rest otherwise

/-- The first case from `index` on whose key is equal to the value, or the fallback. -/
def reduceCases (value : Expr) :
    (index : Nat) → List (Expr × Expr) → Option Expr → Reduction Expr
  | _, [], none => .fail (.noCaseMatched value)
  | _, [], some e => takeArm part site .otherwise e
  | index, (key, result) :: rest, otherwise => do
    let candidate ← part (.caseKey index) key
    if equal candidate value then takeArm part site (.case index) result
    else reduceCases value (index + 1) rest otherwise

/-- One level of the reduction of the expression at a site. -/
def reduceLevel (resolve : String → Reduction Expr) : Expr → Reduction Expr
  | .literal value => .done (.literal value)
  | .reference name => resolve name
  | .ifThenElse condition thenArm elseArm => do
    let value ← part .condition condition
    let holds ← asBool .ifThenElse value
    if holds then takeArm part site .thenArm thenArm else takeArm part site .elseArm elseArm
  | .ruleChain rules otherwise => reduceRules part site 0 rules otherwise
  | .finiteBranch subject cases otherwise => do
    let value ← part .subject subject
    reduceCases part equal site value 0 cases otherwise

end Level

/-- Go on with what a name is bound to. -/
def followBinding (context : Context) (next : Expr → Reduction Expr) (name : String) :
    Reduction Expr :=
  match Members.get? context name with
  | none => .fail (.unbound name)
  | some bound => next bound

/-- Reduce the expression at a site. -/
def reduce (equal : Expr → Expr → Bool) (context : Context) (limit : Int) :
    (levels : Nat) → (site : Site Origin) → (resolving : List String) → Expr → Reduction Expr
  | 0, _, _, _ => .fail (.tooDeep limit)
  | levels + 1, site, resolving, expr =>
    reduceLevel (fun step e => reduce equal context limit levels (site.child step) resolving e)
      equal site
      (fun name =>
        if name ∈ resolving then .fail (.cyclic (resolving.dropWhile (· != name) ++ [name]))
        else
          followBinding context
            (reduce equal context limit levels ⟨.binding name, []⟩ (resolving ++ [name])) name)
      expr

/-- Reduce an expression in a context to an expression. -/
def evaluate (equal : Expr → Expr → Bool) (context : Context) (maxDepth : Int) (e : Expr) :
    Reduction Expr :=
  reduce equal context maxDepth (maxDepth + 1).toNat ⟨.subject, []⟩ [] e

/-! ### Scopes -/

/-- What is wrong with a declared input, or that its value is no literal. -/
inductive InputFault where
  | missing
  | notLiteral
  | wrongKind

/-- Why a scope has no results, where values are expressions. -/
inductive ScopeError where
  | input (name : String) (fault : InputFault)
  | inputEvaluation (error : Error)
  | calculation (name : String) (cause : Error)

/-- A fault of an input that the typed evaluation knows. -/
def InputFault.ofTyped : Rulebook.InputFault → InputFault
  | .missing => .missing
  | .wrongKind => .wrongKind

/-- An error of a scope with its literal as an expression. -/
def ScopeError.ofTyped : Rulebook.ScopeError → ScopeError
  | .input name fault => .input name (.ofTyped fault)
  | .inputEvaluation error => .inputEvaluation (.ofTyped error)
  | .calculation name cause => .calculation name (.ofTyped cause)

/-- A run over the trees of a scope. -/
abbrev ScopeReduction (α : Type) := Run (Decision ScopeOrigin) ScopeError α

section Scope

variable (equal : Expr → Expr → Bool) (context : Context) (maxDepth : Int)

/-- Check one declared input. -/
def checkInput (name : String) (kind : Kind) : Except ScopeError Unit :=
  match Members.get? context name with
  | none => .error (.input name .missing)
  | some bound =>
    match (evaluate equal context maxDepth bound).outcome with
    | .error error => .error (.inputEvaluation error)
    | .ok (.literal value) => if value.kind = kind then .ok () else .error (.input name .wrongKind)
    | .ok _ => .error (.input name .notLiteral)

/-- Check declared inputs in order, up to the first one at fault. -/
def checkInputs : List (String × Kind) → Except ScopeError Unit
  | [] => .ok ()
  | (name, kind) :: rest => do
    checkInput equal context maxDepth name kind
    checkInputs rest

/-- Evaluate one calculation. -/
def runCalculation (name : String) (e : Expr) : ScopeReduction Expr :=
  (evaluate equal context maxDepth e).mapBoth
    (fun d => ⟨⟨Scope.originIn name d.site.origin, d.site.path⟩, d.arm⟩)
    (.calculation name)

end Scope

/-- Evaluate calculations in order, binding each one's value before the next. -/
def runCalculations (equal : Expr → Expr → Bool) (maxDepth : Int) :
    Context → List (String × Expr) → ScopeReduction Context
  | context, [] => .done context
  | context, (name, e) :: rest => do
    let value ← runCalculation equal context maxDepth name e
    runCalculations equal maxDepth (Members.put context name value) rest

/-- Evaluate a scope in a context. -/
def evaluateScope (equal : Expr → Expr → Bool) (context : Context) (maxDepth : Int)
    (scope : Scope) : ScopeReduction (List (String × Expr)) := do
  ⟨[], checkInputs equal context maxDepth scope.inputs⟩
  let working ← runCalculations equal maxDepth context scope.calculations
  pure (Scope.publish scope.outputs working)

/-! ### The untyped run is the typed one -/

/-- A typed run as an untyped one: its value is an expression. -/
abbrev ofTyped (run : EvalRun Literal) : Reduction Expr := run.mapEnds .literal Error.ofTyped

section Level

variable {part : Step → Expr → EvalRun Literal} {part' : Step → Expr → Reduction Expr}
  {equal : Expr → Expr → Bool} {site : Site Origin}

theorem asBool_literal (condition : Condition) (value : Literal) :
    asBool condition (.literal value) =
      (Rulebook.asBool condition value).mapEnds id Error.ofTyped := by
  cases value <;> rfl

theorem takeArm_eq (hpart : ∀ step sub, part' step sub = ofTyped (part step sub)) (arm : Arm)
    (result : Expr) :
    takeArm part' site arm result = ofTyped (Rulebook.takeArm part site arm result) :=
  Run.mapEnds_bind (Run.record (⟨site, arm⟩ : Decision Origin)) id fun _ => hpart arm.step result

theorem reduceRules_eq (hpart : ∀ step sub, part' step sub = ofTyped (part step sub))
    (index : Nat) (rules : List (Expr × Expr)) (otherwise : Option Expr) :
    reduceRules part' site index rules otherwise =
      ofTyped (Rulebook.reduceRules part site index rules otherwise) := by
  induction rules generalizing index with
  | nil =>
      cases otherwise with
      | none => rfl
      | some e => exact takeArm_eq hpart .otherwise e
  | cons rule rest ih =>
      obtain ⟨condition, result⟩ := rule
      rw [reduceRules, hpart]
      refine Run.mapEnds_bind _ Expr.literal fun value => ?_
      rw [asBool_literal]
      refine Run.mapEnds_bind _ id fun holds => ?_
      cases holds with
      | true => exact takeArm_eq hpart (.rule index) result
      | false => exact ih (index + 1)

theorem reduceCases_eq (hpart : ∀ step sub, part' step sub = ofTyped (part step sub))
    (hequal : ∀ v w : Literal, equal (.literal v) (.literal w) = v.same w) (value : Literal)
    (index : Nat) (cases : List (Expr × Expr)) (otherwise : Option Expr) :
    reduceCases part' equal site (.literal value) index cases otherwise =
      ofTyped (Rulebook.reduceCases part site value index cases otherwise) := by
  induction cases generalizing index with
  | nil =>
      cases otherwise with
      | none => rfl
      | some e => exact takeArm_eq hpart .otherwise e
  | cons case rest ih =>
      obtain ⟨key, result⟩ := case
      rw [reduceCases, hpart]
      refine Run.mapEnds_bind _ Expr.literal fun candidate => ?_
      rw [hequal]
      split
      · exact takeArm_eq hpart (.case index) result
      · exact ih (index + 1)

/-- One level runs as it does with literals for values, if the parts and the name do. -/
theorem reduceLevel_eq (hpart : ∀ step sub, part' step sub = ofTyped (part step sub))
    (hequal : ∀ v w : Literal, equal (.literal v) (.literal w) = v.same w)
    {resolve : String → EvalRun Literal} {resolve' : String → Reduction Expr}
    (hname : ∀ name, resolve' name = ofTyped (resolve name)) (e : Expr) :
    reduceLevel part' equal site resolve' e =
      ofTyped (Rulebook.reduceLevel part resolve site e) := by
  cases e with
  | literal value => rfl
  | reference name => exact hname name
  | ifThenElse condition thenArm elseArm =>
      rw [reduceLevel, hpart]
      refine Run.mapEnds_bind _ Expr.literal fun value => ?_
      rw [asBool_literal]
      refine Run.mapEnds_bind _ id fun holds => ?_
      cases holds with
      | true => exact takeArm_eq hpart .thenArm thenArm
      | false => exact takeArm_eq hpart .elseArm elseArm
  | ruleChain rules otherwise => exact reduceRules_eq hpart 0 rules otherwise
  | finiteBranch subject cases otherwise =>
      rw [reduceLevel, hpart]
      exact Run.mapEnds_bind _ Expr.literal fun value =>
        reduceCases_eq hpart hequal value 0 cases otherwise

end Level

section Evaluation

variable {equal : Expr → Expr → Bool}
  (hequal : ∀ v w : Literal, equal (.literal v) (.literal w) = v.same w)
include hequal

theorem reduce_eq (context : Context) (limit : Int) (levels : Nat) (site : Site Origin)
    (resolving : List String) (e : Expr) :
    reduce equal context limit levels site resolving e =
      ofTyped (Rulebook.reduce context limit levels site resolving e) := by
  induction levels generalizing site resolving e with
  | zero => rfl
  | succ levels ih =>
      refine reduceLevel_eq (fun step sub => ih _ _ sub) hequal (fun name => ?_) e
      split
      · rfl
      · unfold followBinding Rulebook.followBinding
        cases Members.get? context name with
        | none => rfl
        | some bound => exact ih _ _ bound

/-- An untyped evaluation runs as the typed one, whatever the comparison makes of
expressions that are not literals. -/
theorem evaluate_eq (context : Context) (maxDepth : Int) (e : Expr) :
    evaluate equal context maxDepth e = ofTyped (Rulebook.evaluate context maxDepth e) :=
  reduce_eq hequal context maxDepth _ _ _ e

/-! ### Scopes without values that are not literals -/

theorem checkInput_eq (context : Context) (maxDepth : Int) (name : String) (kind : Kind) :
    checkInput equal context maxDepth name kind =
      (Scope.checkInput context maxDepth name kind).mapError ScopeError.ofTyped := by
  unfold checkInput Scope.checkInput
  cases Members.get? context name with
  | none => rfl
  | some bound =>
      simp only [evaluate_eq hequal, Run.mapEnds]
      cases (Rulebook.evaluate context maxDepth bound).outcome with
      | error error => rfl
      | ok value =>
          by_cases hkind : value.kind = kind
          · simp only [if_pos hkind]
            rfl
          · simp only [if_neg hkind]
            rfl

theorem checkInputs_eq (context : Context) (maxDepth : Int) (inputs : List (String × Kind)) :
    checkInputs equal context maxDepth inputs =
      (Scope.checkInputs context maxDepth inputs).mapError ScopeError.ofTyped := by
  induction inputs with
  | nil => rfl
  | cons input rest ih =>
      obtain ⟨name, kind⟩ := input
      rw [checkInputs, checkInput_eq hequal, ih, Scope.checkInputs]
      cases Scope.checkInput context maxDepth name kind <;> rfl

theorem runCalculation_eq (context : Context) (maxDepth : Int) (name : String) (e : Expr) :
    runCalculation equal context maxDepth name e =
      (Scope.runCalculation context maxDepth name e).mapEnds .literal ScopeError.ofTyped := by
  unfold runCalculation Scope.runCalculation
  rw [evaluate_eq hequal]
  simp only [ofTyped, Run.mapBoth, Run.mapEnds]
  cases (Rulebook.evaluate context maxDepth e).outcome <;> rfl

theorem runCalculations_eq (context : Context) (maxDepth : Int)
    (calculations : List (String × Expr)) :
    runCalculations equal maxDepth context calculations =
      (Scope.runCalculations maxDepth context calculations).mapEnds id ScopeError.ofTyped := by
  induction calculations generalizing context with
  | nil => rfl
  | cons calculation rest ih =>
      obtain ⟨name, e⟩ := calculation
      rw [runCalculations, runCalculation_eq hequal]
      exact Run.mapEnds_bind _ Expr.literal fun value => ih _

/-- An untyped scope runs as the typed one. -/
theorem evaluateScope_eq (context : Context) (maxDepth : Int) (scope : Scope) :
    evaluateScope equal context maxDepth scope =
      (scope.evaluate context maxDepth).mapEnds id ScopeError.ofTyped := by
  have hchecks : (⟨[], checkInputs equal context maxDepth scope.inputs⟩ : ScopeReduction Unit) =
      (Scope.untraced (scope.validate context maxDepth)).mapEnds id ScopeError.ofTyped := by
    rw [checkInputs_eq hequal]
    unfold Scope.validate Scope.untraced Run.mapEnds
    cases Scope.checkInputs context maxDepth scope.inputs <;> rfl
  rw [evaluateScope, hchecks]
  refine Run.mapEnds_bind _ id fun _ => ?_
  rw [runCalculations_eq hequal]
  exact Run.mapEnds_bind _ id fun _ => rfl

end Evaluation

/-- The fault of an input whose value is no literal is never found. -/
theorem evaluateScope_ne_notLiteral {equal : Expr → Expr → Bool}
    (hequal : ∀ v w : Literal, equal (.literal v) (.literal w) = v.same w) (context : Context)
    (maxDepth : Int) (scope : Scope) (name : String) :
    (evaluateScope equal context maxDepth scope).outcome ≠ .error (.input name .notLiteral) := by
  rw [evaluateScope_eq hequal, Run.mapEnds]
  intro h
  split at h
  · cases h
  · next error _ =>
      cases error with
      | input other fault => cases fault <;> cases h
      | inputEvaluation cause => cases h
      | calculation other cause => cases h

end Untyped

/-- **No literal is made by an evaluation.** The value of an expression stands in it or in
the binding of a name within its reach, and so does the value that no case has. A name
that is missed is within reach and not bound. With expressions for values, compared in any
way that compares literals as such, expressions and scopes are evaluated alike: no value is
a reference or a branch, and no input is found to have one. -/
theorem evaluation_makes_no_literal (context : Context) (maxDepth : Int) (e : Expr) :
    (∀ v, (evaluate context maxDepth e).outcome = .ok v → Stands context e v) ∧
    (∀ name, (evaluate context maxDepth e).outcome = .error (.unbound name) →
      Reaches context e name ∧ Members.get? context name = none) ∧
    (∀ v, (evaluate context maxDepth e).outcome = .error (.noCaseMatched v) →
      Stands context e v) ∧
    ∀ equal : Expr → Expr → Bool,
      (∀ v w : Literal, equal (.literal v) (.literal w) = v.same w) →
      Untyped.evaluate equal context maxDepth e =
        (evaluate context maxDepth e).mapEnds .literal Untyped.Error.ofTyped ∧
      ∀ scope : Scope,
        Untyped.evaluateScope equal context maxDepth scope =
          (scope.evaluate context maxDepth).mapEnds id Untyped.ScopeError.ofTyped ∧
        ∀ name, (Untyped.evaluateScope equal context maxDepth scope).outcome ≠
          .error (.input name .notLiteral) := by
  refine ⟨?_, ?_, ?_, ?_⟩
  · intro v hrun
    exact stands_of_evaluate hrun (.inl rfl)
  · intro name hrun
    exact unbound_of_evaluate hrun
  · intro v hrun
    exact stands_of_evaluate hrun (.inr ⟨_, rfl, rfl⟩)
  · intro equal hequal
    refine ⟨Untyped.evaluate_eq hequal context maxDepth e, fun scope => ?_⟩
    refine ⟨Untyped.evaluateScope_eq hequal context maxDepth scope, fun name => ?_⟩
    exact Untyped.evaluateScope_ne_notLiteral hequal context maxDepth scope name

/-- What to do at a signal, by its colour. -/
def signal : Expr :=
  .finiteBranch (.reference "colour") [(.literal (.string "red"), .literal (.string "stop"))] none

/-- The answer stands in the dispatch, an unknown colour in its binding, and the name is
reached even where it is not bound. Keys may as well be compared as expressions. -/
theorem signal_answered_from_literals :
    Stands [("colour", .literal (.string "red"))] signal (.string "stop") ∧
    Stands [("colour", .literal (.string "blue"))] signal (.string "blue") ∧
    Reaches [] signal "colour" ∧
    (Untyped.evaluate Expr.matchesLeaf [("colour", .literal (.string "red"))] 2 signal).outcome =
      .ok (.literal (.string "stop")) ∧
    ∀ name, (Untyped.evaluateScope Expr.matchesLeaf [] 2 Scope.empty).outcome ≠
      .error (.input name .notLiteral) := by
  have hred := evaluation_makes_no_literal [("colour", .literal (.string "red"))] 2 signal
  have hblue := evaluation_makes_no_literal [("colour", .literal (.string "blue"))] 2 signal
  have hnone := evaluation_makes_no_literal [] 2 signal
  refine ⟨hred.1 _ rfl, hblue.2.2.1 _ rfl, (hnone.2.1 _ rfl).1, ?_, ?_⟩
  · rw [(hred.2.2.2 Expr.matchesLeaf fun _ _ => rfl).1]
    rfl
  · exact ((hnone.2.2.2 Expr.matchesLeaf fun _ _ => rfl).2 Scope.empty).2

end Rulebook
