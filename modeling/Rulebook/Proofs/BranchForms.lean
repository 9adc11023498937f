import Rulebook.Proofs.Selection

/-!
The forms of branches agree where they overlap.

A chain of rules asks for its conditions one after another on the same level, and nested
conditionals ask for each one level below the one before. A run that is not too deep ends alike
on more levels, wherever it stands (`reduce_keptBy_of_le`), so that either form ends as the
other one does if it has as many levels more as there are rules (`reduceRules_keptBy_nested`,
`nested_keptBy_reduceRules`). Cases for the two truth values decide as a condition does
(`reduce_truthCases_ok_iff`).
-/

namespace Rulebook

/-! ### Runs that end alike -/

/-- The same error, whatever the condition is called that is not a truth value. -/
def EvalError.SameClass : EvalError → EvalError → Prop
  | .notBoolean _ value, .notBoolean _ value' => value = value'
  | error, error' => error = error'

theorem EvalError.SameClass.refl (error : EvalError) : error.SameClass error := by
  cases error <;> rfl

/-- What the first run ends with, the second one ends with too: the same value, or an error of
the same class, unless it is that the limit is met. -/
structure Run.KeptBy (α : Type) (run run' : EvalRun α) : Prop where
  value : ∀ value, run.outcome = .ok value → run'.outcome = .ok value
  error : ∀ error, run.outcome = .error error → ¬ error.IsTooDeep →
    ∃ error', run'.outcome = .error error' ∧ error.SameClass error'

theorem Run.congruence_keptBy : Run.Congruence Run.KeptBy where
  refl run := ⟨fun _ h => h, fun error h _ => ⟨error, h, .refl error⟩⟩
  bind := by
    intro α β run run' next next' h hnext
    constructor
    · intro result hresult
      obtain ⟨value, hrun, hresult⟩ := bind_outcome_ok_iff.mp hresult
      exact bind_outcome_ok_iff.mpr ⟨value, h.value value hrun, (hnext value).value result hresult⟩
    · intro error herror hdeep
      rcases bind_outcome_error_iff.mp herror with hrun | ⟨value, hrun, herror⟩
      · obtain ⟨error', hrun', hclass⟩ := h.error error hrun hdeep
        exact ⟨error', bind_outcome_error_iff.mpr (.inl hrun'), hclass⟩
      · obtain ⟨error', herror', hclass⟩ := (hnext value).error error herror hdeep
        have hrun' := h.value value hrun
        exact ⟨error', bind_outcome_error_iff.mpr (.inr ⟨value, hrun', herror'⟩), hclass⟩

/-- A run that is too deep is kept by every run. -/
theorem Run.KeptBy.of_tooDeep {α : Type} (limit : Int) (run' : EvalRun α) :
    Run.KeptBy α (.fail (.tooDeep limit)) run' :=
  ⟨nofun, fun _ h hdeep => absurd ⟨limit, (Except.error.inj h).symm⟩ hdeep⟩

/-- Only outcomes count. -/
theorem Run.KeptBy.of_outcome {α : Type} {run run' last last' : EvalRun α}
    (h : Run.KeptBy α last last') (hrun : run.outcome = last.outcome)
    (hrun' : run'.outcome = last'.outcome) :
    Run.KeptBy α run run' := by
  constructor
  · rw [hrun, hrun']
    exact h.value
  · rw [hrun, hrun']
    exact h.error

theorem asBool_keptBy (condition condition' : Condition) (value : Literal) :
    Run.KeptBy Bool (asBool condition value) (asBool condition' value) := by
  cases value with
  | bool b => exact Run.congruence_keptBy.refl _
  | string text | number x =>
      refine ⟨nofun, fun error h _ => ⟨.notBoolean condition' _, rfl, ?_⟩⟩
      cases h
      rfl

/-- An arm is taken as another one is if their results are reduced alike. -/
theorem takeArm_keptBy {part part' : Step → Expr → EvalRun Literal} {site site' : Site Origin}
    {arm arm' : Arm} {result result' : Expr}
    (h : Run.KeptBy Literal (part arm.step result) (part' arm'.step result')) :
    Run.KeptBy Literal (takeArm part site arm result) (takeArm part' site' arm' result') :=
  h.of_outcome (takeArm_outcome _ _ _ _) (takeArm_outcome _ _ _ _)

/-- A condition is tested as another one is, and leads to runs that are kept. -/
theorem test_keptBy {tested tested' taken taken' passed passed' : EvalRun Literal}
    (condition condition' : Condition) (h : Run.KeptBy Literal tested tested')
    (htaken : Run.KeptBy Literal taken taken') (hpassed : Run.KeptBy Literal passed passed') :
    Run.KeptBy Literal
      (do
        let value ← tested
        let holds ← asBool condition value
        if holds then taken else passed)
      (do
        let value ← tested'
        let holds ← asBool condition' value
        if holds then taken' else passed') := by
  have hR := Run.congruence_keptBy
  refine hR.bind h fun value => hR.bind (asBool_keptBy _ _ value) fun holds => ?_
  cases holds with
  | true => exact htaken
  | false => exact hpassed

section Forms

variable (context : Context) (limit limit' : Int) {levels levels' : Nat}
  (site site' : Site Origin) (resolving : List String)

/-- A reduction that is not too deep ends alike on more levels, at whatever site. -/
theorem reduce_keptBy_of_le (hle : levels ≤ levels') (e : Expr) :
    Run.KeptBy Literal (reduce context limit levels site resolving e)
      (reduce context limit' levels' site' resolving e) := by
  induction levels generalizing levels' site site' resolving e with
  | zero => exact .of_tooDeep limit _
  | succ levels ih =>
      obtain ⟨levels', rfl⟩ : ∃ n, levels' = n + 1 := ⟨levels' - 1, by omega⟩
      have hle := Nat.le_of_succ_le_succ hle
      have hR := Run.congruence_keptBy
      refine hR.reduceLevel (fun arm => (hR.refl (Run.done ())).of_outcome rfl rfl)
        (fun step sub _ => ih (site.child step) (site'.child step) resolving hle sub)
        fun name _ => ?_
      split
      · exact hR.refl _
      · exact hR.followBinding rfl fun bound _ => ih _ _ _ hle bound

/-! ### Chains of rules and nested conditionals -/

/-- Conditionals for rules, each in the else arm of the one before, and a fallback last. -/
def nested (rules : List (Expr × Expr)) (otherwise : Expr) : Expr :=
  rules.foldr (fun rule rest => .ifThenElse rule.1 rule.2 rest) otherwise

/-- Nested conditionals end as rules do if they have one level more for each rule. -/
theorem reduceRules_keptBy_nested {rules : List (Expr × Expr)} {otherwise : Expr} {index : Nat}
    (hle : levels + rules.length ≤ levels') :
    Run.KeptBy Literal
      (reduceRules (fun step e => reduce context limit levels (site.child step) resolving e)
        site index rules (some otherwise))
      (reduce context limit' levels' site' resolving (nested rules otherwise)) := by
  induction rules generalizing index levels' site' with
  | nil =>
      exact (reduce_keptBy_of_le context limit limit' _ site' resolving hle otherwise).of_outcome
        (takeArm_outcome _ _ _ _) rfl
  | cons rule rest ih =>
      obtain ⟨condition, result⟩ := rule
      rw [List.length_cons] at hle
      obtain ⟨levels', rfl⟩ : ∃ n, levels' = n + 1 := ⟨levels' - 1, by omega⟩
      have hpart : ∀ site site' e, Run.KeptBy Literal (reduce context limit levels site resolving e)
          (reduce context limit' levels' site' resolving e) :=
        fun site site' e => reduce_keptBy_of_le _ _ _ site site' resolving (by omega) e
      have hrest := @ih levels' (site'.child .elseArm) (index + 1) (by omega)
      exact test_keptBy _ _ (hpart _ _ condition) (takeArm_keptBy (hpart _ _ result))
        (hrest.of_outcome rfl (takeArm_outcome _ _ _ _))

/-- Rules whose parts have no fewer levels end as nested conditionals do. -/
theorem nested_keptBy_reduceRules {rules : List (Expr × Expr)} {otherwise : Expr} {index : Nat}
    (hle : levels ≤ levels') :
    Run.KeptBy Literal (reduce context limit levels site resolving (nested rules otherwise))
      (reduceRules (fun step e => reduce context limit' levels' (site'.child step) resolving e)
        site' index rules (some otherwise)) := by
  induction rules generalizing index levels site with
  | nil =>
      exact (reduce_keptBy_of_le context limit limit' site _ resolving hle otherwise).of_outcome
        rfl (takeArm_outcome _ _ _ _)
  | cons rule rest ih =>
      obtain ⟨condition, result⟩ := rule
      cases levels with
      | zero => exact .of_tooDeep limit _
      | succ levels =>
          have hpart : ∀ site site' e, Run.KeptBy Literal
              (reduce context limit levels site resolving e)
              (reduce context limit' levels' site' resolving e) :=
            fun site site' e => reduce_keptBy_of_le _ _ _ site site' resolving (by omega) e
          have hrest := @ih levels (site.child .elseArm) (index + 1) (by omega)
          exact test_keptBy _ _ (hpart _ _ condition) (takeArm_keptBy (hpart _ _ result))
            (hrest.of_outcome (takeArm_outcome _ _ _ _) rfl)

/-! ### Cases for the two truth values -/

/-- Cases for the two truth values. -/
def truthCases (subject whenTrue whenFalse : Expr) : Expr :=
  .finiteBranch subject
    [(.literal (.bool true), whenTrue), (.literal (.bool false), whenFalse)] none

variable {context limit site resolving}

/-- A value does not depend on the site. -/
theorem reduce_ok_site_iff {e : Expr} {value : Literal} (site' : Site Origin) :
    (reduce context limit levels site resolving e).outcome = .ok value ↔
      (reduce context limit levels site' resolving e).outcome = .ok value :=
  ⟨(reduce_keptBy_of_le context limit limit site site' resolving (Nat.le_refl _) e).value value,
    (reduce_keptBy_of_le context limit limit site' site resolving (Nat.le_refl _) e).value value⟩

/-- A result has the same value in every arm. -/
theorem takeArm_ok_arm_iff {arm : Arm} {result : Expr} {value : Literal} (arm' : Arm) :
    (takeArm (fun step e => reduce context limit levels (site.child step) resolving e)
        site arm result).outcome = .ok value ↔
      (takeArm (fun step e => reduce context limit levels (site.child step) resolving e)
        site arm' result).outcome = .ok value := by
  rw [takeArm_outcome, takeArm_outcome]
  exact reduce_ok_site_iff _

/-- Cases for the two truth values have the value of the conditional. -/
theorem reduce_truthCases_ok_iff {subject whenTrue whenFalse : Expr} {value : Literal} :
    (reduce context limit levels site resolving (truthCases subject whenTrue whenFalse)).outcome =
        .ok value ↔
      (reduce context limit levels site resolving
        (.ifThenElse subject whenTrue whenFalse)).outcome = .ok value := by
  cases levels with
  | zero => exact ⟨nofun, nofun⟩
  | succ levels =>
      refine Run.bind_outcome_ok_iff.trans (Iff.trans ?_ Run.bind_outcome_ok_iff.symm)
      refine exists_congr fun tested => ?_
      rw [reduce_ok_site_iff (site.child .condition)]
      refine and_congr_right fun htested => ?_
      -- where the subject has a value, there are levels left for the keys
      cases levels with
      | zero => cases htested
      | succ levels =>
          cases tested with
          | string text | number x => exact ⟨nofun, nofun⟩
          | bool b =>
              cases b with
              | true => exact takeArm_ok_arm_iff .thenArm
              | false => exact takeArm_ok_arm_iff .elseArm

end Forms

/-- **The forms of branches agree where they overlap.** What a chain of rules with a fallback
ends with, a value or an error other than meeting the limit, the nested conditionals end with
under a limit that is higher by one more than the number of rules, and the other way round.
Cases for the two truth values without a fallback have a value if and only if the conditional
has it, under the same limit. -/
theorem branch_forms_agree (context : Context) (maxDepth : Int) :
    (∀ (rules : List (Expr × Expr)) (otherwise : Expr),
      Run.KeptBy Literal (evaluate context maxDepth (.ruleChain rules (some otherwise)))
        (evaluate context (maxDepth + rules.length + 1) (nested rules otherwise)) ∧
      Run.KeptBy Literal (evaluate context maxDepth (nested rules otherwise))
        (evaluate context (maxDepth + rules.length + 1) (.ruleChain rules (some otherwise)))) ∧
    ∀ (subject whenTrue whenFalse : Expr) (value : Literal),
      (evaluate context maxDepth (truthCases subject whenTrue whenFalse)).outcome = .ok value ↔
        (evaluate context maxDepth (.ifThenElse subject whenTrue whenFalse)).outcome =
          .ok value := by
  refine ⟨fun rules otherwise => ?_, fun subject whenTrue whenFalse value =>
    reduce_truthCases_ok_iff⟩
  unfold evaluate
  cases hlevels : (maxDepth + 1).toNat with
  | zero => exact ⟨.of_tooDeep maxDepth _, .of_tooDeep maxDepth _⟩
  | succ levels =>
      have hmore : (maxDepth + rules.length + 1 + 1).toNat = levels + rules.length + 1 + 1 := by
        omega
      rw [hmore]
      exact ⟨reduceRules_keptBy_nested _ _ _ _ _ _ (by omega),
        nested_keptBy_reduceRules _ _ _ _ _ _ (by omega)⟩

/-- Two rules that do not apply. -/
def idleRules : List (Expr × Expr) :=
  [(.literal (.bool false), .literal (.string "a")),
    (.literal (.bool false), .literal (.string "b"))]

/-- On one limit the forms may differ: each conditional is one level below the one before. -/
example : (evaluate [] 1 (.ruleChain idleRules (some (.literal (.string "c"))))).outcome =
      .ok (.string "c") ∧
    (evaluate [] 1 (nested idleRules (.literal (.string "c")))).outcome = .error (.tooDeep 1) ∧
    (evaluate [] 2 (nested idleRules (.literal (.string "c")))).outcome = .ok (.string "c") :=
  ⟨rfl, rfl, rfl⟩

end Rulebook
