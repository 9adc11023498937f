import Rulebook.Evaluation

/-!
Runs of the evaluator, compared and taken apart.

`Run.Congruence` says that a relation between runs survives going on. Such a
relation only has to be checked at references and at the limit: the forms of
branches are covered once, for all relations, by `Congruence.reduceLevel`.
-/

namespace Rulebook

namespace Run

variable {δ ε α β : Type}

/-! ### Going on -/

@[simp] theorem bind_of_ok {run : Run δ ε α} {value : α} (h : run.outcome = .ok value)
    (next : α → Run δ ε β) :
    (run >>= next) = ⟨run.decisions ++ (next value).decisions, (next value).outcome⟩ := by
  change run.andThen next = _
  simp only [andThen, h]

@[simp] theorem bind_of_error {run : Run δ ε α} {error : ε} (h : run.outcome = .error error)
    (next : α → Run δ ε β) : (run >>= next) = ⟨run.decisions, .error error⟩ := by
  change run.andThen next = _
  simp only [andThen, h]

/-- A run that goes on succeeds when both of its halves do. -/
theorem bind_outcome_ok_iff {run : Run δ ε α} {next : α → Run δ ε β} {result : β} :
    (run >>= next).outcome = .ok result ↔
      ∃ value, run.outcome = .ok value ∧ (next value).outcome = .ok result := by
  cases h : run.outcome with
  | ok value => simp [h]
  | error error => simp [h]

/-- A run that goes on fails in its first half or in its second. -/
theorem bind_outcome_error_iff {run : Run δ ε α} {next : α → Run δ ε β} {error : ε} :
    (run >>= next).outcome = .error error ↔
      run.outcome = .error error ∨
        ∃ value, run.outcome = .ok value ∧ (next value).outcome = .error error := by
  cases h : run.outcome with
  | ok value => simp [h]
  | error other => simp [h]

/-- Going on keeps the decisions made. -/
theorem decisions_prefix_bind (run : Run δ ε α) (next : α → Run δ ε β) :
    run.decisions <+: (run >>= next).decisions := by
  cases h : run.outcome with
  | ok value => simp [h]
  | error error => simp [h]

@[simp] theorem decisions_mapBoth {δ' ε' : Type} (decision : δ → δ') (error : ε → ε')
    (run : Run δ ε α) : (run.mapBoth decision error).decisions = run.decisions.map decision := rfl

@[simp] theorem outcome_mapBoth {δ' ε' : Type} (decision : δ → δ') (error : ε → ε')
    (run : Run δ ε α) : (run.mapBoth decision error).outcome = run.outcome.mapError error := rfl

/-! ### The same run up to an error -/

/-- The same run, unless an error in `stop` cuts the first one short; the second
one makes the decisions of the first in any case. -/
def UpTo (stop : ε → Prop) (α : Type) (run run' : Run δ ε α) : Prop :=
  run = run' ∨
    run.decisions <+: run'.decisions ∧ ∃ error, stop error ∧ run.outcome = .error error

section UpTo

variable {stop : ε → Prop} {run run' : Run δ ε α}

theorem UpTo.bind {next next' : α → Run δ ε β} (h : UpTo stop α run run')
    (hnext : ∀ value, UpTo stop β (next value) (next' value)) :
    UpTo stop β (run >>= next) (run' >>= next') := by
  rcases h with rfl | ⟨hdecisions, error, hstop, hrun⟩
  · cases hrun : run.outcome with
    | error error => exact .inl (by rw [bind_of_error hrun, bind_of_error hrun])
    | ok value =>
        rcases hnext value with heq | ⟨hdecisions, error, hstop, h⟩
        · exact .inl (by rw [bind_of_ok hrun, bind_of_ok hrun, heq])
        · refine .inr ⟨?_, error, hstop, bind_outcome_error_iff.mpr (.inr ⟨value, hrun, h⟩)⟩
          rw [bind_of_ok hrun, bind_of_ok hrun]
          exact (List.prefix_append_right_inj _).mpr hdecisions
  · refine .inr ⟨?_, error, hstop, bind_outcome_error_iff.mpr (.inl hrun)⟩
    rw [bind_of_error hrun]
    exact hdecisions.trans (decisions_prefix_bind run' next')

/-- Runs seen from elsewhere stay the same up to the errors seen from there. -/
theorem UpTo.mapBoth {δ' ε' : Type} {decision : δ → δ'} {error : ε → ε'} {stop' : ε' → Prop}
    (h : UpTo stop α run run') (hstop : ∀ e, stop e → stop' (error e)) :
    UpTo stop' α (run.mapBoth decision error) (run'.mapBoth decision error) := by
  rcases h with rfl | ⟨hdecisions, e, he, hrun⟩
  · exact .inl rfl
  · refine .inr ⟨hdecisions.map decision, error e, hstop e he, ?_⟩
    simp only [Run.mapBoth, hrun]
    rfl

theorem UpTo.decisions_prefix (h : UpTo stop α run run') : run.decisions <+: run'.decisions := by
  rcases h with rfl | ⟨hdecisions, _⟩
  · exact List.prefix_rfl
  · exact hdecisions

/-- Where no error in `stop` ends the first run, both are the same. -/
theorem UpTo.eq_of_not_stop (h : UpTo stop α run run')
    (hnot : ∀ error, run.outcome = .error error → ¬ stop error) : run = run' := by
  rcases h with heq | ⟨_, error, hstop, hrun⟩
  · exact heq
  · exact absurd hstop (hnot error hrun)

end UpTo

/-! ### Relations that survive going on -/

/-- A reflexive relation between runs that going on keeps. -/
structure Congruence (R : (α : Type) → EvalRun α → EvalRun α → Prop) : Prop where
  refl : ∀ {α : Type} (run : EvalRun α), R α run run
  bind : ∀ {α β : Type} {run run' : EvalRun α} {next next' : α → EvalRun β},
    R α run run' → (∀ value, R β (next value) (next' value)) →
      R β (run >>= next) (run' >>= next')

theorem congruence_upTo (stop : EvalError → Prop) : Congruence (UpTo stop) where
  refl _ := .inl rfl
  bind := UpTo.bind

/-- The same outcome, unless an error of the first run is in `stop` or an error
of the second one in `stop'`. -/
def AgreeUnless (stop stop' : EvalError → Prop) (α : Type) (run run' : EvalRun α) : Prop :=
  (∃ error, stop error ∧ run.outcome = .error error) ∨
    (∃ error, stop' error ∧ run'.outcome = .error error) ∨ run.outcome = run'.outcome

theorem congruence_agreeUnless (stop stop' : EvalError → Prop) :
    Congruence (AgreeUnless stop stop') where
  refl _ := .inr (.inr rfl)
  bind := by
    rintro α β run run' next next' (⟨error, hstop, hrun⟩ | ⟨error, hstop, hrun⟩ | heq) hnext
    · exact .inl ⟨error, hstop, bind_outcome_error_iff.mpr (.inl hrun)⟩
    · exact .inr (.inl ⟨error, hstop, bind_outcome_error_iff.mpr (.inl hrun)⟩)
    · cases hrun : run.outcome with
      | error error =>
          refine .inr (.inr ?_)
          rw [bind_of_error hrun, bind_of_error (heq.symm.trans hrun)]
      | ok value =>
          have hrun' := heq.symm.trans hrun
          rcases hnext value with ⟨error, hstop, h⟩ | ⟨error, hstop, h⟩ | h
          · exact .inl ⟨error, hstop, bind_outcome_error_iff.mpr (.inr ⟨value, hrun, h⟩)⟩
          · exact .inr (.inl ⟨error, hstop, bind_outcome_error_iff.mpr (.inr ⟨value, hrun', h⟩)⟩)
          · refine .inr (.inr ?_)
            rw [bind_of_ok hrun, bind_of_ok hrun', h]

/-- Outcomes do not show at which site a decision is made. -/
theorem AgreeUnless.record (stop stop' : EvalError → Prop) (site site' : Site Origin) (arm : Arm) :
    AgreeUnless stop stop' Unit (Run.record ⟨site, arm⟩) (Run.record ⟨site', arm⟩) :=
  .inr (.inr rfl)

end Run

/-! ### One level -/

section Bindings

variable {context : Context} {name : String}

@[simp] theorem followBinding_of_none (h : Members.get? context name = none)
    (next : Expr → EvalRun Literal) :
    followBinding context next name = .fail (.unbound name) := by
  rw [followBinding, h]

@[simp] theorem followBinding_of_some {bound : Expr} (h : Members.get? context name = some bound)
    (next : Expr → EvalRun Literal) : followBinding context next name = next bound := by
  rw [followBinding, h]

end Bindings

/-- The parts of the pairs that are left, and of the fallback, are parts of all pairs. -/
theorem Expr.mem_parts_of_rest {first second : Nat → Step} {index : Nat} {pair : Expr × Expr}
    {rest : List (Expr × Expr)} {otherwise : Option Expr} {part : Step × Expr}
    (mem : part ∈ pairParts first second (index + 1) rest ++ fallbackPart otherwise) :
    part ∈ pairParts first second index (pair :: rest) ++ fallbackPart otherwise := by
  simp only [pairParts, List.cons_append, List.mem_cons]
  exact .inr (.inr mem)

namespace Run.Congruence

variable {R : (α : Type) → EvalRun α → EvalRun α → Prop}
  {part part' : Step → Expr → EvalRun Literal} {site site' : Site Origin}

/-- The two sides may stand at different sites if the relation does not see which
decision is made. -/
theorem takeArm (hR : Congruence R) {arm : Arm} {result : Expr}
    (hsite : ∀ arm, R Unit (Run.record ⟨site, arm⟩) (Run.record ⟨site', arm⟩))
    (h : R Literal (part arm.step result) (part' arm.step result)) :
    R Literal (takeArm part site arm result) (takeArm part' site' arm result) :=
  hR.bind (hsite arm) fun _ => h

theorem reduceRules (hR : Congruence R)
    (hsite : ∀ arm, R Unit (Run.record ⟨site, arm⟩) (Run.record ⟨site', arm⟩))
    {rules : List (Expr × Expr)} {otherwise : Option Expr} {index : Nat}
    (h : ∀ step sub, (step, sub) ∈ Expr.pairParts .ruleCondition .ruleResult index rules ++
      Expr.fallbackPart otherwise → R Literal (part step sub) (part' step sub)) :
    R Literal (reduceRules part site index rules otherwise)
      (reduceRules part' site' index rules otherwise) := by
  induction rules generalizing index with
  | nil =>
      cases otherwise with
      | none => exact hR.refl _
      | some e =>
          exact hR.takeArm hsite (h .otherwise e (by simp [Expr.pairParts, Expr.fallbackPart]))
  | cons pair rest ih =>
      obtain ⟨condition, result⟩ := pair
      refine hR.bind (h _ _ (by simp [Expr.pairParts])) fun value => ?_
      refine hR.bind (hR.refl _) fun holds => ?_
      cases holds with
      | true => exact hR.takeArm hsite (h (.ruleResult index) result (by simp [Expr.pairParts]))
      | false => exact ih fun step sub mem => h step sub (Expr.mem_parts_of_rest mem)

theorem reduceCases (hR : Congruence R)
    (hsite : ∀ arm, R Unit (Run.record ⟨site, arm⟩) (Run.record ⟨site', arm⟩))
    {cases : List (Expr × Expr)} {otherwise : Option Expr} {index : Nat} {value : Literal}
    (h : ∀ step sub, (step, sub) ∈ Expr.pairParts .caseKey .caseResult index cases ++
      Expr.fallbackPart otherwise → R Literal (part step sub) (part' step sub)) :
    R Literal (reduceCases part site value index cases otherwise)
      (reduceCases part' site' value index cases otherwise) := by
  induction cases generalizing index with
  | nil =>
      cases otherwise with
      | none => exact hR.refl _
      | some e =>
          exact hR.takeArm hsite (h .otherwise e (by simp [Expr.pairParts, Expr.fallbackPart]))
  | cons pair rest ih =>
      obtain ⟨key, result⟩ := pair
      refine hR.bind (h _ _ (by simp [Expr.pairParts])) fun candidate => ?_
      split
      · exact hR.takeArm hsite (h (.caseResult index) result (by simp [Expr.pairParts]))
      · exact ih fun step sub mem => h step sub (Expr.mem_parts_of_rest mem)

/-- A relation that holds between the reductions of all parts, or of the name,
holds between the reductions of the whole. -/
theorem reduceLevel (hR : Congruence R)
    (hsite : ∀ arm, R Unit (Run.record ⟨site, arm⟩) (Run.record ⟨site', arm⟩))
    {resolve resolve' : String → EvalRun Literal} {e : Expr}
    (hparts : ∀ step sub, (step, sub) ∈ e.parts → R Literal (part step sub) (part' step sub))
    (hname : ∀ name, e = .reference name → R Literal (resolve name) (resolve' name)) :
    R Literal (reduceLevel part resolve site e) (reduceLevel part' resolve' site' e) := by
  cases e with
  | literal value => exact hR.refl _
  | reference name => exact hname name rfl
  | ifThenElse condition thenArm elseArm =>
      refine hR.bind (hparts _ _ (by simp [Expr.parts])) fun value => ?_
      refine hR.bind (hR.refl _) fun holds => ?_
      cases holds with
      | true => exact hR.takeArm hsite (hparts .thenArm thenArm (by simp [Expr.parts]))
      | false => exact hR.takeArm hsite (hparts .elseArm elseArm (by simp [Expr.parts]))
  | ruleChain rules otherwise => exact hR.reduceRules hsite hparts
  | finiteBranch subject cases otherwise =>
      refine hR.bind (hparts _ _ (by simp [Expr.parts])) fun value => ?_
      exact hR.reduceCases hsite fun step sub mem => hparts step sub (by simp [Expr.parts, mem])

/-- A relation that holds between what is made of a binding holds between what is made
of a name that is bound alike. -/
theorem followBinding (hR : Congruence R) {context context' : Context} {name : String}
    {next next' : Expr → EvalRun Literal}
    (hsame : Members.get? context name = Members.get? context' name)
    (h : ∀ bound, Members.get? context name = some bound →
      R Literal (next bound) (next' bound)) :
    R Literal (followBinding context next name) (followBinding context' next' name) := by
  unfold Rulebook.followBinding
  rw [← hsame]
  split
  · exact hR.refl _
  · next bound hbound => exact h bound hbound

end Run.Congruence

/-! ### Kinds of errors -/

/-- An error that a branch makes itself, whatever its parts reduce to. -/
def EvalError.OfBranch : EvalError → Prop
  | .notBoolean _ _ | .noRuleMatched | .noCaseMatched _ => True
  | _ => False

/-- The limit on levels was met. -/
def EvalError.IsTooDeep (error : EvalError) : Prop := ∃ limit, error = .tooDeep limit

end Rulebook
