import Mathlib.Data.List.Basic
import Rulebook.Proofs.Readings
import Rulebook.Proofs.Run
import Rulebook.Scope.Evaluation

/-!
Runs of scopes, taken apart.

A scope succeeds when every input passes its check and every calculation has a
value (`evaluate_ok_iff`, `runCalculations_cons_ok`). What stops it is the check
of one input or the evaluation of one calculation (`checkInputs_error`,
`runCalculations_cons_error`). While calculations run, every name is bound as the
caller bound it or to a literal (`Working`).
-/

namespace Rulebook

/-! ### Errors -/

/-- The error of an evaluation that stopped a scope. -/
def ScopeError.cause? : ScopeError → Option EvalError
  | .input _ _ => none
  | .inputEvaluation error => some error
  | .calculation _ cause => some cause

/-- The limit cut an evaluation of the scope short. -/
def ScopeError.MeetsLimit (error : ScopeError) : Prop :=
  ∃ cause, error.cause? = some cause ∧ cause.IsTooDeep

/-! ### Lists that are gone through -/

/-- The first item that stops is the one in front, or that one passes and the first is
among the others. -/
theorem exists_first_cons_iff {α : Type} {passes stops : α → Prop} {item : α} {rest : List α} :
    (∃ before found after, item :: rest = before ++ found :: after ∧
        (∀ other ∈ before, passes other) ∧ stops found) ↔
      stops item ∨ passes item ∧ ∃ before found after, rest = before ++ found :: after ∧
        (∀ other ∈ before, passes other) ∧ stops found := by
  constructor
  · rintro ⟨before, found, after, heq, hpasses, hstops⟩
    cases before with
    | nil =>
        cases heq
        exact .inl hstops
    | cons first before =>
        obtain ⟨rfl, rfl⟩ := List.cons.inj heq
        obtain ⟨hfirst, hpasses⟩ := List.forall_mem_cons.mp hpasses
        exact .inr ⟨hfirst, before, found, after, rfl, hpasses, hstops⟩
  · rintro (hstops | ⟨hfirst, before, found, after, rfl, hpasses, hstops⟩)
    · exact ⟨[], item, rest, rfl, nofun, hstops⟩
    · exact ⟨item :: before, found, after, rfl, List.forall_mem_cons.mpr ⟨hfirst, hpasses⟩, hstops⟩

namespace Scope

variable {context : Context} {maxDepth : Int}

/-! ### Inputs -/

/-- The check of an input finds a fault of its own, or an evaluation stops it. -/
theorem checkInput_error {name : String} {kind : Kind} {error : ScopeError}
    (h : checkInput context maxDepth name kind = .error error) :
    error.cause? = none ∨ ∃ bound cause, Members.get? context name = some bound ∧
      (Rulebook.evaluate context maxDepth bound).outcome = .error cause ∧
        error = .inputEvaluation cause := by
  unfold checkInput at h
  split at h
  · cases h
    exact .inl rfl
  · next bound hbound =>
      split at h
      · next cause hcause =>
          cases h
          exact .inr ⟨bound, cause, hbound, hcause, rfl⟩
      · split at h
        · cases h
        · cases h
          exact .inl rfl

/-- A literal of the right kind passes the check, with one level to enter. -/
theorem checkInput_of_literal (hdepth : 0 ≤ maxDepth) {name : String} {v : Literal}
    (hbound : Members.get? context name = some (.literal v)) :
    checkInput context maxDepth name v.kind = .ok () := by
  obtain ⟨levels, hlevels⟩ : ∃ n, (maxDepth + 1).toNat = n + 1 := ⟨maxDepth.toNat, by omega⟩
  simp only [checkInput, hbound, Rulebook.evaluate, hlevels]
  exact if_pos rfl

/-- Inputs pass their check when each of them does. -/
theorem checkInputs_ok_iff {inputs : List (String × Kind)} :
    checkInputs context maxDepth inputs = .ok () ↔
      ∀ input ∈ inputs, checkInput context maxDepth input.1 input.2 = .ok () := by
  induction inputs with
  | nil => simp [checkInputs]
  | cons input rest ih =>
      obtain ⟨name, kind⟩ := input
      rw [List.forall_mem_cons, ← ih]
      simp only [checkInputs]
      cases hfirst : checkInput context maxDepth name kind with
      | ok _ => exact (and_iff_right rfl).symm
      | error error =>
          constructor
          · intro h
            cases h
          · rintro ⟨h, _⟩
            cases h

/-- The check of inputs is stopped by the first one that does not pass. -/
theorem checkInputs_error_iff {inputs : List (String × Kind)} {error : ScopeError} :
    checkInputs context maxDepth inputs = .error error ↔
      ∃ before input after, inputs = before ++ input :: after ∧
        (∀ other ∈ before, checkInput context maxDepth other.1 other.2 = .ok ()) ∧
        checkInput context maxDepth input.1 input.2 = .error error := by
  induction inputs with
  | nil => simp [checkInputs]
  | cons input rest ih =>
      rw [exists_first_cons_iff, ← ih]
      simp only [checkInputs]
      cases hfirst : checkInput context maxDepth input.1 input.2 with
      | ok _ => simp
      | error other => simp

/-- An error in the check of inputs is found by the check of one of them. -/
theorem checkInputs_error {inputs : List (String × Kind)} {error : ScopeError}
    (h : checkInputs context maxDepth inputs = .error error) :
    ∃ input ∈ inputs, checkInput context maxDepth input.1 input.2 = .error error := by
  obtain ⟨before, input, after, rfl, _, herror⟩ := checkInputs_error_iff.mp h
  exact ⟨input, by simp, herror⟩

/-! ### Calculations -/

section Calculations

variable {name : String} {e : Expr} {rest : List (String × Expr)}

theorem runCalculation_ok_iff {value : Literal} :
    (runCalculation context maxDepth name e).outcome = .ok value ↔
      (Rulebook.evaluate context maxDepth e).outcome = .ok value := by
  rw [runCalculation, Run.outcome_mapBoth]
  cases (Rulebook.evaluate context maxDepth e).outcome with
  | ok result =>
      constructor
      · rintro ⟨⟩
        rfl
      · rintro ⟨⟩
        rfl
  | error cause =>
      constructor
      · rintro ⟨⟩
      · rintro ⟨⟩

theorem runCalculation_error_iff {error : ScopeError} :
    (runCalculation context maxDepth name e).outcome = .error error ↔
      ∃ cause, (Rulebook.evaluate context maxDepth e).outcome = .error cause ∧
        error = .calculation name cause := by
  rw [runCalculation, Run.outcome_mapBoth]
  cases (Rulebook.evaluate context maxDepth e).outcome with
  | ok result =>
      constructor
      · rintro ⟨⟩
      · rintro ⟨_, ⟨⟩, _⟩
  | error cause =>
      constructor
      · rintro ⟨⟩
        exact ⟨cause, rfl, rfl⟩
      · rintro ⟨_, ⟨⟩, rfl⟩
        rfl

/-- A calculation that succeeds binds its value before the next one runs. -/
theorem runCalculations_cons_ok {final : Context} :
    (runCalculations maxDepth context ((name, e) :: rest)).outcome = .ok final ↔
      ∃ value, (Rulebook.evaluate context maxDepth e).outcome = .ok value ∧
        (runCalculations maxDepth (Members.put context name (.literal value)) rest).outcome =
          .ok final :=
  Run.bind_outcome_ok_iff.trans
    (exists_congr fun _ => and_congr_left fun _ => runCalculation_ok_iff)

/-- Calculations are stopped by the first one, or by a later one after it succeeded. -/
theorem runCalculations_cons_error {error : ScopeError} :
    (runCalculations maxDepth context ((name, e) :: rest)).outcome = .error error ↔
      (∃ cause, (Rulebook.evaluate context maxDepth e).outcome = .error cause ∧
        error = .calculation name cause) ∨
      ∃ value, (Rulebook.evaluate context maxDepth e).outcome = .ok value ∧
        (runCalculations maxDepth (Members.put context name (.literal value)) rest).outcome =
          .error error :=
  Run.bind_outcome_error_iff.trans (or_congr runCalculation_error_iff
    (exists_congr fun _ => and_congr_left fun _ => runCalculation_ok_iff))

end Calculations

/-! ### The working context -/

/-- Every name is bound as the caller bound it, or to a literal. -/
def Working (context working : Context) : Prop :=
  ∀ name bound, Members.get? working name = some bound →
    Members.get? context name = some bound ∨ ∃ value, bound = .literal value

theorem Working.start (context : Context) : Working context context :=
  fun _ _ h => .inl h

theorem Working.put {working : Context} (h : Working context working) (name : String)
    (value : Literal) : Working context (Members.put working name (.literal value)) := by
  intro other bound hbound
  rw [Members.get?_put] at hbound
  split at hbound
  · exact .inr ⟨value, (Option.some.inj hbound).symm⟩
  · exact h other bound hbound

/-! ### The whole scope -/

/-- The results of a scope are the outputs that are bound in its final context. -/
theorem evaluate_ok_iff {scope : Scope} {results : List (String × Expr)} :
    (scope.evaluate context maxDepth).outcome = .ok results ↔
      scope.validate context maxDepth = .ok () ∧
        ∃ final, (runCalculations maxDepth context scope.calculations).outcome = .ok final ∧
          results = publish scope.outputs final := by
  constructor
  · intro h
    obtain ⟨_, hvalid, h⟩ := Run.bind_outcome_ok_iff.mp h
    obtain ⟨final, hfinal, h⟩ := Run.bind_outcome_ok_iff.mp h
    exact ⟨hvalid, final, hfinal, (Except.ok.inj h).symm⟩
  · rintro ⟨hvalid, final, hfinal, rfl⟩
    exact Run.bind_outcome_ok_iff.mpr
      ⟨(), hvalid, Run.bind_outcome_ok_iff.mpr ⟨final, hfinal, rfl⟩⟩

theorem evaluate_ok {scope : Scope} {results : List (String × Expr)}
    (h : (scope.evaluate context maxDepth).outcome = .ok results) :
    scope.validate context maxDepth = .ok () ∧
      ∃ final, (runCalculations maxDepth context scope.calculations).outcome = .ok final ∧
        results = publish scope.outputs final :=
  evaluate_ok_iff.mp h

/-- A scope is stopped by the check of its inputs, or by a calculation after it. -/
theorem evaluate_error_iff {scope : Scope} {error : ScopeError} :
    (scope.evaluate context maxDepth).outcome = .error error ↔
      scope.validate context maxDepth = .error error ∨
        scope.validate context maxDepth = .ok () ∧
          (runCalculations maxDepth context scope.calculations).outcome = .error error := by
  constructor
  · intro h
    rcases Run.bind_outcome_error_iff.mp h with hvalid | ⟨_, hvalid, h⟩
    · exact .inl hvalid
    rcases Run.bind_outcome_error_iff.mp h with hrun | ⟨final, _, hpure⟩
    · exact .inr ⟨hvalid, hrun⟩
    · cases hpure
  · rintro (hvalid | ⟨hvalid, hrun⟩)
    · exact Run.bind_outcome_error_iff.mpr (.inl hvalid)
    · exact Run.bind_outcome_error_iff.mpr
        (.inr ⟨(), hvalid, Run.bind_outcome_error_iff.mpr (.inl hrun)⟩)

/-- Contexts that bind the outputs alike publish alike. -/
theorem publish_congr {context' : Context} {outputs : List String}
    (h : ∀ name ∈ outputs, Members.get? context name = Members.get? context' name) :
    publish outputs context = publish outputs context' := by
  refine List.filterMap_congr fun name mem => ?_
  rw [h name mem]

theorem mem_publish {outputs : List String} {name : String} {value : Expr}
    (h : (name, value) ∈ publish outputs context) :
    Members.get? context name = some value := by
  obtain ⟨output, _, h⟩ := List.mem_filterMap.mp h
  obtain ⟨bound, hbound, heq⟩ := Option.map_eq_some_iff.mp h
  cases heq
  exact hbound

end Scope

end Rulebook
