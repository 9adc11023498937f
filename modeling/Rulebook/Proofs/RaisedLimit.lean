import Rulebook.Proofs.ScopeRun

/-!
Raising the limit never changes an answer.

On more levels a run makes the same decisions and ends in the same way, unless the
limit cut the first one short; then its decisions are the first ones of the other
(`reduce_upTo_of_le`). A scope makes its evaluations one after the other, so the
same holds of the scope (`Scope.evaluate_upTo_of_le`).
-/

namespace Rulebook

/-! ### Expressions -/

section Expressions

variable (context : Context)

/-- Evaluation on no fewer levels is the same run, unless the limit cut the first one
short. -/
theorem reduce_upTo_of_le (limit limit' : Int) {levels levels' : Nat} (hle : levels ≤ levels')
    (site : Site Origin) (resolving : List String) (e : Expr) :
    Run.UpTo EvalError.IsTooDeep Literal (reduce context limit levels site resolving e)
      (reduce context limit' levels' site resolving e) := by
  induction levels generalizing levels' site resolving e with
  | zero => exact .inr ⟨List.nil_prefix, _, ⟨_, rfl⟩, rfl⟩
  | succ levels ih =>
      obtain ⟨levels', rfl⟩ : ∃ n, levels' = n + 1 := ⟨levels' - 1, by omega⟩
      have hR := Run.congruence_upTo EvalError.IsTooDeep
      refine hR.reduceLevel (fun _ => hR.refl _)
        (fun step sub _ => ih (by omega) (site.child step) resolving sub) fun name _ => ?_
      split
      · exact hR.refl _
      · exact hR.followBinding rfl fun bound _ => ih (by omega) _ _ bound

theorem evaluate_upTo_of_le {maxDepth maxDepth' : Int} (hle : maxDepth ≤ maxDepth') (e : Expr) :
    Run.UpTo EvalError.IsTooDeep Literal (evaluate context maxDepth e)
      (evaluate context maxDepth' e) :=
  reduce_upTo_of_le context maxDepth maxDepth' (Int.toNat_le_toNat (by omega)) _ _ e

end Expressions

/-! ### Scopes -/

namespace Scope

theorem untraced_bind {α β : Type} (outcome : Except ScopeError α)
    (next : α → Except ScopeError β) :
    untraced (outcome >>= next) = (untraced outcome >>= fun value => untraced (next value)) := by
  cases outcome <;> rfl

section Limits

variable {maxDepth maxDepth' : Int} (hle : maxDepth ≤ maxDepth')
include hle

theorem checkInput_upTo_of_le (context : Context) (name : String) (kind : Kind) :
    Run.UpTo ScopeError.MeetsLimit Unit (untraced (checkInput context maxDepth name kind))
      (untraced (checkInput context maxDepth' name kind)) := by
  cases hbound : Members.get? context name with
  | none =>
      simp only [checkInput, hbound]
      exact .inl rfl
  | some bound =>
      simp only [checkInput, hbound]
      rcases evaluate_upTo_of_le context hle bound with heq | ⟨_, error, hstop, hrun⟩
      · rw [heq]
        exact .inl rfl
      · rw [hrun]
        exact .inr ⟨List.nil_prefix, .inputEvaluation error, ⟨error, rfl, hstop⟩, rfl⟩

theorem checkInputs_upTo_of_le (context : Context) (inputs : List (String × Kind)) :
    Run.UpTo ScopeError.MeetsLimit Unit (untraced (checkInputs context maxDepth inputs))
      (untraced (checkInputs context maxDepth' inputs)) := by
  induction inputs with
  | nil => exact .inl rfl
  | cons input rest ih =>
      obtain ⟨name, kind⟩ := input
      simp only [checkInputs, untraced_bind]
      exact (checkInput_upTo_of_le hle context name kind).bind fun _ => ih

theorem runCalculations_upTo_of_le (context : Context) (calculations : List (String × Expr)) :
    Run.UpTo ScopeError.MeetsLimit Context (runCalculations maxDepth context calculations)
      (runCalculations maxDepth' context calculations) := by
  induction calculations generalizing context with
  | nil => exact .inl rfl
  | cons calculation rest ih =>
      obtain ⟨name, e⟩ := calculation
      have hfirst : Run.UpTo ScopeError.MeetsLimit Literal (runCalculation context maxDepth name e)
          (runCalculation context maxDepth' name e) :=
        (evaluate_upTo_of_le context hle e).mapBoth fun cause hstop => ⟨cause, rfl, hstop⟩
      exact hfirst.bind fun value => ih _

/-- The evaluation of a scope under no smaller limit is the same run, unless the limit
cut the first one short. -/
theorem evaluate_upTo_of_le (context : Context) (scope : Scope) :
    Run.UpTo ScopeError.MeetsLimit (List (String × Expr)) (scope.evaluate context maxDepth)
      (scope.evaluate context maxDepth') := by
  refine (checkInputs_upTo_of_le hle context scope.inputs).bind fun _ => ?_
  exact (runCalculations_upTo_of_le hle context scope.calculations).bind fun _ => .inl rfl

end Limits

end Scope

/-- **Raising the limit never changes an answer.** An expression, or a scope, whose
evaluation does not meet the limit is evaluated alike under every higher limit: it has
the same value, the same results or the same error, and makes the same decisions. Where
it meets the limit, the decisions made so far are the first ones made under a higher
limit. -/
theorem answers_kept_under_higher_limit (context : Context) (e : Expr) (scope : Scope)
    (maxDepth maxDepth' : Int) (hle : maxDepth ≤ maxDepth') :
    ((∀ limit, (evaluate context maxDepth e).outcome ≠ .error (.tooDeep limit)) →
      evaluate context maxDepth' e = evaluate context maxDepth e) ∧
    (evaluate context maxDepth e).decisions <+: (evaluate context maxDepth' e).decisions ∧
    ((∀ error, (scope.evaluate context maxDepth).outcome = .error error →
        ∀ limit, error.cause? ≠ some (.tooDeep limit)) →
      scope.evaluate context maxDepth' = scope.evaluate context maxDepth) ∧
    (scope.evaluate context maxDepth).decisions <+:
      (scope.evaluate context maxDepth').decisions := by
  have hrun := evaluate_upTo_of_le context hle e
  have hscope := Scope.evaluate_upTo_of_le hle context scope
  refine ⟨?_, hrun.decisions_prefix, ?_, hscope.decisions_prefix⟩
  · intro h
    refine (hrun.eq_of_not_stop ?_).symm
    rintro _ herror ⟨limit, rfl⟩
    exact h limit herror
  · intro h
    refine (hscope.eq_of_not_stop ?_).symm
    rintro error herror ⟨_, hcause, limit, rfl⟩
    exact h error herror limit hcause

/-- A flag asked for twice, the second time in an arm. -/
def nestedFlags : Expr :=
  .ifThenElse (.reference "flag")
    (.ifThenElse (.reference "flag") (.literal (.string "both")) (.literal (.string "first")))
    (.literal (.string "none"))

/-- A context with the flag set. -/
def flagContext : Context := [("flag", .literal (.bool true))]

/-- A scope that calculates `nestedFlags`. -/
def flagScope : Scope where
  inputs := [("flag", .bool)]
  calculations := [("answer", nestedFlags)]
  outputs := ["answer"]
  nodup_inputs := by decide
  nodup_calculations := by decide
  pairwise_outputs := by decide

/-- The limit 2 cuts `nestedFlags` short after one decision; from 3 on nothing changes. -/
theorem nested_flags_answered_from_three :
    (evaluate flagContext 2 nestedFlags).outcome = .error (.tooDeep 2) ∧
    (evaluate flagContext 2 nestedFlags).decisions.length = 1 ∧
    (evaluate flagContext 2 nestedFlags).decisions <+:
      (evaluate flagContext 3 nestedFlags).decisions ∧
    (flagScope.evaluate flagContext 2).decisions <+:
      (flagScope.evaluate flagContext 3).decisions ∧
    (evaluate flagContext 3 nestedFlags).outcome = .ok (.string "both") ∧
    evaluate flagContext 7 nestedFlags = evaluate flagContext 3 nestedFlags ∧
    flagScope.evaluate flagContext 7 = flagScope.evaluate flagContext 3 := by
  have hcut := answers_kept_under_higher_limit flagContext nestedFlags flagScope 2 3 (by decide)
  have hkept := answers_kept_under_higher_limit flagContext nestedFlags flagScope 3 7 (by decide)
  have hrun : (evaluate flagContext 3 nestedFlags).outcome = .ok (.string "both") := rfl
  have hscope : (flagScope.evaluate flagContext 3).outcome =
      .ok [("answer", .literal (.string "both"))] := rfl
  refine ⟨rfl, rfl, hcut.2.1, hcut.2.2.2, hrun, hkept.1 ?_, hkept.2.2.1 ?_⟩
  · simp [hrun]
  · simp [hscope]

end Rulebook
