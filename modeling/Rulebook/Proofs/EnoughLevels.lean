import Mathlib.Algebra.Order.BigOperators.Group.Finset
import Rulebook.Proofs.CycleGuard
import Rulebook.Proofs.Parts
import Rulebook.Proofs.ScopeRun

/-!
How many levels are always enough.

While a name is being resolved the cycle guard does not let it be resolved again, so
the names that are being resolved at one time differ from each other. Each of them
takes the levels of what it is bound to and one level for the hop, and the rest is for
the expression itself (`reduce_not_tooDeep`). In a scope every calculation adds at most
one name, bound to a literal (`Context.levelSum_put_literal`).
-/

namespace Rulebook

/-! ### The levels of a context -/

namespace Context

/-- The names that a context binds. -/
def boundNames (context : Context) : Finset String := (Members.names context).toFinset

/-- The height of what a name is bound to. -/
def boundHeight (context : Context) (name : String) : Nat :=
  match Members.get? context name with
  | none => 0
  | some bound => bound.height

/-- The levels that the names of a context take together: for each of them one hop and
the height of what it is bound to. -/
def levelSum (context : Context) : Nat :=
  ∑ name ∈ context.boundNames, (1 + context.boundHeight name)

/-- The levels that the names take which are not being resolved. -/
def levelsBeside (context : Context) (resolving : List String) : Nat :=
  ∑ name ∈ context.boundNames \ resolving.toFinset, (1 + context.boundHeight name)

section Levels

variable {context : Context} {name : String}

theorem mem_boundNames : name ∈ context.boundNames ↔
    ∃ bound, Members.get? context name = some bound := by
  rw [boundNames, List.mem_toFinset, Members.mem_names_iff]

theorem boundHeight_of_get {bound : Expr} (h : Members.get? context name = some bound) :
    context.boundHeight name = bound.height := by
  simp only [boundHeight, h]

theorem levelsBeside_nil (context : Context) : context.levelsBeside [] = context.levelSum := by
  simp only [levelsBeside, levelSum, List.toFinset_nil, Finset.sdiff_empty]

/-- Resolving one more name takes its levels out of those that are left. -/
theorem levelsBeside_append {resolving : List String} {bound : Expr}
    (hbound : Members.get? context name = some bound) (hfresh : name ∉ resolving) :
    context.levelsBeside resolving =
      1 + bound.height + context.levelsBeside (resolving ++ [name]) := by
  have mem : name ∈ context.boundNames \ resolving.toFinset := by
    rw [Finset.mem_sdiff, List.mem_toFinset]
    exact ⟨mem_boundNames.mpr ⟨bound, hbound⟩, hfresh⟩
  have hrest : context.boundNames \ (resolving ++ [name]).toFinset =
      (context.boundNames \ resolving.toFinset).erase name := by
    ext other
    simp only [Finset.mem_sdiff, Finset.mem_erase, List.mem_toFinset, List.mem_append,
      List.mem_singleton]
    tauto
  rw [levelsBeside, levelsBeside, hrest, ← boundHeight_of_get hbound]
  exact (Finset.add_sum_erase _ (fun other => 1 + context.boundHeight other) mem).symm

theorem boundHeight_put_literal (context : Context) (name other : String) (value : Literal) :
    boundHeight (Members.put context name (.literal value)) other =
      if name = other then 0 else context.boundHeight other := by
  simp only [boundHeight, Members.get?_put]
  by_cases heq : name = other
  · simp only [heq, if_true, Expr.height]
  · simp only [heq, if_false]

theorem boundNames_put (context : Context) (name : String) (bound : Expr) :
    boundNames (Members.put context name bound) = insert name context.boundNames := by
  ext other
  simp only [boundNames, List.mem_toFinset, Finset.mem_insert, Members.mem_names_put]

/-- Binding a literal adds one hop at most. -/
theorem levelSum_put_literal (context : Context) (name : String) (value : Literal) :
    levelSum (Members.put context name (.literal value)) ≤ context.levelSum + 1 := by
  have hothers : ∀ other ∈ context.boundNames.erase name,
      1 + boundHeight (Members.put context name (.literal value)) other =
        1 + context.boundHeight other := by
    intro other mem
    rw [boundHeight_put_literal, if_neg (Finset.ne_of_mem_erase mem).symm]
  calc levelSum (Members.put context name (.literal value))
      = 1 + boundHeight (Members.put context name (.literal value)) name +
          ∑ other ∈ context.boundNames.erase name,
            (1 + boundHeight (Members.put context name (.literal value)) other) := by
        rw [levelSum, boundNames_put, ← Finset.erase_insert_eq_erase]
        exact (Finset.add_sum_erase _ _ (Finset.mem_insert_self _ _)).symm
    _ = 1 + ∑ other ∈ context.boundNames.erase name, (1 + context.boundHeight other) := by
        rw [boundHeight_put_literal, if_pos rfl, Finset.sum_congr rfl hothers]
    _ ≤ 1 + context.levelSum :=
        Nat.add_le_add_left (Finset.sum_le_sum_of_subset (Finset.erase_subset _ _)) 1
    _ = context.levelSum + 1 := Nat.add_comm _ _

end Levels

end Context

/-! ### Expressions -/

section Expressions

variable {context : Context} {maxDepth : Int}

/-- An expression does not meet the limit if its own levels and those of the names which
are not being resolved are left. -/
theorem reduce_not_tooDeep {limit : Int} {levels : Nat} {site : Site Origin}
    {resolving : List String} {e : Expr}
    (hlevels : e.height + context.levelsBeside resolving < levels) {error : EvalError}
    (h : (reduce context limit levels site resolving e).outcome = .error error) :
    ¬ error.IsTooDeep := by
  induction levels generalizing site resolving e with
  | zero => omega
  | succ levels ih =>
      rcases reduceLevel_error h with hlocal | ⟨name, rfl, hname⟩ | ⟨step, sub, mem, hpart⟩
      · rintro ⟨_, rfl⟩
        exact hlocal
      · split at hname
        · cases hname
          rintro ⟨_, ⟨⟩⟩
        · next hfresh =>
            cases hbound : Members.get? context name with
            | none =>
                rw [followBinding_of_none hbound] at hname
                cases hname
                rintro ⟨_, ⟨⟩⟩
            | some bound =>
                rw [followBinding_of_some hbound] at hname
                have hsplit := Context.levelsBeside_append hbound hfresh
                exact ih (by omega) hname
      · have hlower := Expr.height_lt_of_mem_parts mem
        exact ih (by omega) hpart

theorem evaluate_not_tooDeep {e : Expr}
    (hlevels : ((e.height + context.levelSum : Nat) : Int) ≤ maxDepth) {error : EvalError}
    (h : (evaluate context maxDepth e).outcome = .error error) : ¬ error.IsTooDeep := by
  refine reduce_not_tooDeep ?_ h
  rw [Context.levelsBeside_nil]
  omega

end Expressions

/-! ### Scopes -/

namespace Scope

variable {context : Context} {maxDepth : Int} {highest : Nat}

/-- Inputs bound to expressions of limited height pass or fail below the limit. -/
theorem checkInputs_not_tooDeep {inputs : List (String × Kind)}
    (hbound : ∀ name bound, Members.get? context name = some bound → bound.height ≤ highest)
    (hlevels : ((context.levelSum + highest : Nat) : Int) ≤ maxDepth) {error : ScopeError}
    (h : checkInputs context maxDepth inputs = .error error) :
    ¬ error.MeetsLimit := by
  obtain ⟨input, _, hinput⟩ := checkInputs_error h
  rintro ⟨cause, hcause, hdeep⟩
  rcases checkInput_error hinput with hnone | ⟨bound, cause', hget, hrun, rfl⟩
  · cases hnone.symm.trans hcause
  · cases hcause
    have hheight := hbound _ _ hget
    exact evaluate_not_tooDeep (by omega) hrun hdeep

/-- Calculations of limited height do not meet the limit if there is one level more for
each of them. -/
theorem runCalculations_not_tooDeep {calculations : List (String × Expr)}
    (hheight : ∀ calculation ∈ calculations, calculation.2.height ≤ highest)
    (hlevels : ((context.levelSum + calculations.length + highest : Nat) : Int) ≤ maxDepth)
    {error : ScopeError}
    (h : (runCalculations maxDepth context calculations).outcome = .error error) :
    ¬ error.MeetsLimit := by
  induction calculations generalizing context with
  | nil => cases h
  | cons calculation rest ih =>
      obtain ⟨name, e⟩ := calculation
      obtain ⟨hfirst, hrest⟩ := List.forall_mem_cons.mp hheight
      change e.height ≤ highest at hfirst
      rw [List.length_cons] at hlevels
      rcases runCalculations_cons_error.mp h with ⟨cause, hcause, rfl⟩ | ⟨value, _, hlater⟩
      · rintro ⟨_, ⟨⟩, hdeep⟩
        exact evaluate_not_tooDeep (by omega) hcause hdeep
      · have hput := Context.levelSum_put_literal context name value
        exact ih hrest (by omega) hlater

end Scope

/-- **The cycle guard alone makes evaluation finite.** An expression does not meet the
limit if there is a level for each level of its own and, for every name of the context,
one for the hop and one for each level of what it is bound to. It then ends as it does
without the guard, wherever that ends at all, and a cycle is reported exactly where that
has no end. A scope does not meet the limit if there are the levels of its context, one
more for each calculation, and those of the highest expression that is calculated or
bound. -/
theorem limit_not_met_on_enough_levels (context : Context) (e : Expr) (scope : Scope)
    (maxDepth : Int) :
    (((e.height + context.levelSum : Nat) : Int) ≤ maxDepth →
      (∀ limit, (evaluate context maxDepth e).outcome ≠ .error (.tooDeep limit)) ∧
      (∀ maxDepth', (evaluatePlain context maxDepth' e).outcome ≠ .error (.tooDeep maxDepth') →
        (evaluate context maxDepth e).outcome = (evaluatePlain context maxDepth' e).outcome) ∧
      ((∃ chain, (evaluate context maxDepth e).outcome = .error (.cyclic chain)) ↔
        ∀ maxDepth', (evaluatePlain context maxDepth' e).outcome =
          .error (.tooDeep maxDepth'))) ∧
    (∀ highest : Nat, (∀ calculation ∈ scope.calculations, calculation.2.height ≤ highest) →
      (∀ name bound, Members.get? context name = some bound → bound.height ≤ highest) →
      ((context.levelSum + scope.calculations.length + highest : Nat) : Int) ≤ maxDepth →
        ∀ error, (scope.evaluate context maxDepth).outcome = .error error →
          ∀ limit, error.cause? ≠ some (.tooDeep limit)) := by
  constructor
  · intro hlevels
    have hends : ∀ limit, (evaluate context maxDepth e).outcome ≠ .error (.tooDeep limit) :=
      fun limit h => evaluate_not_tooDeep hlevels h ⟨limit, rfl⟩
    refine ⟨hends, ?_, ?_, ?_⟩
    · intro maxDepth' hplain
      rcases evaluate_agree_evaluatePlain context maxDepth maxDepth' e with
        ⟨_, ⟨limit, rfl⟩, hrun⟩ | hmeets | heq
      · exact absurd hrun (hends limit)
      · exact absurd (Run.MeetsLimit.outcome_reducePlain hmeets) hplain
      · exact heq
    · rintro ⟨chain, hcyclic⟩ maxDepth'
      exact evaluatePlain_tooDeep_of_cyclic hcyclic maxDepth'
    · intro hplain
      by_contra hnot
      have hsame : evaluatePlain context maxDepth e = evaluate context maxDepth e :=
        evaluatePlain_eq_of_not_cyclic fun chain hcyclic => hnot ⟨chain, hcyclic⟩
      exact hends maxDepth (by rw [← hsame, hplain maxDepth])
  · intro highest hcalculations hbound hlevels error herror limit hcause
    have hstopped : error.MeetsLimit := ⟨_, hcause, limit, rfl⟩
    rcases Scope.evaluate_error_iff.mp herror with hvalid | ⟨_, hrun⟩
    · exact Scope.checkInputs_not_tooDeep hbound (by omega) hvalid hstopped
    · exact Scope.runCalculations_not_tooDeep hcalculations hlevels hrun hstopped

/-- Two names that lead to each other, one of them through an arm. -/
def loopContext : Context :=
  [("a", .ifThenElse (.literal (.bool true)) (.reference "b") (.literal (.bool false))),
    ("b", .reference "a")]

/-- A scope with one calculation that enters the loop. -/
def loopScope : Scope where
  inputs := []
  calculations := [("looped", .reference "a")]
  outputs := ["looped"]
  nodup_inputs := List.nodup_nil
  nodup_calculations := by decide
  pairwise_outputs := by decide

/-- The loop is found on as many levels as are always enough here, and not on fewer. -/
theorem loop_reported_on_three_levels :
    (Expr.reference "a").height + loopContext.levelSum = 3 ∧
    (evaluate loopContext 2 (.reference "a")).outcome = .error (.tooDeep 2) ∧
    (∃ chain, (evaluate loopContext 3 (.reference "a")).outcome = .error (.cyclic chain)) ∧
    (∀ maxDepth', (evaluatePlain loopContext maxDepth' (.reference "a")).outcome =
      .error (.tooDeep maxDepth')) ∧
    ∀ error, (loopScope.evaluate loopContext 5).outcome = .error error →
      ∀ limit, error.cause? ≠ some (.tooDeep limit) := by
  have hsum : (Expr.reference "a").height + loopContext.levelSum = 3 := by decide
  have hcycle : ∃ chain,
      (evaluate loopContext 3 (.reference "a")).outcome = .error (.cyclic chain) :=
    ⟨["a", "b", "a"], rfl⟩
  have hloop := limit_not_met_on_enough_levels loopContext (.reference "a") loopScope
  have hbound : ∀ name bound, Members.get? loopContext name = some bound → bound.height ≤ 1 := by
    intro name bound hbound
    simp only [loopContext, Members.get?] at hbound
    split at hbound
    · cases hbound
      exact Nat.le_refl 1
    · split at hbound
      · cases hbound
        exact Nat.zero_le 1
      · cases hbound
  refine ⟨hsum, rfl, hcycle, ((hloop 3).1 (by rw [hsum]; decide)).2.2.mp hcycle, ?_⟩
  exact (hloop 5).2 1 (by simp [loopScope, Expr.height]) hbound (by decide)

end Rulebook
