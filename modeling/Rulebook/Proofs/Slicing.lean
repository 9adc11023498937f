import Rulebook.Proofs.Reach
import Rulebook.Proofs.ScopeRun

/-!
A scope gives the same results without the calculations that its outputs do not need.

The outputs need the names they list, and with a name those that its calculation or
its binding refers to (`Needed`). A calculation that is left out binds a name that is
not needed. So while calculations run, the contexts of the whole scope and of its slice
may differ in every other name, but they bind the needed ones alike
(`runCalculations_slice`), and no evaluation of a needed calculation leads out of these
(`Working.evaluate_eq_of_needed`).
-/

namespace Rulebook.Scope

/-! ### Slices -/

/-- An output, a name that the calculation of a needed name refers to, or one that the
binding of a needed name refers to. A name may have both, since a calculation may take
the place of a binding. -/
inductive Needed (scope : Scope) (context : Context) : String → Prop where
  | output {name : String} : name ∈ scope.outputs → Needed scope context name
  | calculation {name other : String} {e : Expr} : Needed scope context name →
      (name, e) ∈ scope.calculations → other ∈ e.references → Needed scope context other
  | binding {name other : String} {bound : Expr} : Needed scope context name →
      Members.get? context name = some bound → other ∈ bound.references →
      Needed scope context other

/-- The scope with those calculations only that its outputs need. -/
def slice (scope : Scope) (context : Context) [DecidablePred (scope.Needed context)] : Scope where
  inputs := scope.inputs
  calculations := scope.calculations.filter fun c => scope.Needed context c.1
  outputs := scope.outputs
  nodup_inputs := scope.nodup_inputs
  nodup_calculations := scope.nodup_calculations.sublist (List.filter_sublist.map _)
  pairwise_outputs := scope.pairwise_outputs

section Slice

variable {scope : Scope} {context working sliced : Context} {maxDepth : Int}

/-- Two contexts bind every needed name alike. -/
def AgreeOnNeeded (scope : Scope) (context working sliced : Context) : Prop :=
  ∀ name, scope.Needed context name → Members.get? working name = Members.get? sliced name

theorem AgreeOnNeeded.put (h : AgreeOnNeeded scope context working sliced) (name : String)
    (bound : Expr) :
    AgreeOnNeeded scope context (Members.put working name bound)
      (Members.put sliced name bound) := by
  intro other hother
  rw [Members.get?_put, Members.get?_put, h other hother]

/-- A name that is not needed may be bound on one side only. -/
theorem AgreeOnNeeded.put_left (h : AgreeOnNeeded scope context working sliced) {name : String}
    (hnot : ¬ scope.Needed context name) (bound : Expr) :
    AgreeOnNeeded scope context (Members.put working name bound) sliced := by
  intro other hother
  have hne : name ≠ other := by
    rintro rfl
    exact hnot hother
  rw [Members.get?_put, if_neg hne]
  exact h other hother

/-- An expression over needed names is evaluated alike in both contexts. -/
theorem Working.evaluate_eq_of_needed (hworking : Working context working)
    (h : AgreeOnNeeded scope context working sliced) {e : Expr}
    (he : ∀ name ∈ e.references, scope.Needed context name) :
    Rulebook.evaluate working maxDepth e = Rulebook.evaluate sliced maxDepth e := by
  have hclosed : ∀ name bound, scope.Needed context name →
      Members.get? working name = some bound →
      ∀ other ∈ bound.references, scope.Needed context other := by
    intro name bound hname hbound other mem
    rcases hworking name bound hbound with hcaller | ⟨value, rfl⟩
    · exact hname.binding hcaller mem
    · cases mem
  exact reduce_congr_of_closed h hclosed _ _ _ e he

variable [DecidablePred (scope.Needed context)]

/-- Calculations that succeed do so without those that are not needed, and bind the
needed names as before. -/
theorem runCalculations_slice {calculations : List (String × Expr)} {final : Context}
    (hsub : calculations ⊆ scope.calculations) (hworking : Working context working)
    (h : AgreeOnNeeded scope context working sliced)
    (hrun : (runCalculations maxDepth working calculations).outcome = .ok final) :
    ∃ final', (runCalculations maxDepth sliced
        (calculations.filter fun c => scope.Needed context c.1)).outcome = .ok final' ∧
      AgreeOnNeeded scope context final final' := by
  induction calculations generalizing working sliced with
  | nil =>
      cases hrun
      exact ⟨sliced, rfl, h⟩
  | cons c rest ih =>
      obtain ⟨name, e⟩ := c
      obtain ⟨hfirst, hrest⟩ := List.cons_subset.mp hsub
      obtain ⟨value, hvalue, hrun⟩ := runCalculations_cons_ok.mp hrun
      by_cases hname : scope.Needed context name
      · have he : ∀ other ∈ e.references, scope.Needed context other :=
          fun other mem => hname.calculation hfirst mem
        rw [hworking.evaluate_eq_of_needed h he] at hvalue
        obtain ⟨final', hrun', hfinal⟩ := ih hrest (hworking.put name value) (h.put name _) hrun
        refine ⟨final', ?_, hfinal⟩
        rw [List.filter_cons_of_pos (by simpa using hname)]
        exact runCalculations_cons_ok.mpr ⟨value, hvalue, hrun'⟩
      · rw [List.filter_cons_of_neg (by simpa using hname)]
        exact ih hrest (hworking.put name value) (h.put_left hname _) hrun

end Slice

/-- **Slicing a scope to its outputs preserves its results.** Where a scope succeeds, it
succeeds with the same results without the calculations that no output needs, whatever
these take the place of. -/
theorem results_preserved_by_slice (scope : Scope) (context : Context) (maxDepth : Int)
    [DecidablePred (scope.Needed context)] (results : List (String × Expr))
    (hrun : (scope.evaluate context maxDepth).outcome = .ok results) :
    ((scope.slice context).evaluate context maxDepth).outcome = .ok results := by
  obtain ⟨hvalid, final, hfinal, rfl⟩ := evaluate_ok hrun
  obtain ⟨final', hfinal', hagree⟩ := runCalculations_slice (List.Subset.refl _)
    (Working.start context) (fun _ _ => rfl) hfinal
  refine evaluate_ok_iff.mpr ⟨hvalid, final', hfinal', ?_⟩
  exact publish_congr fun name mem => hagree name (.output mem)

/-- A greeting, and a title that takes the place of the one that was given. -/
def visitScope : Scope where
  inputs := [("known", .bool), ("title", .string)]
  calculations :=
    [("title", .literal (.string "guest")),
      ("welcome", .ifThenElse (.reference "regular") (.literal (.string "hello"))
        (.literal (.string "welcome")))]
  outputs := ["welcome"]
  nodup_inputs := by decide
  nodup_calculations := by decide
  pairwise_outputs := by decide

/-- What is bound for a visit; one name leads to another. -/
def visitContext : Context :=
  [("known", .literal (.bool true)), ("regular", .reference "known"),
    ("title", .literal (.string "Dr"))]

/-- The greeting of a visit needs no title. -/
theorem needed_visit_iff {name : String} :
    visitScope.Needed visitContext name ↔
      name = "welcome" ∨ name = "regular" ∨ name = "known" := by
  have hwelcome : visitScope.Needed visitContext "welcome" := .output (by decide)
  have hregular : visitScope.Needed visitContext "regular" :=
    hwelcome.calculation (List.mem_cons_of_mem _ List.mem_cons_self) (by decide)
  constructor
  · intro h
    induction h with
    | output mem => exact .inl (List.mem_singleton.mp mem)
    | calculation _ mem hother ih =>
        rcases ih with rfl | rfl | rfl <;> simp_all [visitScope, Expr.references]
    | binding _ hbound hother ih =>
        rcases ih with rfl | rfl | rfl <;> cases hbound <;> simp_all [Expr.references]
  · rintro (rfl | rfl | rfl)
    · exact hwelcome
    · exact hregular
    · have hbound : Members.get? visitContext "regular" = some (.reference "known") := rfl
      exact hregular.binding hbound (by decide)

instance : DecidablePred (visitScope.Needed visitContext) :=
  fun _ => decidable_of_iff _ needed_visit_iff.symm

/-- A visit is sliced to its greeting. -/
theorem visit_sliced :
    (visitScope.evaluate visitContext 3).outcome =
      .ok [("welcome", .literal (.string "hello"))] ∧
    Members.names (visitScope.slice visitContext).calculations = ["welcome"] ∧
    ((visitScope.slice visitContext).evaluate visitContext 3).outcome =
      .ok [("welcome", .literal (.string "hello"))] := by
  have hrun : (visitScope.evaluate visitContext 3).outcome =
      .ok [("welcome", .literal (.string "hello"))] := rfl
  exact ⟨hrun, by decide, results_preserved_by_slice visitScope visitContext 3 _ hrun⟩

end Rulebook.Scope
