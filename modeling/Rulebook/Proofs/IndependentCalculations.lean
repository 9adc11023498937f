import Mathlib.Data.List.Nodup
import Rulebook.Proofs.Reach
import Rulebook.Proofs.ScopeRun

/-!
Independent calculations commute.

While calculations run, every name is bound as the caller bound it or to a literal
(`Working`). A calculation therefore reaches no more names than it reaches in the
caller's context, and one that does not reach the name of another has the same value
before and after it (`Working.evaluate_put`). So two neighbours that do not reach each
other change places (`endIn_swap`), a calculation moves before all those it is
independent of (`endIn_move`), and from one order every other one is made in this way
(`endIn_perm`).
-/

namespace Rulebook

/-! ### Contexts that bind alike -/

/-- Two contexts bind every name alike, in whatever order they list the names. -/
def Alike (context context' : Context) : Prop :=
  ∀ name, Members.get? context name = Members.get? context' name

section Alike

variable {context context' : Context}

theorem Alike.put (h : Alike context context') (name : String) (bound : Expr) :
    Alike (Members.put context name bound) (Members.put context' name bound) := by
  intro other
  rw [Members.get?_put, Members.get?_put, h other]

theorem alike_put_put (context : Context) {name other : String} (hne : name ≠ other)
    (bound bound' : Expr) :
    Alike (Members.put (Members.put context name bound) other bound')
      (Members.put (Members.put context other bound') name bound) := by
  intro third
  simp only [Members.get?_put]
  by_cases hname : name = third
  · rw [if_pos hname, if_pos hname, if_neg fun heq => hne (hname.trans heq.symm)]
  · rw [if_neg hname, if_neg hname]

theorem Alike.evaluate_eq (h : Alike context context') (maxDepth : Int) (e : Expr) :
    evaluate context maxDepth e = evaluate context' maxDepth e :=
  evaluate_congr_of_reaches (fun name _ => h name) maxDepth

theorem Alike.publish_eq (h : Alike context context') (outputs : List String) :
    Scope.publish outputs context = Scope.publish outputs context' :=
  Scope.publish_congr fun name _ => h name

end Alike

/-- One of two calculations reaches the name of the other. -/
def Dependent (context : Context) (c d : String × Expr) : Prop :=
  Reaches context d.2 c.1 ∨ Reaches context c.2 d.1

theorem Dependent.symm {context : Context} {c d : String × Expr} (h : Dependent context c d) :
    Dependent context d c :=
  Or.symm h

namespace Scope

variable {context working : Context} {maxDepth : Int} {final : Context}

/-- A literal under a name that an expression does not reach leaves its run as it is. -/
theorem Working.evaluate_put (h : Working context working) {e : Expr} {name : String}
    (hnot : ¬ Reaches context e name) (value : Literal) :
    Rulebook.evaluate (Members.put working name (.literal value)) maxDepth e =
      Rulebook.evaluate working maxDepth e := by
  have hagree : ∀ other, Reaches context e other → Members.get? working other =
      Members.get? (Members.put working name (.literal value)) other := by
    intro other hother
    have hne : name ≠ other := fun heq => hnot (heq ▸ hother)
    rw [Members.get?_put, if_neg hne]
  have hclosed : ∀ other bound, Reaches context e other →
      Members.get? working other = some bound → ∀ third ∈ bound.references,
        Reaches context e third := by
    intro other bound hother hbound third mem
    rcases h other bound hbound with hcaller | ⟨value, rfl⟩
    · exact hother.binding hcaller mem
    · cases mem
  exact (reduce_congr_of_closed hagree hclosed _ _ _ e fun _ mem => .reference mem).symm

/-! ### Runs that end alike -/

/-- Calculations succeed and leave a context that binds like `final`. -/
def EndIn (maxDepth : Int) (working : Context) (calculations : List (String × Expr))
    (final : Context) : Prop :=
  ∃ reached, (runCalculations maxDepth working calculations).outcome = .ok reached ∧
    Alike reached final

theorem endIn_cons_iff {c : String × Expr} {rest : List (String × Expr)} :
    EndIn maxDepth working (c :: rest) final ↔
      ∃ value, (Rulebook.evaluate working maxDepth c.2).outcome = .ok value ∧
        EndIn maxDepth (Members.put working c.1 (.literal value)) rest final := by
  constructor
  · rintro ⟨reached, hrun, halike⟩
    obtain ⟨value, hvalue, hrest⟩ := runCalculations_cons_ok.mp hrun
    exact ⟨value, hvalue, reached, hrest, halike⟩
  · rintro ⟨value, hvalue, reached, hrest, halike⟩
    exact ⟨reached, runCalculations_cons_ok.mpr ⟨value, hvalue, hrest⟩, halike⟩

/-- Calculations end alike from contexts that bind alike. -/
theorem EndIn.of_alike {working' : Context} (halike : Alike working working')
    {calculations : List (String × Expr)} (h : EndIn maxDepth working calculations final) :
    EndIn maxDepth working' calculations final := by
  induction calculations generalizing working working' with
  | nil =>
      obtain ⟨reached, hrun, hfinal⟩ := h
      cases hrun
      exact ⟨working', rfl, fun name => (halike name).symm.trans (hfinal name)⟩
  | cons c rest ih =>
      obtain ⟨value, hvalue, hrest⟩ := endIn_cons_iff.mp h
      rw [halike.evaluate_eq] at hvalue
      exact endIn_cons_iff.mpr ⟨value, hvalue, ih (halike.put _ _) hrest⟩

/-- Independent neighbours change places. -/
theorem endIn_swap (h : Working context working) {c d : String × Expr} (hne : c.1 ≠ d.1)
    (hapart : ¬ Dependent context c d) {rest : List (String × Expr)}
    (hends : EndIn maxDepth working (c :: d :: rest) final) :
    EndIn maxDepth working (d :: c :: rest) final := by
  obtain ⟨value, hvalue, hends⟩ := endIn_cons_iff.mp hends
  obtain ⟨value', hvalue', hends⟩ := endIn_cons_iff.mp hends
  have hfirst : (Rulebook.evaluate working maxDepth d.2).outcome = .ok value' := by
    rwa [h.evaluate_put fun hreach => hapart (.inl hreach)] at hvalue'
  have hsecond : (Rulebook.evaluate (Members.put working d.1 (.literal value')) maxDepth
      c.2).outcome = .ok value := by
    rwa [h.evaluate_put fun hreach => hapart (.inr hreach)]
  refine endIn_cons_iff.mpr ⟨value', hfirst, endIn_cons_iff.mpr ⟨value, hsecond, ?_⟩⟩
  exact hends.of_alike (alike_put_put working hne _ _)

/-- A calculation moves before all those that it is independent of. -/
theorem endIn_move (h : Working context working) {c : String × Expr}
    {front back : List (String × Expr)}
    (hapart : ∀ d ∈ front, c.1 ≠ d.1 ∧ ¬ Dependent context c d) :
    EndIn maxDepth working (front ++ c :: back) final ↔
      EndIn maxDepth working (c :: (front ++ back)) final := by
  induction front generalizing working with
  | nil => exact Iff.rfl
  | cons d front ih =>
      obtain ⟨⟨hne, hfirst⟩, hfront⟩ := List.forall_mem_cons.mp hapart
      calc EndIn maxDepth working (d :: (front ++ c :: back)) final
        _ ↔ ∃ value, (Rulebook.evaluate working maxDepth d.2).outcome = .ok value ∧
              EndIn maxDepth (Members.put working d.1 (.literal value)) (front ++ c :: back)
                final := endIn_cons_iff
        _ ↔ ∃ value, (Rulebook.evaluate working maxDepth d.2).outcome = .ok value ∧
              EndIn maxDepth (Members.put working d.1 (.literal value)) (c :: (front ++ back))
                final :=
            exists_congr fun value => and_congr_right fun _ => ih (h.put _ value) hfront
        _ ↔ EndIn maxDepth working (d :: c :: (front ++ back)) final := endIn_cons_iff.symm
        _ ↔ EndIn maxDepth working (c :: d :: (front ++ back)) final :=
            ⟨endIn_swap h hne.symm fun hdep => hfirst hdep.symm, endIn_swap h hne hfirst⟩

/-! ### Orders that keep dependent calculations apart -/

/-- Of two dependent calculations the first one listed comes before the other. -/
def KeepsOrder (context : Context) (before : String × Expr → String × Expr → Prop)
    (calculations : List (String × Expr)) : Prop :=
  calculations.Pairwise fun c d => Dependent context c d → before c d

/-- Calculations end alike in two orders that both keep dependent ones as they are. -/
theorem endIn_perm {before : String × Expr → String × Expr → Prop}
    (hasymm : ∀ c d, before c d → ¬ before d c) (h : Working context working)
    {calculations calculations' : List (String × Expr)}
    (hperm : calculations.Perm calculations') (hnodup : (Members.names calculations).Nodup)
    (horder : KeepsOrder context before calculations)
    (horder' : KeepsOrder context before calculations') :
    EndIn maxDepth working calculations final ↔ EndIn maxDepth working calculations' final := by
  induction calculations generalizing working calculations' with
  | nil => rw [hperm.nil_eq]
  | cons c rest ih =>
      obtain ⟨front, back, rfl⟩ := List.append_of_mem (hperm.subset List.mem_cons_self)
      have hrest : rest.Perm (front ++ back) := (hperm.trans List.perm_middle).cons_inv
      have hsub : (front ++ back).Sublist (front ++ c :: back) :=
        (List.Sublist.refl front).append (List.sublist_cons_self c back)
      obtain ⟨hfresh, hdistinct⟩ := List.nodup_cons.mp hnodup
      obtain ⟨hfirst, hlater⟩ := List.pairwise_cons.mp horder
      obtain ⟨_, _, hcross⟩ := List.pairwise_append.mp horder'
      -- What comes before `c` in the other order comes after it in this one.
      have hapart : ∀ d ∈ front, c.1 ≠ d.1 ∧ ¬ Dependent context c d := by
        intro d mem
        have hd : d ∈ rest := hrest.symm.subset (List.mem_append_left back mem)
        constructor
        · intro heq
          exact hfresh (List.mem_map.mpr ⟨d, hd, heq.symm⟩)
        · intro hdep
          have hbefore := hfirst d hd hdep
          exact hasymm c d hbefore (hcross d mem c List.mem_cons_self hdep.symm)
      calc EndIn maxDepth working (c :: rest) final
        _ ↔ ∃ value, (Rulebook.evaluate working maxDepth c.2).outcome = .ok value ∧
              EndIn maxDepth (Members.put working c.1 (.literal value)) rest final :=
            endIn_cons_iff
        _ ↔ ∃ value, (Rulebook.evaluate working maxDepth c.2).outcome = .ok value ∧
              EndIn maxDepth (Members.put working c.1 (.literal value)) (front ++ back) final :=
            exists_congr fun value => and_congr_right fun _ =>
              ih (h.put _ value) hrest hdistinct hlater (horder'.sublist hsub)
        _ ↔ EndIn maxDepth working (c :: (front ++ back)) final := endIn_cons_iff.symm
        _ ↔ EndIn maxDepth working (front ++ c :: back) final := (endIn_move h hapart).symm

/-- In a list without repetitions only one of two elements comes first. -/
theorem pair_sublist_asymm {α : Type} {l : List α} (hnodup : l.Nodup) {a b : α}
    (h : [a, b].Sublist l) : ¬ [b, a].Sublist l := by
  induction l with
  | nil => cases h
  | cons first rest ih =>
      obtain ⟨hfirst, hrest⟩ := List.nodup_cons.mp hnodup
      intro h'
      have hmem : ∀ {x y : α}, [x, y].Sublist rest → x ∈ rest ∧ y ∈ rest := by
        intro x y hpair
        exact ⟨hpair.subset List.mem_cons_self, hpair.subset (by simp)⟩
      rcases List.cons_sublist_cons'.mp h with hlater | ⟨rfl, hlater⟩
      · rcases List.cons_sublist_cons'.mp h' with hlater' | ⟨rfl, _⟩
        · exact ih hrest hlater hlater'
        · exact hfirst (hmem hlater).2
      · rcases List.cons_sublist_cons'.mp h' with hlater' | ⟨rfl, _⟩
        · exact hfirst (hmem hlater').2
        · exact hfirst (List.singleton_sublist.mp hlater)

/-! ### Scopes -/

/-- The order of inputs does not matter for whether they pass their check. -/
theorem validate_perm {scope scope' : Scope} (hinputs : scope.inputs.Perm scope'.inputs) :
    scope.validate context maxDepth = .ok () ↔ scope'.validate context maxDepth = .ok () := by
  simp only [validate, checkInputs_ok_iff, hinputs.mem_iff]

theorem evaluate_ok_iff_endIn {scope : Scope} {results : List (String × Expr)} :
    (scope.evaluate context maxDepth).outcome = .ok results ↔
      scope.validate context maxDepth = .ok () ∧
        ∃ final, EndIn maxDepth context scope.calculations final ∧
          results = publish scope.outputs final := by
  rw [evaluate_ok_iff]
  refine and_congr_right fun _ => ?_
  constructor
  · rintro ⟨final, hrun, hresults⟩
    exact ⟨final, ⟨final, hrun, fun _ => rfl⟩, hresults⟩
  · rintro ⟨final, ⟨reached, hrun, halike⟩, rfl⟩
    exact ⟨reached, hrun, (halike.publish_eq scope.outputs).symm⟩

/-- **Independent calculations commute.** A scope whose inputs are listed in another
order, and its calculations in one that keeps every two of them as they are of which one
reaches the name of the other, succeeds in the same contexts and with the same
results. -/
theorem independent_calculations_commute (scope scope' : Scope) (context : Context)
    (maxDepth : Int) (hinputs : scope.inputs.Perm scope'.inputs)
    (hcalculations : scope.calculations.Perm scope'.calculations)
    (horder : ∀ c d, Dependent context c d → [c, d].Sublist scope.calculations →
      [c, d].Sublist scope'.calculations)
    (houtputs : scope'.outputs = scope.outputs) (results : List (String × Expr)) :
    (scope'.evaluate context maxDepth).outcome = .ok results ↔
      (scope.evaluate context maxDepth).outcome = .ok results := by
  have hasymm : ∀ c d, [c, d].Sublist scope'.calculations →
      ¬ [d, c].Sublist scope'.calculations :=
    fun _ _ => pair_sublist_asymm (List.Nodup.of_map _ scope'.nodup_calculations)
  have hbefore : KeepsOrder context (fun c d => [c, d].Sublist scope'.calculations)
      scope.calculations :=
    List.pairwise_iff_forall_sublist.mpr fun hpair hdep => horder _ _ hdep hpair
  have hbefore' : KeepsOrder context (fun c d => [c, d].Sublist scope'.calculations)
      scope'.calculations :=
    List.pairwise_iff_forall_sublist.mpr fun hpair _ => hpair
  rw [evaluate_ok_iff_endIn, evaluate_ok_iff_endIn, houtputs, validate_perm hinputs]
  refine and_congr_right fun _ => exists_congr fun final => and_congr_left fun _ => ?_
  exact (endIn_perm hasymm (Working.start context) hcalculations scope.nodup_calculations
    hbefore hbefore').symm

/-- A letter: a greeting, whether it is a formal one, and the choice between the two. -/
def letterScope : Scope where
  inputs := [("name", .string), ("stranger", .bool)]
  calculations :=
    [("greeting", .reference "name"), ("formal", .reference "known"),
      ("letter", .ifThenElse (.reference "formal") (.literal (.string "Dear Sir or Madam"))
        (.reference "greeting"))]
  outputs := ["letter"]
  nodup_inputs := by decide
  nodup_calculations := by decide
  pairwise_outputs := by decide

/-- The same scope with its inputs and its first two calculations in the other order. -/
def reorderedLetterScope : Scope where
  inputs := [("stranger", .bool), ("name", .string)]
  calculations :=
    [("formal", .reference "known"), ("greeting", .reference "name"),
      ("letter", .ifThenElse (.reference "formal") (.literal (.string "Dear Sir or Madam"))
        (.reference "greeting"))]
  outputs := ["letter"]
  nodup_inputs := by decide
  nodup_calculations := by decide
  pairwise_outputs := by decide

/-- What is bound for a letter; one name leads to another. -/
def letterContext : Context :=
  [("name", .literal (.string "Ann")), ("known", .reference "stranger"),
    ("stranger", .literal (.bool false))]

/-- The first two calculations of a letter do not reach each other. -/
theorem not_dependent_greeting_formal :
    ¬ Dependent letterContext ("greeting", .reference "name") ("formal", .reference "known") := by
  have hformal : ∀ name, Reaches letterContext (.reference "known") name →
      name = "known" ∨ name = "stranger" := by
    intro name h
    refine h.of_closed (fun name => name = "known" ∨ name = "stranger")
      (by simp [Expr.references]) ?_
    rintro name bound (rfl | rfl) hbound other mem
    · cases hbound
      exact .inr (by simpa [Expr.references] using mem)
    · cases hbound
      simp [Expr.references] at mem
  have hgreeting : ∀ name, Reaches letterContext (.reference "name") name → name = "name" := by
    intro name h
    refine h.of_closed (fun name => name = "name") (by simp [Expr.references]) ?_
    rintro name bound rfl hbound other mem
    cases hbound
    simp [Expr.references] at mem
  rintro (h | h)
  · simpa using hformal _ h
  · simpa using hgreeting _ h

/-- A letter is the same in both orders. -/
theorem letter_reordered :
    letterScope.inputs.Perm reorderedLetterScope.inputs ∧
    letterScope.calculations.Perm reorderedLetterScope.calculations ∧
    (letterScope.evaluate letterContext 3).outcome =
      .ok [("letter", .literal (.string "Ann"))] ∧
    (reorderedLetterScope.evaluate letterContext 3).outcome =
      .ok [("letter", .literal (.string "Ann"))] := by
  have hinputs : letterScope.inputs.Perm reorderedLetterScope.inputs := .swap _ _ _
  have hcalculations : letterScope.calculations.Perm reorderedLetterScope.calculations :=
    .swap _ _ _
  have hrun : (letterScope.evaluate letterContext 3).outcome =
      .ok [("letter", .literal (.string "Ann"))] := rfl
  refine ⟨hinputs, hcalculations, hrun, ?_⟩
  -- Of the three pairs only the first one changes its order, and it is independent.
  have hpairs : letterScope.calculations.Pairwise fun c d => Dependent letterContext c d →
      [c, d].Sublist reorderedLetterScope.calculations := by
    simp only [letterScope, reorderedLetterScope, List.pairwise_cons, List.forall_mem_cons,
      List.not_mem_nil, false_implies, implies_true, List.Pairwise.nil, and_true]
    refine ⟨⟨?_, ?_⟩, ?_⟩
    · intro hdep
      exact absurd hdep not_dependent_greeting_formal
    · intro _
      exact .cons _ (List.Sublist.refl _)
    · intro _
      exact .cons_cons _ (.cons _ (List.Sublist.refl _))
  exact (independent_calculations_commute letterScope reorderedLetterScope letterContext 3
    hinputs hcalculations
    (fun c d hdep hpair => List.pairwise_iff_forall_sublist.mp hpairs hpair hdep) rfl _).mpr hrun

end Scope

end Rulebook
