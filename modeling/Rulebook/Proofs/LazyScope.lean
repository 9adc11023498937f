import Rulebook.Proofs.CycleGuard
import Rulebook.Proofs.ScopeRun

/-!
Eager evaluation of a scope agrees with lazy resolution.

A scope reduces each calculation once and binds the literal. In the lazy context
the same names are bound to the expressions as they stand and are resolved at
every use. `LazyStage` relates the two while calculations run: a name that is
calculated already is bound to a literal which lazy resolution finds as well, on
some number of levels; every other name is bound alike.
-/

namespace Rulebook

/-- The context extended with every calculation, not reduced. -/
def Scope.lazyContext (scope : Scope) (context : Context) : Context :=
  Members.putAll context scope.calculations

/-- Plain evaluation finds a literal behind a name on so many levels. -/
def ResolvesTo (context : Context) (levels : Nat) (name : String) (value : Literal) : Prop :=
  ∀ limit site,
    (reducePlain context limit levels site (.reference name)).outcome = .ok value

/-- The context of a scope while its calculations run, seen from the lazy one. -/
structure LazyStage (lazyContext : Context) (names : List String) (levels : Nat)
    (working : Context) : Prop where
  calculated : ∀ name ∈ names, ∀ bound, Members.get? working name = some bound →
    ∃ value, bound = .literal value ∧ ResolvesTo lazyContext levels name value
  given : ∀ name, name ∉ names →
    Members.get? working name = Members.get? lazyContext name

section Stages

variable {lazyContext working : Context} {names : List String}

theorem ResolvesTo.of_le {levels levels' : Nat} {name : String} {value : Literal}
    (hle : levels ≤ levels') (h : ResolvesTo lazyContext levels name value) :
    ResolvesTo lazyContext levels' name value :=
  fun limit site => reducePlain_ok_of_le hle (h limit site)

theorem LazyStage.of_le {levels levels' : Nat} (hle : levels ≤ levels')
    (h : LazyStage lazyContext names levels working) :
    LazyStage lazyContext names levels' working where
  calculated name mem bound hbound := by
    obtain ⟨value, heq, hresolves⟩ := h.calculated name mem bound hbound
    exact ⟨value, heq, hresolves.of_le hle⟩
  given := h.given

/-- What plain evaluation returns in the working context, it returns in the lazy
one, on as many more levels as names need to be resolved. -/
theorem LazyStage.reducePlain_agree {extra : Nat} (h : LazyStage lazyContext names extra working)
    (limit limit' : Int) (levels : Nat) (site site' : Site Origin) (e : Expr) :
    Run.AgreeUnless (fun _ => True) (fun _ => False) Literal
      (reducePlain working limit levels site e)
      (reducePlain lazyContext limit' (levels + extra) site' e) := by
  have hR := Run.congruence_agreeUnless (fun _ => True) (fun _ => False)
  induction levels generalizing site site' e with
  | zero => exact .inl ⟨_, trivial, rfl⟩
  | succ levels ih =>
      rw [Nat.add_right_comm]
      refine hR.reduceLevel (Run.AgreeUnless.record _ _ site site')
        (fun step sub _ => ih (site.child step) (site'.child step) sub) fun name _ => ?_
      by_cases mem : name ∈ names
      · cases hbound : Members.get? working name with
        | none =>
            rw [followBinding_of_none hbound]
            exact .inl ⟨_, trivial, rfl⟩
        | some bound =>
            obtain ⟨value, rfl, hresolves⟩ := h.calculated name mem bound hbound
            rw [followBinding_of_some hbound]
            cases levels with
            | zero => exact .inl ⟨_, trivial, rfl⟩
            | succ levels =>
                have hlonger := hresolves.of_le (show extra ≤ levels + 1 + extra + 1 by omega)
                exact .inr (.inr (hlonger limit' site').symm)
      · exact hR.followBinding (h.given name mem) fun bound _ => ih _ _ bound

/-- A value of guarded evaluation in the working context is found by plain
evaluation in the lazy one. -/
theorem LazyStage.resolves_calculation {extra : Nat}
    (h : LazyStage lazyContext names extra working) {maxDepth : Int} {name : String} {e : Expr}
    {value : Literal} (hlazy : Members.get? lazyContext name = some e)
    (hrun : (evaluate working maxDepth e).outcome = .ok value) :
    ResolvesTo lazyContext ((maxDepth + 1).toNat + extra + 1) name value := by
  intro limit site
  have hplain : (evaluatePlain working maxDepth e).outcome = .ok value :=
    evaluate_ok_iff_evaluatePlain.mp hrun
  rw [reducePlain_reference hlazy]
  rcases h.reducePlain_agree maxDepth limit (maxDepth + 1).toNat ⟨.subject, []⟩
    ⟨.binding name, []⟩ e with ⟨error, _, herror⟩ | ⟨_, hfalse, _⟩ | heq
  · cases hplain.symm.trans herror
  · exact hfalse.elim
  · exact heq.symm.trans hplain

/-- Binding the value of a calculation keeps the relation to the lazy context. -/
theorem LazyStage.put {extra : Nat} (h : LazyStage lazyContext names extra working)
    {name : String} (mem : name ∈ names) {value : Literal}
    (hresolves : ResolvesTo lazyContext extra name value) :
    LazyStage lazyContext names extra (Members.put working name (.literal value)) where
  calculated other hother bound hbound := by
    rw [Members.get?_put] at hbound
    split at hbound
    · next heq => exact ⟨value, (Option.some.inj hbound).symm, heq ▸ hresolves⟩
    · exact h.calculated other hother bound hbound
  given other hother := by
    have hne : name ≠ other := fun heq => hother (heq ▸ mem)
    rw [Members.get?_put, if_neg hne]
    exact h.given other hother

end Stages

/-! ### Running calculations -/

/-- A run of calculations keeps the relation to the lazy context, on more levels. -/
theorem LazyStage.runCalculations {lazyContext : Context} {names : List String} {maxDepth : Int}
    {calculations : List (String × Expr)} {working final : Context} {extra : Nat}
    (h : LazyStage lazyContext names extra working)
    (hbound : ∀ name e, (name, e) ∈ calculations →
      name ∈ names ∧ Members.get? lazyContext name = some e)
    (hrun : (Scope.runCalculations maxDepth working calculations).outcome = .ok final) :
    ∃ extra', LazyStage lazyContext names extra' final := by
  induction calculations generalizing working extra with
  | nil => cases hrun; exact ⟨extra, h⟩
  | cons calculation rest ih =>
      obtain ⟨name, e⟩ := calculation
      obtain ⟨value, hvalue, hrest⟩ := Scope.runCalculations_cons_ok.mp hrun
      obtain ⟨mem, hlazy⟩ := hbound name e List.mem_cons_self
      have hresolves := h.resolves_calculation hlazy hvalue
      have hnext := (h.of_le (show extra ≤ (maxDepth + 1).toNat + extra + 1 by omega)).put mem
        hresolves
      exact ih hnext (fun other e' hmem => hbound other e' (List.mem_cons_of_mem _ hmem)) hrest

/-- At the start no name of a calculation is bound. -/
theorem Scope.lazyStage_start {scope : Scope} {context : Context}
    (hfresh : ∀ name ∈ Members.names scope.calculations, Members.get? context name = none) :
    LazyStage (scope.lazyContext context) (Members.names scope.calculations) 0 context where
  calculated name mem bound hbound := by
    rw [hfresh name mem] at hbound
    cases hbound
  given name hname := (Members.get?_putAll_of_not_mem hname).symm

/-! ### Lazy resolution -/

/-- What resolves is found by guarded evaluation from some limit on; below, the
limit is met. -/
theorem ResolvesTo.evaluate_reference {context : Context} {levels : Nat} {name : String}
    {value : Literal}
    (h : ResolvesTo context levels name value) (maxDepth : Int) :
    ((levels : Int) ≤ maxDepth →
      (evaluate context maxDepth (.reference name)).outcome = .ok value) ∧
    ((evaluate context maxDepth (.reference name)).outcome = .ok value ∨
      (evaluate context maxDepth (.reference name)).outcome = .error (.tooDeep maxDepth)) := by
  have hvalue : (evaluatePlain context levels (.reference name)).outcome = .ok value :=
    h.of_le (show levels ≤ ((levels : Int) + 1).toNat by omega) _ _
  have hends : (evaluatePlain context levels (.reference name)).outcome ≠
      .error (.tooDeep levels) := by
    simp [hvalue]
  have hnocycle : ∀ chain,
      (evaluate context maxDepth (.reference name)).outcome ≠ .error (.cyclic chain) :=
    fun _ => evaluate_not_cyclic_of_evaluatePlain hends
  rw [← evaluatePlain_eq_of_not_cyclic hnocycle]
  constructor
  · intro hle
    exact h.of_le (show levels ≤ (maxDepth + 1).toNat by omega) _ _
  · rcases Nat.le_total levels (maxDepth + 1).toNat with hle | hle
    · exact .inl (h.of_le hle _ _)
    · rcases reducePlain_upTo_of_le maxDepth 0 hle ⟨.subject, []⟩ (.reference name) with
        heq | ⟨_, hstop⟩
      · exact .inl ((congrArg Run.outcome heq).trans (h _ _))
      · exact .inr (Run.MeetsLimit.outcome_reducePlain hstop)

/-- **Eager evaluation of a scope agrees with lazy resolution.** If no name of a
calculation is bound by the caller and the scope has results, every published
calculation is a literal which lazy resolution returns from some limit on; at
other limits it meets the limit, and so at none it reports a cycle or a name
without a binding. -/
theorem lazy_resolution_of_published (scope : Scope) (context : Context) (maxDepth : Int)
    (hfresh : ∀ name ∈ Members.names scope.calculations, Members.get? context name = none)
    (results : List (String × Expr))
    (hrun : (scope.evaluate context maxDepth).outcome = .ok results)
    (name : String) (hname : name ∈ Members.names scope.calculations)
    (published : Expr) (hpublished : (name, published) ∈ results) :
    ∃ value, published = .literal value ∧
      (∃ least : Int, ∀ maxDepth' ≥ least,
        (evaluate (scope.lazyContext context) maxDepth' (.reference name)).outcome = .ok value) ∧
      ∀ maxDepth',
        (evaluate (scope.lazyContext context) maxDepth' (.reference name)).outcome = .ok value ∨
        (evaluate (scope.lazyContext context) maxDepth' (.reference name)).outcome =
          .error (.tooDeep maxDepth') := by
  obtain ⟨_, final, hfinal, rfl⟩ := Scope.evaluate_ok hrun
  have hbound : ∀ name e, (name, e) ∈ scope.calculations →
      name ∈ Members.names scope.calculations ∧
        Members.get? (scope.lazyContext context) name = some e := by
    intro name e mem
    exact ⟨List.mem_map.mpr ⟨_, mem, rfl⟩,
      Members.get?_putAll_of_mem scope.nodup_calculations mem⟩
  obtain ⟨levels, hstage⟩ := (Scope.lazyStage_start hfresh).runCalculations hbound hfinal
  obtain ⟨value, rfl, hresolves⟩ :=
    hstage.calculated name hname published (Scope.mem_publish hpublished)
  exact ⟨value, rfl, ⟨levels, fun maxDepth' hle => (hresolves.evaluate_reference maxDepth').1 hle⟩,
    fun maxDepth' => (hresolves.evaluate_reference maxDepth').2⟩

/-- A calculation that reaches an earlier one through a name bound by the caller, and
mentions itself in an arm not taken. -/
def aliasedScope : Scope where
  inputs := []
  calculations := [("first", .reference "given"),
    ("second", .ifThenElse (.reference "alias") (.reference "first") (.reference "second"))]
  outputs := ["second"]
  nodup_inputs := by decide
  nodup_calculations := by decide
  pairwise_outputs := by decide

/-- The caller's side of `aliasedScope`. -/
def aliasedContext : Context :=
  [("alias", .reference "first"), ("given", .literal (.bool true))]

theorem lazy_resolution_of_aliased :
    (∀ name ∈ Members.names aliasedScope.calculations,
      Members.get? aliasedContext name = none) ∧
    (aliasedScope.evaluate aliasedContext 3).outcome =
      .ok [("second", .literal (.bool true))] ∧
    ∃ value, Expr.literal (.bool true) = .literal value ∧
      (∃ least : Int, ∀ maxDepth' ≥ least,
        (evaluate (aliasedScope.lazyContext aliasedContext) maxDepth'
          (.reference "second")).outcome = .ok value) ∧
      ∀ maxDepth',
        (evaluate (aliasedScope.lazyContext aliasedContext) maxDepth'
          (.reference "second")).outcome = .ok value ∨
        (evaluate (aliasedScope.lazyContext aliasedContext) maxDepth'
          (.reference "second")).outcome = .error (.tooDeep maxDepth') := by
  have hfresh : ∀ name ∈ Members.names aliasedScope.calculations,
      Members.get? aliasedContext name = none := by
    simp [aliasedScope, aliasedContext, Members.names, Members.get?]
  have hrun : (aliasedScope.evaluate aliasedContext 3).outcome =
      .ok [("second", .literal (.bool true))] := rfl
  exact ⟨hfresh, hrun, lazy_resolution_of_published aliasedScope aliasedContext 3 hfresh _ hrun
    "second" (by decide) (.literal (.bool true)) (by simp)⟩

end Rulebook
