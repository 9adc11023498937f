import Rulebook.Proofs.Selection

/-!
The cycle guard changes nothing but divergence.

`evaluatePlain` is evaluation without the guard: a name is followed whether or not
it is being resolved already, so only the limit on levels ends a cycle. Where the
guard does not speak, both evaluations are the same run
(`reduce_upTo_reducePlain`). Where it does, plain evaluation has no end: a name
that is reached again while it is resolved would have to be resolved on fewer
levels than it is resolved on (`reduce_agree_reducePlain`).
-/

namespace Rulebook

/-! ### Plain evaluation -/

/-- Reduce the expression at a site on so many levels, following every name. -/
def reducePlain (context : Context) (limit : Int) :
    (levels : Nat) → (site : Site Origin) → Expr → EvalRun Literal
  | 0, _, _ => .fail (.tooDeep limit)
  | levels + 1, site, expr =>
    reduceLevel (fun step e => reducePlain context limit levels (site.child step) e)
      (fun name =>
        followBinding context (reducePlain context limit levels ⟨.binding name, []⟩) name)
      site expr

/-- Reduce an expression in a context, following every name. -/
def evaluatePlain (context : Context) (maxDepth : Int) (expr : Expr) : EvalRun Literal :=
  reducePlain context maxDepth (maxDepth + 1).toNat ⟨.subject, []⟩ expr

/-- The cycle guard spoke. -/
def EvalError.IsCyclic (error : EvalError) : Prop := ∃ chain, error = .cyclic chain

/-- The run met the limit on levels. -/
def Run.MeetsLimit (run : EvalRun Literal) : Prop :=
  ∃ error : EvalError, error.IsTooDeep ∧ run.outcome = .error error

section Plain

variable {context : Context} {limit : Int}

/-- The site of a name does not matter. -/
theorem reducePlain_reference_site {levels : Nat} (site site' : Site Origin) (name : String) :
    reducePlain context limit levels site (.reference name) =
      reducePlain context limit levels site' (.reference name) := by
  cases levels <;> rfl

theorem reducePlain_reference {levels : Nat} {site : Site Origin} {name : String} {bound : Expr}
    (h : Members.get? context name = some bound) :
    reducePlain context limit (levels + 1) site (.reference name) =
      reducePlain context limit levels ⟨.binding name, []⟩ bound := by
  exact followBinding_of_some h _

/-- Plain evaluation on no fewer levels is the same run, unless the limit cut the
first one short. -/
theorem reducePlain_upTo_of_le (limit limit' : Int) {levels levels' : Nat}
    (hle : levels ≤ levels') (site : Site Origin) (e : Expr) :
    Run.UpTo EvalError.IsTooDeep Literal (reducePlain context limit levels site e)
      (reducePlain context limit' levels' site e) := by
  induction levels generalizing levels' site e with
  | zero => exact .inr ⟨List.nil_prefix, _, ⟨_, rfl⟩, rfl⟩
  | succ levels ih =>
      obtain ⟨levels', rfl⟩ : ∃ n, levels' = n + 1 := ⟨levels' - 1, by omega⟩
      have hR := Run.congruence_upTo EvalError.IsTooDeep
      refine hR.reduceLevel (fun _ => hR.refl _)
        (fun step sub _ => ih (by omega) (site.child step) sub) fun name _ => ?_
      exact hR.followBinding rfl fun bound _ => ih (by omega) _ bound

/-- A value that plain evaluation returns is returned on more levels too, at whatever
site. -/
theorem reducePlain_ok_of_le {limit limit' : Int} {levels levels' : Nat} (hle : levels ≤ levels')
    {site site' : Site Origin} {e : Expr} {value : Literal}
    (h : (reducePlain context limit levels site e).outcome = .ok value) :
    (reducePlain context limit' levels' site' e).outcome = .ok value := by
  have hR := Run.congruence_agreeUnless EvalError.IsTooDeep fun _ => False
  have hagree : ∀ e, Run.AgreeUnless EvalError.IsTooDeep (fun _ => False) Literal
      (reducePlain context limit levels site e) (reducePlain context limit' levels' site' e) := by
    clear h
    induction levels generalizing levels' site site' with
    | zero => exact fun _ => .inl ⟨_, ⟨_, rfl⟩, rfl⟩
    | succ levels ih =>
        obtain ⟨levels', rfl⟩ : ∃ n, levels' = n + 1 := ⟨levels' - 1, by omega⟩
        intro e
        refine hR.reduceLevel (Run.AgreeUnless.record _ _ site site')
          (fun step sub _ => ih (by omega) sub) fun name _ => ?_
        exact hR.followBinding rfl fun bound _ => ih (by omega) bound
  rcases hagree e with ⟨error, _, herror⟩ | ⟨_, hfalse, _⟩ | heq
  · cases h.symm.trans herror
  · exact hfalse.elim
  · exact heq.symm.trans h

/-- Plain evaluation returns one value at most. -/
theorem reducePlain_ok_unique {limit limit' : Int} {levels levels' : Nat}
    {site site' : Site Origin} {e : Expr} {value value' : Literal}
    (h : (reducePlain context limit levels site e).outcome = .ok value)
    (h' : (reducePlain context limit' levels' site' e).outcome = .ok value') :
    value = value' := by
  have hmore : (reducePlain context limit (max levels levels') site e).outcome = .ok value :=
    reducePlain_ok_of_le (Nat.le_max_left levels levels') h
  have hmore' : (reducePlain context limit (max levels levels') site e).outcome = .ok value' :=
    reducePlain_ok_of_le (Nat.le_max_right levels levels') h'
  exact Except.ok.inj (hmore.symm.trans hmore')

/-- The limit is the only obstacle that plain evaluation adds to those of
branches and of names without a binding. -/
theorem reducePlain_error {levels : Nat} {site : Site Origin} {e : Expr} {error : EvalError}
    (h : (reducePlain context limit levels site e).outcome = .error error) :
    error.OfBranch ∨ (∃ name, error = .unbound name) ∨ error = .tooDeep limit := by
  induction levels generalizing site e with
  | zero => cases h; exact .inr (.inr rfl)
  | succ levels ih =>
      rcases reduceLevel_error h with hlocal | ⟨name, rfl, hname⟩ | ⟨step, sub, _, hpart⟩
      · exact .inl hlocal
      · unfold followBinding at hname
        split at hname
        · cases hname; exact .inr (.inl ⟨name, rfl⟩)
        · exact ih hname
      · exact ih hpart

/-- A run that meets the limit fails by it. -/
theorem Run.MeetsLimit.outcome_reducePlain {levels : Nat} {site : Site Origin} {e : Expr}
    (h : (reducePlain context limit levels site e).MeetsLimit) :
    (reducePlain context limit levels site e).outcome = .error (.tooDeep limit) := by
  obtain ⟨error, ⟨limit', rfl⟩, hrun⟩ := h
  rcases reducePlain_error hrun with hlocal | ⟨name, h⟩ | h
  · exact hlocal.elim
  · cases h
  · rw [hrun, h]

theorem reducePlain_not_cyclic {levels : Nat} {site : Site Origin} {e : Expr}
    {chain : List String} :
    (reducePlain context limit levels site e).outcome ≠ .error (.cyclic chain) := by
  intro h
  rcases reducePlain_error h with hlocal | ⟨name, h⟩ | h
  · exact hlocal
  · cases h
  · cases h

/-- Fewer levels meet the limit where more levels do. -/
theorem Run.MeetsLimit.of_le {levels levels' : Nat} {site : Site Origin} {e : Expr}
    (hle : levels ≤ levels')
    (h : (reducePlain context limit levels' site e).MeetsLimit) :
    (reducePlain context limit levels site e).MeetsLimit := by
  rcases reducePlain_upTo_of_le limit limit hle site e with heq | ⟨_, hstop⟩
  · rw [heq]; exact h
  · exact hstop

end Plain

/-! ### The guard -/

section Guard

variable {context : Context}

/-- On equally many levels the guarded run is the plain one, unless the guard cut
it short. -/
theorem reduce_upTo_reducePlain (context : Context) (limit : Int) (levels : Nat)
    (site : Site Origin) (resolving : List String) (e : Expr) :
    Run.UpTo EvalError.IsCyclic Literal (reduce context limit levels site resolving e)
      (reducePlain context limit levels site e) := by
  have hR := Run.congruence_upTo EvalError.IsCyclic
  induction levels generalizing site resolving e with
  | zero => exact hR.refl _
  | succ levels ih =>
      refine hR.reduceLevel (fun _ => hR.refl _) (fun step sub _ => ih _ _ _) fun name _ => ?_
      split
      · exact .inr ⟨List.nil_prefix, _, ⟨_, rfl⟩, rfl⟩
      · exact hR.followBinding rfl fun bound _ => ih _ _ bound

/-- No name in a list is resolved by plain evaluation on so many levels. -/
def Unresolvable (context : Context) (limit : Int) (levels : Nat) (names : List String) : Prop :=
  ∀ name ∈ names, ∀ site,
    (reducePlain context limit levels site (.reference name)).MeetsLimit

theorem Unresolvable.of_le {limit : Int} {levels levels' : Nat} {names : List String}
    (hle : levels ≤ levels') (h : Unresolvable context limit levels' names) :
    Unresolvable context limit levels names := by
  intro name mem site
  exact (h name mem site).of_le hle

/-- The fewest levels on which plain evaluation resolves a name. -/
theorem exists_fewest_levels {limit : Int} {levels : Nat} {site : Site Origin} {e : Expr}
    (h : ¬ (reducePlain context limit levels site e).MeetsLimit) :
    ∃ fewest < levels, ¬ (reducePlain context limit (fewest + 1) site e).MeetsLimit ∧
      (reducePlain context limit fewest site e).MeetsLimit := by
  induction levels with
  | zero => exact absurd ⟨_, ⟨_, rfl⟩, rfl⟩ h
  | succ levels ih =>
      by_cases hlast : (reducePlain context limit levels site e).MeetsLimit
      · exact ⟨levels, by omega, h, hlast⟩
      · obtain ⟨fewest, hlt, hfewest⟩ := ih hlast
        exact ⟨fewest, by omega, hfewest⟩

/-- Where plain evaluation resolves none of the names being resolved, it ends like
guarded evaluation, unless one of the two meets its limit. -/
theorem reduce_agree_reducePlain {limit limit' : Int} (levels levels' : Nat)
    (site site' : Site Origin) {resolving : List String} (e : Expr)
    (hresolving : Unresolvable context limit' levels' resolving) :
    Run.AgreeUnless EvalError.IsTooDeep EvalError.IsTooDeep Literal
      (reduce context limit levels site resolving e)
      (reducePlain context limit' levels' site' e) := by
  have hR := Run.congruence_agreeUnless EvalError.IsTooDeep EvalError.IsTooDeep
  induction levels generalizing levels' site site' resolving e with
  | zero => exact .inl ⟨_, ⟨_, rfl⟩, rfl⟩
  | succ levels ih =>
      by_cases hmeets : (reducePlain context limit' levels' site' e).MeetsLimit
      · exact .inr (.inl hmeets)
      cases levels' with
      | zero => exact absurd ⟨_, ⟨_, rfl⟩, rfl⟩ hmeets
      | succ levels' =>
      refine hR.reduceLevel (Run.AgreeUnless.record _ _ site site')
        (fun step sub _ => ih levels' (site.child step) (site'.child step) sub
          (hresolving.of_le (Nat.le_succ levels'))) fun name hname => ?_
      subst hname
      split
      · next mem => exact absurd (hresolving name mem site') hmeets
      cases hbound : Members.get? context name with
      | none =>
          rw [followBinding_of_none hbound, followBinding_of_none hbound]
          exact hR.refl _
      | some bound =>
          rw [followBinding_of_some hbound, followBinding_of_some hbound]
          -- The induction is used where the name just fails to be resolved again.
          obtain ⟨fewest, hlt, hresolved, hunresolved⟩ := exists_fewest_levels hmeets
          rw [reducePlain_reference hbound] at hresolved
          have hlonger : Unresolvable context limit' fewest (resolving ++ [name]) := by
            intro other mem site
            rcases List.mem_append.mp mem with mem | mem
            · exact hresolving.of_le (by omega) other mem site
            · rw [List.mem_singleton.mp mem, reducePlain_reference_site site site']
              exact hunresolved
          rcases ih fewest ⟨.binding name, []⟩ ⟨.binding name, []⟩ bound hlonger with
            hguard | hplain | heq
          · exact .inl hguard
          · exact absurd hplain hresolved
          · rcases reducePlain_upTo_of_le limit' limit' (show fewest ≤ levels' by omega)
              ⟨.binding name, []⟩ bound with hsame | ⟨_, hstop⟩
            · exact .inr (.inr (heq.trans (by rw [hsame])))
            · exact absurd hstop hresolved

/-- Plain evaluation ends like guarded evaluation at every limit, unless one of the
two meets its limit. -/
theorem evaluate_agree_evaluatePlain (context : Context) (maxDepth maxDepth' : Int) (e : Expr) :
    Run.AgreeUnless EvalError.IsTooDeep EvalError.IsTooDeep Literal
      (evaluate context maxDepth e) (evaluatePlain context maxDepth' e) :=
  reduce_agree_reducePlain _ _ _ _ e fun _ mem => absurd mem List.not_mem_nil

/-- Where the guard does not speak, plain evaluation is the same run. -/
theorem evaluatePlain_eq_of_not_cyclic {maxDepth : Int} {e : Expr}
    (h : ∀ chain, (evaluate context maxDepth e).outcome ≠ .error (.cyclic chain)) :
    evaluatePlain context maxDepth e = evaluate context maxDepth e := by
  rcases reduce_upTo_reducePlain context maxDepth (maxDepth + 1).toNat ⟨.subject, []⟩ [] e with
    heq | ⟨_, error, ⟨chain, rfl⟩, hrun⟩
  · exact heq.symm
  · exact absurd hrun (h chain)

/-- Where the guard speaks, plain evaluation meets every limit. -/
theorem evaluatePlain_tooDeep_of_cyclic {maxDepth : Int} {e : Expr} {chain : List String}
    (h : (evaluate context maxDepth e).outcome = .error (.cyclic chain)) (maxDepth' : Int) :
    (evaluatePlain context maxDepth' e).outcome = .error (.tooDeep maxDepth') := by
  rcases evaluate_agree_evaluatePlain context maxDepth maxDepth' e with
    ⟨_, ⟨limit, rfl⟩, hrun⟩ | hmeets | heq
  · cases h.symm.trans hrun
  · exact Run.MeetsLimit.outcome_reducePlain hmeets
  · exact absurd (heq.symm.trans h) reducePlain_not_cyclic

/-- What plain evaluation ends with below its limit, guarded evaluation does not
take for a cycle. -/
theorem evaluate_not_cyclic_of_evaluatePlain {maxDepth maxDepth' : Int} {e : Expr}
    {chain : List String}
    (h : (evaluatePlain context maxDepth' e).outcome ≠ .error (.tooDeep maxDepth')) :
    (evaluate context maxDepth e).outcome ≠ .error (.cyclic chain) := by
  intro hcyclic
  exact h (evaluatePlain_tooDeep_of_cyclic hcyclic maxDepth')

/-- Guarded and plain evaluation return the same values. -/
theorem evaluate_ok_iff_evaluatePlain {maxDepth : Int} {e : Expr} {value : Literal} :
    (evaluate context maxDepth e).outcome = .ok value ↔
      (evaluatePlain context maxDepth e).outcome = .ok value := by
  constructor
  · intro h
    rw [evaluatePlain_eq_of_not_cyclic (by simp [h]), h]
  · intro h
    have hends : (evaluatePlain context maxDepth e).outcome ≠ .error (.tooDeep maxDepth) := by
      simp [h]
    rwa [← evaluatePlain_eq_of_not_cyclic fun chain => evaluate_not_cyclic_of_evaluatePlain hends]

/-- **The cycle guard changes nothing but divergence.** At every limit, guarded and
plain evaluation return the same values; plain evaluation raises every other error
that guarded evaluation raises; and where the guard reports a cycle, plain
evaluation meets every limit whatsoever, so that nothing that ends is reported. -/
theorem cycle_guard_only_cuts_divergence (context : Context) (e : Expr) (maxDepth : Int) :
    (∀ value, (evaluate context maxDepth e).outcome = .ok value ↔
      (evaluatePlain context maxDepth e).outcome = .ok value) ∧
    (∀ error, (evaluate context maxDepth e).outcome = .error error → ¬ error.IsCyclic →
      (evaluatePlain context maxDepth e).outcome = .error error) ∧
    (∀ chain, (evaluate context maxDepth e).outcome = .error (.cyclic chain) →
      ∀ maxDepth', (evaluatePlain context maxDepth' e).outcome = .error (.tooDeep maxDepth')) ∧
    ((∃ maxDepth', (evaluatePlain context maxDepth' e).outcome ≠ .error (.tooDeep maxDepth')) →
      ∀ chain, (evaluate context maxDepth e).outcome ≠ .error (.cyclic chain)) := by
  refine ⟨?_, ?_, ?_, ?_⟩
  · intro value
    exact evaluate_ok_iff_evaluatePlain
  · intro error h hnot
    rw [evaluatePlain_eq_of_not_cyclic, h]
    intro chain hcyclic
    rw [h] at hcyclic
    exact hnot ⟨chain, Except.error.inj hcyclic⟩
  · intro chain h
    exact evaluatePlain_tooDeep_of_cyclic h
  · rintro ⟨maxDepth', hends⟩ chain
    exact evaluate_not_cyclic_of_evaluatePlain hends

end Guard

end Rulebook
