import Rulebook.Proofs.Reach
import Rulebook.Proofs.ScopeRun
import Rulebook.Proofs.Selection
import Rulebook.Scope.Check

/-!
The inspection of a scope is sound for its evaluation.

The inspection keeps the names that a calculation may refer to: the inputs and the
earlier calculations. In a context of literals each of these is bound to a
literal when the calculation runs (`AgreeOn`), so neither a missing name nor a
cycle can stop it, and its value depends on nothing else that is bound.
-/

namespace Rulebook

/-! ### Evaluation of one expression -/

section Reduction

variable {context : Context} {limit : Int}

/-- Where every name is bound to a literal, only branches and the limit fail. -/
theorem reduce_error_of_literals {e : Expr} {levels : Nat} {site : Site Origin}
    {error : EvalError}
    (hbound : ∀ name ∈ e.references, ∃ value, Members.get? context name = some (.literal value))
    (h : (reduce context limit levels site [] e).outcome = .error error) :
    error.OfBranch ∨ error = .tooDeep limit := by
  induction levels generalizing site e with
  | zero => cases h; exact .inr rfl
  | succ levels ih =>
      rcases reduceLevel_error h with hlocal | ⟨name, rfl, hname⟩ | ⟨step, sub, mem, hpart⟩
      · exact .inl hlocal
      · obtain ⟨value, hvalue⟩ := hbound name (by simp [Expr.references])
        rw [if_neg List.not_mem_nil, followBinding_of_some hvalue] at hname
        cases levels with
        | zero => cases hname; exact .inr rfl
        | succ levels => cases hname
      · exact ih (fun name hname => hbound name (Expr.references_of_mem_parts mem hname)) hpart

end Reduction

/-! ### Contexts of literals -/

/-- Two contexts bind each of the names to the same literal. -/
def AgreeOn (names : List String) (context context' : Context) : Prop :=
  ∀ name ∈ names, ∃ value, Members.get? context name = some (.literal value) ∧
    Members.get? context' name = some (.literal value)

section AgreeOn

variable {names : List String} {context context' : Context} {maxDepth : Int}

theorem AgreeOn.evaluate_eq (h : AgreeOn names context context') {e : Expr}
    (he : ∀ name ∈ e.references, name ∈ names) :
    evaluate context maxDepth e = evaluate context' maxDepth e := by
  refine reduce_congr_of_closed (fun name mem => ?_) (fun name bound mem hbound => ?_) _ _ _ e he
  · obtain ⟨value, hvalue, hvalue'⟩ := h name mem
    rw [hvalue, hvalue']
  · obtain ⟨value, hvalue, _⟩ := h name mem
    cases hvalue.symm.trans hbound
    simp [Expr.references]

theorem AgreeOn.evaluate_error (h : AgreeOn names context context') {e : Expr}
    (he : ∀ name ∈ e.references, name ∈ names) {error : EvalError}
    (hrun : (evaluate context maxDepth e).outcome = .error error) :
    error.OfBranch ∨ error = .tooDeep maxDepth := by
  refine reduce_error_of_literals (fun name mem => ?_) hrun
  obtain ⟨value, hvalue, _⟩ := h name (he name mem)
  exact ⟨value, hvalue⟩

/-- Binding one more name to one literal on both sides. -/
theorem AgreeOn.put (h : AgreeOn names context context') (name : String) (value : Literal) :
    AgreeOn (names ++ [name]) (Members.put context name (.literal value))
      (Members.put context' name (.literal value)) := by
  intro other mem
  simp only [Members.get?_put]
  by_cases heq : name = other
  · exact ⟨value, if_pos heq, if_pos heq⟩
  · have hother : other ∈ names := by
      rcases List.mem_append.mp mem with mem | mem
      · exact mem
      · exact absurd (List.mem_singleton.mp mem).symm heq
    simpa only [if_neg heq] using h other hother

end AgreeOn

/-! ### Warnings -/

/-- A warning of a reference that cannot resolve. -/
def ScopeWarning.IsReference : ScopeWarning → Prop
  | .calculatedLater _ _ | .unknownName _ _ => True
  | _ => False

/-- The error of an evaluation that stopped a scope is made by a branch or by the
limit. -/
def ScopeError.FromLiterals (maxDepth : Int) (error : ScopeError) : Prop :=
  ∃ cause, error.cause? = some cause ∧ (cause.OfBranch ∨ cause = .tooDeep maxDepth)

/-- Neither a missing name nor a cycle is such an error. -/
theorem ScopeError.FromLiterals.cause_ne {maxDepth : Int} {error : ScopeError} {cause : EvalError}
    (h : error.FromLiterals maxDepth) (hcause : error.cause? = some cause) :
    (∀ name, cause ≠ .unbound name) ∧ ∀ chain, cause ≠ .cyclic chain := by
  obtain ⟨cause', hcause', hfrom⟩ := h
  cases hcause.symm.trans hcause'
  constructor
  · rintro name rfl
    rcases hfrom with hbranch | hdeep
    · exact hbranch
    · cases hdeep
  · rintro chain rfl
    rcases hfrom with hbranch | hdeep
    · exact hbranch
    · cases hdeep

namespace Scope

/-- A calculation without warnings of references refers to visible names only. -/
theorem references_visible {scope : Scope} {visible : List String} {name : String} {e : Expr}
    (h : ∀ warning ∈ scope.calculationWarnings visible name e, ¬ warning.IsReference) :
    ∀ other ∈ e.references, other ∈ visible := by
  intro other mem
  refine Decidable.byContradiction fun hnot => ?_
  have hmissing : scope.unresolved name other ∈ scope.calculationWarnings visible name e := by
    refine List.mem_append.mpr (.inr (List.mem_map.mpr ⟨other, ?_, rfl⟩))
    exact List.mem_filter.mpr ⟨mem_sortedNames.mpr mem, by simp [hnot]⟩
  refine h _ hmissing ?_
  unfold unresolved
  split <;> trivial

/-- A scope without warnings publishes only inputs and calculations. -/
theorem outputs_known {scope : Scope} (h : scope.outputWarnings = []) {name : String}
    (mem : name ∈ scope.outputs) :
    name ∈ Members.names scope.inputs ++ Members.names scope.calculations := by
  refine Decidable.byContradiction fun hnot => ?_
  have hwarning : ScopeWarning.unknownOutput name ∈ scope.outputWarnings :=
    List.mem_map.mpr ⟨name, List.mem_filter.mpr ⟨mem, by simp [hnot]⟩, rfl⟩
  rw [h] at hwarning
  cases hwarning

/-! ### Evaluation of a scope -/

/-- A context of literals that binds every declared input to one of its kind. -/
structure Supplied (scope : Scope) (context : Context) : Prop where
  literal : ∀ name bound, Members.get? context name = some bound → ∃ value, bound = .literal value
  input : ∀ name kind, (name, kind) ∈ scope.inputs →
    ∃ value, Members.get? context name = some (.literal value) ∧ value.kind = kind

/-- Two contexts bind every declared input alike. -/
def AgreeOnInputs (scope : Scope) (context context' : Context) : Prop :=
  ∀ name ∈ Members.names scope.inputs, Members.get? context name = Members.get? context' name

section Supplied

variable {scope : Scope} {context context' : Context}

theorem Supplied.agreeOn (h : scope.Supplied context) (h' : AgreeOnInputs scope context context') :
    AgreeOn (Members.names scope.inputs) context context' := by
  intro name mem
  obtain ⟨⟨_, kind⟩, hinput, rfl⟩ := List.mem_map.mp mem
  obtain ⟨value, hvalue, _⟩ := h.input _ kind hinput
  exact ⟨value, hvalue, (h' _ mem).symm.trans hvalue⟩

/-- Inputs bound to literals of their kinds can fail by the limit only. -/
theorem checkInputs_of_literals (maxDepth : Int) {inputs : List (String × Kind)}
    (h : ∀ name kind, (name, kind) ∈ inputs →
      ∃ value, Members.get? context name = some (.literal value) ∧ value.kind = kind) :
    checkInputs context maxDepth inputs =
      if inputs ≠ [] ∧ maxDepth < 0 then .error (.inputEvaluation (.tooDeep maxDepth))
      else .ok () := by
  induction inputs with
  | nil => simp [checkInputs]
  | cons input rest ih =>
      obtain ⟨name, kind⟩ := input
      obtain ⟨value, hvalue, hkind⟩ := h name kind List.mem_cons_self
      have hrest := ih fun other kind mem => h other kind (List.mem_cons_of_mem _ mem)
      by_cases hdepth : maxDepth < 0
      · have hlevels : (maxDepth + 1).toNat = 0 := by omega
        have hcheck : checkInput context maxDepth name kind =
            .error (.inputEvaluation (.tooDeep maxDepth)) := by
          simp only [checkInput, hvalue, Rulebook.evaluate, hlevels]
          rfl
        simp only [checkInputs, hcheck]
        simp [hdepth]
      · have hcheck : checkInput context maxDepth name kind = .ok () := by
          rw [← hkind]
          exact checkInput_of_literal (Int.not_lt.mp hdepth) hvalue
        simp only [checkInputs, hcheck, hrest]
        simp [hdepth]

/-- Calculations without warnings of references end alike in two contexts that agree
on the visible names. -/
theorem runCalculations_agree (maxDepth : Int) {calculations : List (String × Expr)}
    {visible : List String}
    (hwarnings : ∀ warning ∈ scope.calculationsWarnings visible calculations,
      ¬ warning.IsReference) (h : AgreeOn visible context context') :
    (∃ error : ScopeError, error.FromLiterals maxDepth ∧
      (runCalculations maxDepth context calculations).outcome = .error error ∧
      (runCalculations maxDepth context' calculations).outcome = .error error) ∨
    ∃ final final', (runCalculations maxDepth context calculations).outcome = .ok final ∧
      (runCalculations maxDepth context' calculations).outcome = .ok final' ∧
      AgreeOn (visible ++ Members.names calculations) final final' := by
  induction calculations generalizing visible context context' with
  | nil => exact .inr ⟨context, context', rfl, rfl, by simpa using h⟩
  | cons calculation rest ih =>
      obtain ⟨name, e⟩ := calculation
      have he : ∀ other ∈ e.references, other ∈ visible :=
        references_visible fun warning mem =>
          hwarnings warning (List.mem_append.mpr (.inl mem))
      have heq : Rulebook.evaluate context maxDepth e = Rulebook.evaluate context' maxDepth e :=
        h.evaluate_eq he
      cases hrun : (Rulebook.evaluate context maxDepth e).outcome with
      | error cause =>
          refine .inl ⟨.calculation name cause, ⟨cause, rfl, h.evaluate_error he hrun⟩, ?_, ?_⟩
          · exact runCalculations_cons_error.mpr (.inl ⟨cause, hrun, rfl⟩)
          · exact runCalculations_cons_error.mpr (.inl ⟨cause, heq ▸ hrun, rfl⟩)
      | ok value =>
          have hrun' : (Rulebook.evaluate context' maxDepth e).outcome = .ok value := heq ▸ hrun
          rcases ih (fun warning mem => hwarnings warning (List.mem_append.mpr (.inr mem)))
            (h.put name value) with
            ⟨error, herror, hrest, hrest'⟩ | ⟨final, final', hrest, hrest', hfinal⟩
          · refine .inl ⟨error, herror, ?_, ?_⟩
            · exact runCalculations_cons_error.mpr (.inr ⟨value, hrun, hrest⟩)
            · exact runCalculations_cons_error.mpr (.inr ⟨value, hrun', hrest'⟩)
          · refine .inr ⟨final, final', ?_, ?_, ?_⟩
            · exact runCalculations_cons_ok.mpr ⟨value, hrun, hrest⟩
            · exact runCalculations_cons_ok.mpr ⟨value, hrun', hrest'⟩
            · simpa using hfinal

/-- A scope without warnings of references ends alike in two supplied contexts that
agree on its inputs. -/
theorem evaluate_agree (maxDepth : Int)
    (hwarnings : ∀ warning ∈ scope.warnings, ¬ warning.IsReference)
    (h : scope.Supplied context) (h' : scope.Supplied context')
    (hagree : AgreeOnInputs scope context context') :
    (∃ error : ScopeError, error.FromLiterals maxDepth ∧
      (scope.evaluate context maxDepth).outcome = .error error ∧
      (scope.evaluate context' maxDepth).outcome = .error error) ∨
    ∃ final final',
      (scope.evaluate context maxDepth).outcome = .ok (publish scope.outputs final) ∧
      (scope.evaluate context' maxDepth).outcome = .ok (publish scope.outputs final') ∧
      AgreeOn (Members.names scope.inputs ++ Members.names scope.calculations) final final' := by
  have hvalid := checkInputs_of_literals maxDepth h.input
  have hvalid' := checkInputs_of_literals maxDepth h'.input
  by_cases hdepth : scope.inputs ≠ [] ∧ maxDepth < 0
  · rw [if_pos hdepth] at hvalid hvalid'
    refine .inl ⟨.inputEvaluation (.tooDeep maxDepth), ⟨_, rfl, .inr rfl⟩, ?_, ?_⟩
    · exact evaluate_error_iff.mpr (.inl hvalid)
    · exact evaluate_error_iff.mpr (.inl hvalid')
  · rw [if_neg hdepth] at hvalid hvalid'
    rcases runCalculations_agree maxDepth
      (fun warning mem => hwarnings warning (List.mem_append.mpr (.inl mem)))
      (h.agreeOn hagree) with ⟨error, herror, hrun, hrun'⟩ | ⟨final, final', hrun, hrun', hfinal⟩
    · refine .inl ⟨error, herror, ?_, ?_⟩
      · exact evaluate_error_iff.mpr (.inr ⟨hvalid, hrun⟩)
      · exact evaluate_error_iff.mpr (.inr ⟨hvalid', hrun'⟩)
    · refine .inr ⟨final, final', ?_, ?_, hfinal⟩
      · exact evaluate_ok_iff.mpr ⟨hvalid, final, hrun, rfl⟩
      · exact evaluate_ok_iff.mpr ⟨hvalid', final', hrun', rfl⟩

end Supplied

/-! ### Outputs -/

/-- Outputs that are all bound are published under their names. -/
theorem names_publish {outputs names : List String} {context context' : Context}
    (h : AgreeOn names context context') (hknown : ∀ name ∈ outputs, name ∈ names) :
    Members.names (publish outputs context) = outputs ∧
      publish outputs context = publish outputs context' := by
  induction outputs with
  | nil => exact ⟨rfl, rfl⟩
  | cons name rest ih =>
      obtain ⟨hnames, heq⟩ := ih fun other mem => hknown other (List.mem_cons_of_mem _ mem)
      obtain ⟨value, hvalue, hvalue'⟩ := h name (hknown name List.mem_cons_self)
      simp only [publish] at hnames heq
      simp only [publish, List.filterMap_cons, hvalue, hvalue', Option.map_some, heq, and_true]
      rw [heq] at hnames
      exact congrArg (name :: ·) hnames

/-- **The inspection of a scope is sound for its evaluation.** A scope without
warnings of references, evaluated in a context of literals that supplies its
inputs, is stopped by no missing name and by no cycle. A scope without any warning
publishes all its outputs when it succeeds, and what else the context binds
changes neither its results nor its error. -/
theorem evaluation_sound_of_warnings (scope : Scope) :
    ((∀ warning ∈ scope.warnings, ¬ warning.IsReference) →
      ∀ context, scope.Supplied context → ∀ maxDepth error cause,
        (scope.evaluate context maxDepth).outcome = .error error → error.cause? = some cause →
          (∀ name, cause ≠ .unbound name) ∧ ∀ chain, cause ≠ .cyclic chain) ∧
    (scope.warnings = [] → ∀ context, scope.Supplied context → ∀ maxDepth,
      (∀ results, (scope.evaluate context maxDepth).outcome = .ok results →
        Members.names results = scope.outputs) ∧
      ∀ context', scope.Supplied context' → AgreeOnInputs scope context context' →
        (scope.evaluate context maxDepth).outcome =
          (scope.evaluate context' maxDepth).outcome) := by
  constructor
  · intro hwarnings context h maxDepth error cause hrun hcause
    rcases evaluate_agree maxDepth hwarnings h h (fun _ _ => rfl) with
      ⟨other, hfrom, hother, _⟩ | ⟨final, _, hok, _, _⟩
    · cases hrun.symm.trans hother
      exact hfrom.cause_ne hcause
    · cases hrun.symm.trans hok
  · intro hnone context h maxDepth
    have hwarnings : ∀ warning ∈ scope.warnings, ¬ warning.IsReference := by
      intro warning mem
      rw [hnone] at mem
      cases mem
    have hknown : ∀ name ∈ scope.outputs,
        name ∈ Members.names scope.inputs ++ Members.names scope.calculations :=
      fun name mem => outputs_known (List.append_eq_nil_iff.mp hnone).2 mem
    constructor
    · intro results hrun
      rcases evaluate_agree maxDepth hwarnings h h (fun _ _ => rfl) with
        ⟨_, _, hother, _⟩ | ⟨final, _, hok, _, hfinal⟩
      · cases hrun.symm.trans hother
      · cases hrun.symm.trans hok
        exact (names_publish hfinal hknown).1
    · intro context' h' hagree
      rcases evaluate_agree maxDepth hwarnings h h' hagree with
        ⟨_, _, hfail, hfail'⟩ | ⟨final, final', hok, hok', hfinal⟩
      · rw [hfail, hfail']
      · rw [hok, hok', (names_publish hfinal hknown).2]

/-- A scope with one flag and one calculation that reads it. -/
def greetingScope : Scope where
  inputs := [("known", .bool)]
  calculations := [("greeting", .ifThenElse (.reference "known") (.literal (.string "hello"))
    (.literal (.string "welcome")))]
  outputs := ["greeting"]
  nodup_inputs := by decide
  nodup_calculations := by decide
  pairwise_outputs := by decide

/-- What is supplied to `greetingScope`, with an entry that it does not declare. -/
def greetingContext (undeclared : Literal) : Context :=
  [("unused", .literal undeclared), ("known", .literal (.bool true))]

theorem supplied_greeting (undeclared : Literal) :
    greetingScope.Supplied (greetingContext undeclared) where
  literal name bound h := by
    simp only [greetingContext, Members.get?] at h
    split at h
    · exact ⟨undeclared, (Option.some.inj h).symm⟩
    · split at h
      · exact ⟨.bool true, (Option.some.inj h).symm⟩
      · cases h
  input name kind h := by
    cases List.mem_singleton.mp h
    exact ⟨.bool true, rfl, rfl⟩

/-- `greetingScope` does not notice the entry that it does not declare. -/
theorem greeting_evaluated_alike :
    greetingScope.warnings = [] ∧
    greetingScope.Supplied (greetingContext (.bool false)) ∧
    greetingScope.Supplied (greetingContext (.string "other")) ∧
    (greetingScope.evaluate (greetingContext (.bool false)) 3).outcome =
      .ok [("greeting", .literal (.string "hello"))] ∧
    (greetingScope.evaluate (greetingContext (.bool false)) 3).outcome =
      (greetingScope.evaluate (greetingContext (.string "other")) 3).outcome := by
  have hwarnings : greetingScope.warnings = [] := by decide
  have hrun : (greetingScope.evaluate (greetingContext (.bool false)) 3).outcome =
      .ok [("greeting", .literal (.string "hello"))] := rfl
  have hagree : greetingScope.AgreeOnInputs (greetingContext (.bool false))
      (greetingContext (.string "other")) := by
    intro name mem
    cases List.mem_singleton.mp mem
    rfl
  refine ⟨hwarnings, supplied_greeting _, supplied_greeting _, hrun, ?_⟩
  exact ((evaluation_sound_of_warnings greetingScope).2 hwarnings _ (supplied_greeting _) 3).2 _
    (supplied_greeting _) hagree

end Scope

end Rulebook
