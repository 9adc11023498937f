import Rulebook.Proofs.CanonicalText
import Rulebook.Proofs.Provenance
import Rulebook.Proofs.ScopeDocument
import Rulebook.Proofs.Simulation

/-!
Equal expressions run alike.

Equality does not tell the two zeros apart, and neither does evaluation: in contexts
that bind names to equal expressions, equal expressions make the same decisions and end
in equal values, or in one error with one message (`reduce_inStep`). The two runs go on
side by side (`Run.InStep`), for expressions, inputs, calculations and whole scopes.
Writing a scope and reading it again takes the signs from its zeros and nothing else, so
it computes what it computed.
-/

namespace Rulebook

/-! ### Alike -/

theorem Literal.Alike.kind_eq {v w : Literal} (h : v.Alike w) : v.kind = w.kind := by
  rcases h.eq_or_zero with rfl | ⟨negative, negative', rfl, rfl⟩
  · rfl
  · rfl

/-- Literals that are alike are shown alike. -/
theorem Literal.Alike.text_eq {v w : Literal} (h : v.Alike w) : v.text = w.text := by
  rcases h.eq_or_zero with rfl | ⟨negative, negative', rfl, rfl⟩
  · rfl
  · simp only [Literal.text, Literal.numberText, Number.toInt_zero]

theorem EvalError.Alike.message_eq {error error' : EvalError} (h : error.Alike error') :
    error.message = error'.message := by
  cases h with
  | refl => rfl
  | notBoolean condition h =>
      exact congrArg (fun shown => s!"{condition.text} must evaluate to a boolean, got {shown}")
        h.text_eq
  | noCaseMatched h =>
      exact congrArg (fun shown => s!"No case matched {shown} and no otherwise branch was given")
        h.text_eq

/-- The same error, with a literal in its cause that is alike. -/
inductive ScopeError.Alike : ScopeError → ScopeError → Prop where
  | refl (error : ScopeError) : Alike error error
  | inputEvaluation {error error' : EvalError} : error.Alike error' →
      Alike (.inputEvaluation error) (.inputEvaluation error')
  | calculation (name : String) {cause cause' : EvalError} : cause.Alike cause' →
      Alike (.calculation name cause) (.calculation name cause')

theorem ScopeError.Alike.message_eq {error error' : ScopeError} (h : error.Alike error') :
    error.message = error'.message := by
  cases h with
  | refl => rfl
  | inputEvaluation h => exact h.message_eq
  | calculation name h =>
      exact congrArg (fun shown => s!"Error calculating calculation {name}: {shown}") h.message_eq

/-- The same error in the same words. -/
def EvalError.SameReport (error error' : EvalError) : Prop :=
  error.Alike error' ∧ error.message = error'.message

/-- The same error in the same words. -/
def ScopeError.SameReport (error error' : ScopeError) : Prop :=
  error.Alike error' ∧ error.message = error'.message

namespace Expr

/-- The same expression, or an equal one. -/
def Alike (e e' : Expr) : Prop := e = e' ∨ e.same e' = true

variable {e e' : Expr}

theorem Alike.refl (e : Expr) : e.Alike e := .inl rfl

theorem alike_literal {v w : Literal} (h : v.Alike w) : (literal v).Alike (literal w) := by
  rcases h with rfl | h
  · exact .inl rfl
  · exact .inr h

/-- Expressions that are alike are of one form, with parts that are alike. -/
theorem Alike.sameForm (h : e.Alike e') : e.SameForm Alike e' := by
  rcases h with rfl | h
  · exact sameForm_self_iff.mpr fun part _ => .refl part.2
  · exact (sameForm_of_same h).mono fun _ _ _ hsub => .inr hsub

theorem Alike.same (h : e.Alike e') (hnan : e.NanFree) : e.same e' = true := by
  rcases h with rfl | h
  · exact same_self_iff.mpr hnan
  · exact h

end Expr

namespace Context

/-- The same names are bound, to expressions that are related. -/
def Binds (related : Expr → Expr → Prop) (context context' : Context) : Prop :=
  ∀ name, Option.Rel related (Members.get? context name) (Members.get? context' name)

/-- Everything that is bound is free of NaN. -/
def NanFree (context : Context) : Prop :=
  ∀ name bound, Members.get? context name = some bound → bound.NanFree

variable {context context' : Context}

theorem binds_refl (context : Context) : Binds Expr.Alike context context := by
  intro name
  cases Members.get? context name with
  | none => exact .none
  | some bound => exact .some (.refl bound)

theorem Binds.of_same (h : Binds (fun e e' => e.same e' = true) context context') :
    Binds Expr.Alike context context' := by
  intro name
  rcases Members.rel_cases (h name) with ⟨hleft, hright⟩ | ⟨_, _, hleft, hright, hsame⟩
  · rw [hleft, hright]
    exact .none
  · rw [hleft, hright]
    exact .some (.inr hsame)

theorem Binds.put (h : Binds Expr.Alike context context') (name : String) {v w : Literal}
    (hvw : v.Alike w) :
    Binds Expr.Alike (Members.put context name (.literal v))
      (Members.put context' name (.literal w)) := by
  intro other
  rw [Members.get?_put, Members.get?_put]
  split
  · exact .some (Expr.alike_literal hvw)
  · exact h other

end Context

/-! ### Runs in step -/

namespace Run

/-- Two ends of a run: related values, or errors that are alike. -/
inductive Ends {ε α : Type} (alike : ε → ε → Prop) (rel : α → α → Prop) :
    Except ε α → Except ε α → Prop where
  | ok {value value' : α} : rel value value' → Ends alike rel (.ok value) (.ok value')
  | error {error error' : ε} : alike error error' →
      Ends alike rel (.error error) (.error error')

/-- Two runs that make the same decisions and end alike. -/
structure InStep {δ ε α : Type} (alike : ε → ε → Prop) (rel : α → α → Prop)
    (run run' : Run δ ε α) : Prop where
  decisions : run.decisions = run'.decisions
  outcome : Ends alike rel run.outcome run'.outcome

section InStep

variable {δ ε α β : Type} {alike : ε → ε → Prop} {rel : α → α → Prop} {run run' : Run δ ε α}

theorem Ends.cases {outcome outcome' : Except ε α} (h : Ends alike rel outcome outcome') :
    (∃ value value', outcome = .ok value ∧ outcome' = .ok value' ∧ rel value value') ∨
      ∃ error error', outcome = .error error ∧ outcome' = .error error' ∧ alike error error' := by
  cases h with
  | ok hrel => exact .inl ⟨_, _, rfl, rfl, hrel⟩
  | error herror => exact .inr ⟨_, _, rfl, rfl, herror⟩

theorem InStep.bind {rel' : β → β → Prop} {next next' : α → Run δ ε β}
    (h : InStep alike rel run run')
    (hnext : ∀ value value', rel value value' → InStep alike rel' (next value) (next' value')) :
    InStep alike rel' (run >>= next) (run' >>= next') := by
  obtain ⟨decisions, outcome⟩ := run
  obtain ⟨decisions', outcome'⟩ := run'
  obtain ⟨rfl, houtcome⟩ := h
  cases houtcome with
  | error herror => exact ⟨rfl, .error herror⟩
  | ok hrel =>
      obtain ⟨hdecisions, houtcome⟩ := hnext _ _ hrel
      exact ⟨congrArg (decisions ++ ·) hdecisions, houtcome⟩

theorem InStep.mapBoth {δ' ε' : Type} {alike' : ε' → ε' → Prop} {decision : δ → δ'}
    {error : ε → ε'} (h : InStep alike rel run run')
    (herror : ∀ cause cause', alike cause cause' → alike' (error cause) (error cause')) :
    InStep alike' rel (run.mapBoth decision error) (run'.mapBoth decision error) := by
  obtain ⟨decisions, outcome⟩ := run
  obtain ⟨decisions', outcome'⟩ := run'
  obtain ⟨rfl, houtcome⟩ := h
  cases houtcome with
  | error h => exact ⟨rfl, .error (herror _ _ h)⟩
  | ok hrel => exact ⟨rfl, .ok hrel⟩

/-- Ends may be compared more closely where more is known of them. -/
theorem InStep.imp {alike' : ε → ε → Prop} {rel' : α → α → Prop} (h : InStep alike rel run run')
    (herror : ∀ error error', alike error error' → alike' error error')
    (hvalue : ∀ value value', run.outcome = .ok value → rel value value' → rel' value value') :
    InStep alike' rel' run run' := by
  obtain ⟨decisions, outcome⟩ := run
  obtain ⟨decisions', outcome'⟩ := run'
  obtain ⟨hdecisions, houtcome⟩ := h
  refine ⟨hdecisions, ?_⟩
  cases houtcome with
  | error h => exact .error (herror _ _ h)
  | ok hrel => exact .ok (hvalue _ _ rfl hrel)

end InStep

theorem simulation_inStep : Simulation fun _ rel => InStep EvalError.Alike rel where
  done h := ⟨rfl, .ok h⟩
  fail h := ⟨rfl, .error h⟩
  bind := InStep.bind

end Run

/-! ### Expressions -/

section Reduction

variable {context context' : Context}

/-- Expressions that are alike are reduced in step where names are bound alike. -/
theorem reduce_inStep (hcontext : Context.Binds Expr.Alike context context') (limit : Int)
    (levels : Nat) (site : Site Origin) (resolving : List String) {e e' : Expr} (h : e.Alike e') :
    Run.InStep EvalError.Alike Literal.Alike (reduce context limit levels site resolving e)
      (reduce context' limit levels site resolving e') := by
  induction levels generalizing site resolving e e' with
  | zero => exact ⟨rfl, .error (.refl _)⟩
  | succ levels ih =>
      have hpart : ∀ step sub sub', sub.Alike sub' → Run.InStep EvalError.Alike Literal.Alike
          (reduce context limit levels (site.child step) resolving sub)
          (reduce context' limit levels (site.child step) resolving sub') :=
        fun step _ _ hsub => ih (site.child step) resolving hsub
      refine Run.simulation_inStep.reduceLevel (fun arm => ⟨rfl, .ok rfl⟩) hpart h.sameForm
        fun name _ => ?_
      split
      · exact ⟨rfl, .error (.refl _)⟩
      · unfold followBinding
        rcases Members.rel_cases (hcontext name) with ⟨hleft, hright⟩ |
          ⟨_, _, hleft, hright, hbound⟩
        · rw [hleft, hright]
          exact ⟨rfl, .error (.refl _)⟩
        · rw [hleft, hright]
          exact ih _ _ hbound

theorem evaluate_inStep (hcontext : Context.Binds Expr.Alike context context') (maxDepth : Int)
    {e e' : Expr} (h : e.Alike e') :
    Run.InStep EvalError.Alike Literal.Alike (evaluate context maxDepth e)
      (evaluate context' maxDepth e') :=
  reduce_inStep hcontext _ _ _ _ h

theorem Expr.NanFree.forLiterals {e : Expr} (h : e.NanFree) :
    e.ForLiterals (· ≠ .number .nan) := by
  rintro path v hv rfl
  exact h path hv

theorem Context.NanFree.forLiterals (h : Context.NanFree context) :
    Context.ForLiterals (· ≠ .number .nan) context :=
  fun name bound hbound => (h name bound hbound).forLiterals

theorem Expr.nanFree_literal {v : Literal} (h : v ≠ .number .nan) : (literal v).NanFree := by
  have hliterals : (literal v).ForLiterals (· ≠ .number .nan) := forLiterals_literal h
  intro path hpath
  exact hliterals path _ hpath rfl

end Reduction

/-! ### Scopes -/

namespace Scope

variable {context context' : Context} {maxDepth : Int}

/-- Inputs that are bound alike pass their check alike. -/
theorem checkInput_ends (hcontext : Context.Binds Expr.Alike context context') (name : String)
    (kind : Kind) :
    Run.Ends ScopeError.Alike Eq (checkInput context maxDepth name kind)
      (checkInput context' maxDepth name kind) := by
  unfold checkInput
  rcases Members.rel_cases (hcontext name) with ⟨hleft, hright⟩ | ⟨_, _, hleft, hright, hbound⟩
  · rw [hleft, hright]
    exact .error (.refl _)
  · simp only [hleft, hright]
    rcases (evaluate_inStep hcontext maxDepth hbound).outcome.cases with
      ⟨value, value', hvalue, hvalue', halike⟩ | ⟨error, error', herror, herror', halike⟩
    · simp only [hvalue, hvalue', halike.kind_eq]
      split
      · exact .ok rfl
      · exact .error (.refl _)
    · simp only [herror, herror']
      exact .error (.inputEvaluation halike)

theorem checkInputs_ends (hcontext : Context.Binds Expr.Alike context context')
    (inputs : List (String × Kind)) :
    Run.Ends ScopeError.Alike Eq (checkInputs context maxDepth inputs)
      (checkInputs context' maxDepth inputs) := by
  induction inputs with
  | nil => exact .ok rfl
  | cons input rest ih =>
      obtain ⟨name, kind⟩ := input
      simp only [checkInputs]
      have hfirst : Run.Ends ScopeError.Alike Eq (checkInput context maxDepth name kind)
          (checkInput context' maxDepth name kind) := checkInput_ends hcontext name kind
      rcases hfirst.cases with
        ⟨_, _, hok, hok', _⟩ | ⟨_, _, herror, herror', halike⟩
      · rw [hok, hok']
        exact ih
      · rw [herror, herror']
        exact .error halike

/-- The same name, given to expressions that are related. -/
abbrev Named (related : Expr → Expr → Prop) (entry entry' : String × Expr) : Prop :=
  entry.1 = entry'.1 ∧ related entry.2 entry'.2

/-- Calculations that are alike bind their names alike. -/
theorem runCalculations_inStep (hcontext : Context.Binds Expr.Alike context context')
    {calculations calculations' : List (String × Expr)}
    (h : List.Forall₂ (Named Expr.Alike) calculations calculations') :
    Run.InStep ScopeError.Alike (Context.Binds Expr.Alike)
      (runCalculations maxDepth context calculations)
      (runCalculations maxDepth context' calculations') := by
  induction h generalizing context context' with
  | nil => exact ⟨rfl, .ok hcontext⟩
  | @cons calculation calculation' rest rest' hfirst _ ih =>
      obtain ⟨name, e⟩ := calculation
      obtain ⟨_, e'⟩ := calculation'
      obtain ⟨rfl, he⟩ := hfirst
      have hrun : Run.InStep ScopeError.Alike Literal.Alike
          (runCalculation context maxDepth name e) (runCalculation context' maxDepth name e') :=
        (evaluate_inStep hcontext maxDepth he).mapBoth fun _ _ => .calculation name
      exact hrun.bind fun value value' halike => ih (hcontext.put name halike)

/-- Contexts that bind alike publish alike. -/
theorem publish_forall₂ (hcontext : Context.Binds Expr.Alike context context')
    (outputs : List String) :
    List.Forall₂ (Named Expr.Alike) (publish outputs context) (publish outputs context') := by
  induction outputs with
  | nil => exact .nil
  | cons name outputs ih =>
      unfold publish at ih ⊢
      rcases Members.rel_cases (hcontext name) with ⟨hleft, hright⟩ | ⟨_, _, hleft, hright, hbound⟩
      · simpa only [List.filterMap_cons, hleft, hright, Option.map_none] using ih
      · simpa only [List.filterMap_cons, hleft, hright, Option.map_some, List.forall₂_cons] using
          ⟨⟨rfl, hbound⟩, ih⟩

/-- Equal scopes are evaluated in step where names are bound alike. -/
theorem evaluate_inStep (hcontext : Context.Binds Expr.Alike context context')
    {scope scope' : Scope} (h : scope.same scope' = true) :
    Run.InStep ScopeError.Alike (List.Forall₂ (Named Expr.Alike))
      (scope.evaluate context maxDepth) (scope'.evaluate context' maxDepth) := by
  obtain ⟨hinputs, hcalculations, houtputs⟩ := same_iff.mp h
  have hchecked : Run.InStep ScopeError.Alike Eq (untraced (scope.validate context maxDepth))
      (untraced (scope'.validate context' maxDepth)) := by
    rw [validate, validate, ← hinputs]
    exact ⟨rfl, checkInputs_ends hcontext scope.inputs⟩
  refine hchecked.bind fun _ _ _ => ?_
  have halike : List.Forall₂ (Named Expr.Alike) scope.calculations scope'.calculations :=
    hcalculations.imp fun _ _ hcalculation => ⟨hcalculation.1, .inr hcalculation.2⟩
  refine (runCalculations_inStep hcontext halike).bind fun final final' hfinal => ?_
  rw [← outputs_eq_iff.mpr houtputs]
  exact ⟨rfl, .ok (publish_forall₂ hfinal scope.outputs)⟩

/-! ### Scopes read from what was written -/

/-- What is read from the document form of a scope is equal to it. -/
theorem same_of_decode_encode {machine : Machine} {scope read : Scope}
    (h : decode machine scope.encode = .ok read) : scope.same read = true := by
  obtain ⟨layout, hlayout, hrest⟩ := bind_eq_ok_iff.mp h
  obtain ⟨calculations, hread, _⟩ := bind_eq_ok_iff.mp hrest
  obtain ⟨_, hencoded⟩ := read_encode scope
  cases hencoded.symm.trans hlayout
  have hportable : ∀ calculation ∈ scope.calculations, calculation.2.Portable ∧
      machine.decodes calculation.2.encode = true := by
    intro calculation mem
    have hmember : (calculation.1, calculation.2.encode) ∈
        encodeCalculations scope.calculations := List.mem_map.mpr ⟨calculation, mem, rfl⟩
    obtain ⟨found, hfound⟩ := read_of_readMembers hread hmember
    obtain ⟨hdecodes, hwithin⟩ := Expr.decodeAt_eq_ok_iff.mp hfound
    rcases Expr.settles_decodeWithin (defaultMaxDepth + 1) _ calculation.2 with
      ⟨hfits, _⟩ | ⟨_, error, herror⟩
    · exact ⟨Expr.portable_iff_fitsWithin.mpr hfits, hdecodes⟩
    · cases herror.symm.trans hwithin
  cases (decode_encode hportable).symm.trans h
  exact same_canonical fun calculation mem => (hportable calculation mem).1

/-- What is read from the text of a scope is equal to it. -/
theorem same_of_ofJson_toJson {machine : Machine} {scope read : Scope} {indent : Option Int}
    {text : String} (hwrite : scope.toJson machine indent = .ok text)
    (hread : ofJson machine text = .ok read) : scope.same read = true := by
  obtain ⟨_, layout, rfl⟩ := Machine.eq_text_of_writeDocument scope.readable_encode hwrite
  rw [ofJson] at hread
  rcases parseDocument_text machine.jsonRoom layout scope.readable_encode with
    ⟨_, hparse⟩ | ⟨_, hparse⟩
  · rw [hparse] at hread
    exact same_of_decode_encode (mapError_eq_ok_iff.mp hread)
  · rw [hparse] at hread
    cases hread

end Scope

/-- **Evaluation respects equality.** Equal expressions free of NaN, in contexts that bind
the same names to equal expressions free of NaN, make the same decisions and end in equal
values or in one error with one message; so do equal scopes, with equal results. Whatever
is read from the text of a scope computes what the scope does, in every context. -/
theorem evaluation_respects_equality (machine : Machine) (maxDepth : Int) :
    (∀ (context context' : Context) (e e' : Expr), Context.NanFree context → e.NanFree →
      Context.Binds (fun bound bound' => bound.same bound' = true) context context' →
      e.same e' = true →
        Run.InStep EvalError.SameReport (fun value value' => value.same value' = true)
          (evaluate context maxDepth e) (evaluate context' maxDepth e')) ∧
    (∀ (context context' : Context) (scope scope' : Scope), Context.NanFree context →
      (∀ calculation ∈ scope.calculations, calculation.2.NanFree) →
      Context.Binds (fun bound bound' => bound.same bound' = true) context context' →
      scope.same scope' = true →
        Run.InStep ScopeError.SameReport (List.Forall₂ (Scope.Named fun e e' => e.same e' = true))
          (scope.evaluate context maxDepth) (scope'.evaluate context' maxDepth)) ∧
    (∀ (scope read : Scope) (indent : Option Int) (text : String),
      scope.toJson machine indent = .ok text → Scope.ofJson machine text = .ok read →
        scope.same read = true ∧ ∀ context : Context,
          Run.InStep ScopeError.SameReport (List.Forall₂ (Scope.Named Expr.Alike))
            (scope.evaluate context maxDepth) (read.evaluate context maxDepth)) := by
  refine ⟨?_, ?_, ?_⟩
  · intro context context' e e' hcontext he hbinds hsame
    refine (evaluate_inStep hbinds.of_same maxDepth (.inr hsame)).imp
      (fun _ _ halike => ⟨halike, halike.message_eq⟩) fun value value' hvalue halike => ?_
    exact halike.same (evaluate_ok_of_literals hcontext.forLiterals he.forLiterals hvalue)
  · intro context context' scope scope' hcontext hscope hbinds hsame
    refine (Scope.evaluate_inStep hbinds.of_same hsame).imp
      (fun _ _ halike => ⟨halike, halike.message_eq⟩) fun results results' hresults halike => ?_
    have hnan : ∀ result ∈ results, result.2.NanFree := by
      intro result mem
      rcases Scope.evaluate_ok_of_literals hcontext.forLiterals
        (fun calculation mem => (hscope calculation mem).forLiterals) hresults mem with
        hbound | ⟨value, hvalue, hnot⟩
      · exact hcontext result.1 result.2 hbound
      · rw [hvalue]
        exact Expr.nanFree_literal hnot
    refine ((List.forall₂_and_left results results').mpr ⟨hnan, halike⟩).imp ?_
    rintro result result' ⟨hnan, hname, halike⟩
    exact ⟨hname, halike.same hnan⟩
  · intro scope read indent text hwrite hread
    have hsame := Scope.same_of_ofJson_toJson hwrite hread
    refine ⟨hsame, fun context => ?_⟩
    exact (Scope.evaluate_inStep (Context.binds_refl context) hsame).imp
      (fun _ _ halike => ⟨halike, halike.message_eq⟩) fun _ _ _ halike => halike

/-- A member, and a rate of zero that is listed behind or, as the other zero, in front. -/
def memberContext (negative : Bool) : Context :=
  if negative then
    [("rate", .literal (.number (.zero true))), ("member", .literal (.bool true))]
  else [("member", .literal (.bool true)), ("rate", .literal (.number (.zero false)))]

/-- A fee of zero and a scope around it, computed with either zero and from the text. -/
theorem zero_fees_computed_alike :
    Run.InStep EvalError.SameReport (fun value value' => value.same value' = true)
      (evaluate (memberContext false) 4 (memberFee false none))
      (evaluate (memberContext true) 4 (memberFee true none)) ∧
    Run.InStep ScopeError.SameReport (List.Forall₂ (Scope.Named fun e e' => e.same e' = true))
      ((feeScope (memberFee false none)).evaluate (memberContext false) 4)
      ((feeScope (memberFee true none)).evaluate (memberContext true) 4) ∧
    ∃ text read, (feeScope (memberFee true none)).toJson .standard (some 2) = .ok text ∧
      Scope.ofJson .standard text = .ok read ∧
      (feeScope (memberFee true none)).same read = true := by
  obtain ⟨hexprs, hscopes, htexts⟩ := evaluation_respects_equality .standard 4
  have hcontext : Context.NanFree (memberContext false) := by
    intro name bound hbound
    have mem : (name, bound) ∈ memberContext false := Members.mem_of_get? hbound
    rcases List.mem_cons.mp mem with heq | mem
    · cases heq
      exact Expr.nanFree_literal nofun
    · cases List.mem_singleton.mp mem
      exact Expr.nanFree_literal nofun
  have hbinds : Context.Binds (fun bound bound' => bound.same bound' = true)
      (memberContext false) (memberContext true) := by
    intro name
    by_cases hmember : "member" = name
    · subst hmember
      exact .some rfl
    · by_cases hrate : "rate" = name
      · subst hrate
        exact .some rfl
      · simp only [memberContext, Bool.false_eq_true, if_true, if_false, Members.get?,
          hmember, hrate]
        exact .none
  have hfree : (memberFee false none).NanFree := Expr.same_self_iff.mp rfl
  have hportable : ∀ calculation ∈ (feeScope (memberFee true none)).calculations,
      calculation.2.Portable := by
    refine List.forall_mem_singleton.mpr (Expr.portable_iff_fitsWithin.mpr ?_)
    refine Expr.fitsWithin_succ_iff.mpr ⟨nofun, ?_⟩
    refine (Expr.forall_mem_ruleChain (Expr.FitsWithin defaultMaxDepth)).mpr
      ⟨List.forall_mem_singleton.mpr ⟨?_, ?_⟩, nofun⟩
    · exact Expr.fitsWithin_reference _ _
    · apply Expr.fitsWithin_literal
      rintro x ⟨⟩
      rfl
  obtain ⟨text, read, hwrite, hread, _⟩ :=
    Scope.toJson_ok Machine.ample_standard hportable
      (show Machine.standard.layoutFor (some 2) _ = .ok (.indented 2) from rfl)
  exact ⟨hexprs _ _ _ _ hcontext hfree hbinds rfl,
    hscopes _ _ _ _ hcontext (List.forall_mem_singleton.mpr hfree) hbinds rfl,
    text, read, hwrite, hread, (htexts _ _ _ _ hwrite hread).1⟩

end Rulebook
