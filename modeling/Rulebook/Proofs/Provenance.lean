import Rulebook.Proofs.Reach
import Rulebook.Proofs.ScopeRun
import Rulebook.Proofs.Selection

/-!
Where values come from.

No literal is made while an expression is reduced: one level ends as the literal that
stands there, as the name or as a part, or it fails and shows the value of a part
(`reduceLevel_ends`). So whatever is true of all literals of an expression and of the
bindings within its reach is true of the literal that an evaluation ends with
(`reduce_shows_of_reach`); in particular, it stands in one of them
(`stands_of_evaluate`). What is true of everything that is bound is true of all that a
scope publishes (`Scope.evaluate_ok_of_literals`).
-/

namespace Rulebook

/-! ### Literals -/

/-- Something is true of every literal in an expression. -/
def Expr.ForLiterals (holds : Literal → Prop) (e : Expr) : Prop :=
  ∀ path v, e.at? path = some (.literal v) → holds v

/-- Something is true of every literal that is bound. -/
def Context.ForLiterals (holds : Literal → Prop) (context : Context) : Prop :=
  ∀ name bound, Members.get? context name = some bound → bound.ForLiterals holds

section Literals

variable {holds : Literal → Prop} {context : Context}

theorem Expr.forLiterals_literal {v : Literal} (h : holds v) : (literal v).ForLiterals holds := by
  intro path w hw
  cases path with
  | nil =>
      cases hw
      exact h
  | cons step path => cases hw

theorem Expr.ForLiterals.part {e sub : Expr} {step : Step} (h : e.ForLiterals holds)
    (mem : (step, sub) ∈ e.parts) : sub.ForLiterals holds := by
  intro path v hv
  exact h (step :: path) v ((at?_cons_of_mem_parts mem path).trans hv)

theorem Context.ForLiterals.put (h : Context.ForLiterals holds context) (name : String)
    {v : Literal} (hv : holds v) :
    Context.ForLiterals holds (Members.put context name (.literal v)) := by
  intro other bound hbound
  rw [Members.get?_put] at hbound
  split at hbound
  · cases hbound
    exact Expr.forLiterals_literal hv
  · exact h other bound hbound

/-- What an evaluation ends with shows a literal: as its value, or in its error. -/
def Shows (result : Except EvalError Literal) (v : Literal) : Prop :=
  result = .ok v ∨ ∃ error, result = .error error ∧ error.literal? = some v

theorem not_shows_error {error : EvalError} (h : error.literal? = none) (v : Literal) :
    ¬ Shows (.error error) v := by
  rintro (hvalue | ⟨_, herror, hshown⟩)
  · cases hvalue
  · cases herror
    cases h.symm.trans hshown

/-- What is true of all literals in an expression, and in the bindings of names closed
under what these refer to, is true of the literal that a reduction ends with. -/
theorem reduce_shows_of_reach {reach : String → Prop}
    (hclosed : ∀ name bound, reach name → Members.get? context name = some bound →
      bound.ForLiterals holds ∧ ∀ other ∈ bound.references, reach other)
    {limit : Int} {levels : Nat} {site : Site Origin} {resolving : List String} {e : Expr}
    (he : e.ForLiterals holds) (hreach : ∀ name ∈ e.references, reach name)
    {result : Except EvalError Literal}
    (hrun : (reduce context limit levels site resolving e).outcome = result) {v : Literal}
    (h : Shows result v) : holds v := by
  induction levels generalizing site resolving e result v with
  | zero =>
      cases hrun
      exact absurd h (not_shows_error rfl v)
  | succ levels ih =>
      have hparts : ∀ {step sub result v}, (step, sub) ∈ e.parts →
          (reduce context limit levels (site.child step) resolving sub).outcome = result →
            Shows result v → holds v := fun mem hpart hshows =>
        ih (he.part mem) (fun name hname => hreach name (Expr.references_of_mem_parts mem hname))
          hpart hshows
      rcases reduceLevel_ends hrun with ⟨value, rfl, rfl⟩ | ⟨name, rfl, hname⟩ |
        ⟨step, sub, hselects, hpart⟩ | ⟨error, _, rfl, hshown⟩
      · rcases h with hvalue | ⟨_, herror, _⟩
        · cases hvalue
          exact he [] _ rfl
        · cases herror
      · split at hname
        · cases hname
          exact absurd h (not_shows_error rfl v)
        · unfold followBinding at hname
          split at hname
          · cases hname
            exact absurd h (not_shows_error rfl v)
          · next bound hbound =>
              obtain ⟨hliterals, hrefers⟩ :=
                hclosed name bound (hreach name (by simp [Expr.references])) hbound
              exact ih hliterals hrefers hname h
      · exact hparts hselects.mem_parts hpart h
      · rcases h with hvalue | ⟨_, herror, hliteral⟩
        · cases hvalue
        · cases herror
          obtain ⟨step, sub, hselects, hpart⟩ := hshown v hliteral
          exact hparts hselects.mem_parts hpart (.inl rfl)

/-- A name that is missing is one of the names closed under what bindings refer to. -/
theorem reduce_unbound_of_reach {reach : String → Prop}
    (hclosed : ∀ name bound, reach name → Members.get? context name = some bound →
      ∀ other ∈ bound.references, reach other)
    {limit : Int} {levels : Nat} {site : Site Origin} {resolving : List String} {e : Expr}
    (hreach : ∀ name ∈ e.references, reach name) {missing : String}
    (hrun : (reduce context limit levels site resolving e).outcome = .error (.unbound missing)) :
    reach missing ∧ Members.get? context missing = none := by
  induction levels generalizing site resolving e with
  | zero => cases hrun
  | succ levels ih =>
      rcases reduceLevel_error hrun with hbranch | ⟨name, rfl, hname⟩ | ⟨step, sub, mem, hpart⟩
      · cases hbranch
      · have hname' := hreach name (by simp [Expr.references])
        split at hname
        · cases hname
        · unfold followBinding at hname
          split at hname
          · next hnone =>
              cases hname
              exact ⟨hname', hnone⟩
          · next bound hbound => exact ih (hclosed name bound hname' hbound) hname
      · exact ih (fun name hname => hreach name (Expr.references_of_mem_parts mem hname)) hpart

theorem evaluate_ok_of_literals (hcontext : Context.ForLiterals holds context) {maxDepth : Int}
    {e : Expr} (he : e.ForLiterals holds) {value : Literal}
    (h : (evaluate context maxDepth e).outcome = .ok value) : holds value :=
  reduce_shows_of_reach (fun name bound _ hbound =>
    ⟨hcontext name bound hbound, fun _ _ => trivial⟩)
    he (fun _ _ => trivial) h (.inl rfl)

end Literals

/-- A literal stands in an expression, or in the binding of a name within its reach. -/
def Stands (context : Context) (e : Expr) (v : Literal) : Prop :=
  (∃ path, e.at? path = some (.literal v)) ∨
    ∃ name bound path, Reaches context e name ∧ Members.get? context name = some bound ∧
      bound.at? path = some (.literal v)

section Reach

variable {context : Context} {maxDepth : Int} {e : Expr}

/-- The literal that an evaluation ends with was there before. -/
theorem stands_of_evaluate {result : Except EvalError Literal}
    (hrun : (evaluate context maxDepth e).outcome = result) {v : Literal} (h : Shows result v) :
    Stands context e v := by
  have hclosed : ∀ name bound, Reaches context e name → Members.get? context name = some bound →
      bound.ForLiterals (Stands context e) ∧
        ∀ other ∈ bound.references, Reaches context e other := by
    intro name bound hreach hbound
    refine ⟨fun path v hv => .inr ⟨name, bound, path, hreach, hbound, hv⟩, ?_⟩
    exact fun other mem => hreach.binding hbound mem
  exact reduce_shows_of_reach hclosed (fun path v hv => .inl ⟨path, hv⟩)
    (fun _ mem => .reference mem) hrun h

/-- A name that an evaluation misses is within reach and not bound. -/
theorem unbound_of_evaluate {name : String}
    (hrun : (evaluate context maxDepth e).outcome = .error (.unbound name)) :
    Reaches context e name ∧ Members.get? context name = none :=
  reduce_unbound_of_reach (fun _ _ hreach hbound _ mem => hreach.binding hbound mem)
    (fun _ mem => .reference mem) hrun

end Reach

/-! ### Scopes -/

namespace Scope

section Calculations

variable {holds : Literal → Prop} {maxDepth : Int}

/-- The context that calculations leave behind binds each name as it was bound, or to a
literal of the kind. -/
theorem runCalculations_ok_of_literals {context : Context}
    (hcontext : Context.ForLiterals holds context) {calculations : List (String × Expr)}
    (hcalculations : ∀ calculation ∈ calculations, calculation.2.ForLiterals holds)
    {final : Context} (h : (runCalculations maxDepth context calculations).outcome = .ok final) :
    Context.ForLiterals holds final ∧ Working context final := by
  induction calculations generalizing context with
  | nil =>
      cases h
      exact ⟨hcontext, .start _⟩
  | cons calculation rest ih =>
      obtain ⟨name, e⟩ := calculation
      obtain ⟨he, hrest⟩ := List.forall_mem_cons.mp hcalculations
      obtain ⟨value, hvalue, h⟩ := runCalculations_cons_ok.mp h
      have hholds := Rulebook.evaluate_ok_of_literals hcontext he hvalue
      obtain ⟨hfinal, hworking⟩ := ih (hcontext.put name hholds) hrest h
      refine ⟨hfinal, fun other bound hbound => ?_⟩
      rcases hworking other bound hbound with hput | hliteral
      · exact (Working.start _).put name value other bound hput
      · exact .inr hliteral

/-- What a scope publishes is bound by the caller, or a literal of the kind. -/
theorem evaluate_ok_of_literals {context : Context} (hcontext : Context.ForLiterals holds context)
    {scope : Scope}
    (hscope : ∀ calculation ∈ scope.calculations, calculation.2.ForLiterals holds)
    {results : List (String × Expr)}
    (h : (scope.evaluate context maxDepth).outcome = .ok results) {name : String} {e : Expr}
    (mem : (name, e) ∈ results) :
    Members.get? context name = some e ∨ ∃ value, e = .literal value ∧ holds value := by
  obtain ⟨_, final, hfinal, rfl⟩ := evaluate_ok h
  obtain ⟨hholds, hworking⟩ := runCalculations_ok_of_literals hcontext hscope hfinal
  have hbound := mem_publish mem
  rcases hworking name e hbound with hcaller | ⟨value, rfl⟩
  · exact .inl hcaller
  · exact .inr ⟨value, rfl, hholds name _ hbound [] value rfl⟩

end Calculations

end Scope

end Rulebook
