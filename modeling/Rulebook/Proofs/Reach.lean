import Rulebook.Proofs.Parts
import Rulebook.Proofs.Run

/-!
Evaluation depends only on the names it can reach.

`Reaches` follows the references of an expression, and those of what these names are
bound to, whether or not an evaluation comes there. No part of an expression and no
binding on the way refers to anything else (`reduce_congr_of_closed`), so two contexts
that agree on these names give the same run. A context that binds more names gives the
same run as well, unless a name was missing (`reduce_upTo_of_extends`).
-/

namespace Rulebook

/-- A name that an expression refers to, or that the binding of such a name refers to,
and so on. -/
inductive Reaches (context : Context) (e : Expr) : String → Prop where
  | reference {name : String} : name ∈ e.references → Reaches context e name
  | binding {name other : String} {bound : Expr} : Reaches context e name →
      Members.get? context name = some bound → other ∈ bound.references →
      Reaches context e other

/-- The names within reach are the fewest that hold the references of the expression and,
with a name, those of its binding. -/
theorem Reaches.of_closed {context : Context} {e : Expr} (holds : String → Prop)
    (he : ∀ name ∈ e.references, holds name)
    (hclosed : ∀ name bound, holds name → Members.get? context name = some bound →
      ∀ other ∈ bound.references, holds other)
    {name : String} (h : Reaches context e name) : holds name := by
  induction h with
  | reference mem => exact he _ mem
  | binding _ hbound mem ih => exact hclosed _ _ ih hbound _ mem

/-- A name is not bound. -/
def EvalError.IsUnbound (error : EvalError) : Prop := ∃ name, error = .unbound name

section Reduction

variable {context context' : Context} {limit : Int}

/-- Two contexts that agree on names closed under what their bindings refer to
reduce every expression over these names alike. -/
theorem reduce_congr_of_closed {reach : String → Prop}
    (hagree : ∀ name, reach name → Members.get? context name = Members.get? context' name)
    (hclosed : ∀ name bound, reach name → Members.get? context name = some bound →
      ∀ other ∈ bound.references, reach other)
    (levels : Nat) (site : Site Origin) (resolving : List String) (e : Expr)
    (he : ∀ name ∈ e.references, reach name) :
    reduce context limit levels site resolving e =
      reduce context' limit levels site resolving e := by
  have hR := Run.congruence_upTo fun _ => False
  suffices h : Run.UpTo (fun _ => False) Literal (reduce context limit levels site resolving e)
      (reduce context' limit levels site resolving e) by
    exact h.eq_of_not_stop fun _ _ hfalse => hfalse
  induction levels generalizing site resolving e with
  | zero => exact hR.refl _
  | succ levels ih =>
      refine hR.reduceLevel (fun _ => hR.refl _)
        (fun step sub mem => ih _ _ _ fun name hname =>
          he name (Expr.references_of_mem_parts mem hname)) fun name heq => ?_
      subst heq
      have hreach := he name (by simp [Expr.references])
      split
      · exact hR.refl _
      · exact hR.followBinding (hagree name hreach) fun bound hbound =>
          ih _ _ bound (hclosed name bound hreach hbound)

/-- More bindings do not change a run, unless it ends at a name without a binding. -/
theorem reduce_upTo_of_extends
    (hextends : ∀ name bound, Members.get? context name = some bound →
      Members.get? context' name = some bound)
    (levels : Nat) (site : Site Origin) (resolving : List String) (e : Expr) :
    Run.UpTo EvalError.IsUnbound Literal (reduce context limit levels site resolving e)
      (reduce context' limit levels site resolving e) := by
  have hR := Run.congruence_upTo EvalError.IsUnbound
  induction levels generalizing site resolving e with
  | zero => exact hR.refl _
  | succ levels ih =>
      refine hR.reduceLevel (fun _ => hR.refl _) (fun step sub _ => ih _ _ _) fun name _ => ?_
      split
      · exact hR.refl _
      · cases hbound : Members.get? context name with
        | none =>
            rw [followBinding_of_none hbound]
            exact .inr ⟨List.nil_prefix, _, ⟨name, rfl⟩, rfl⟩
        | some bound =>
            rw [followBinding_of_some hbound, followBinding_of_some (hextends name bound hbound)]
            exact ih _ _ _

end Reduction

section Evaluation

variable {context context' : Context}

theorem evaluate_congr_of_reaches {e : Expr}
    (hagree : ∀ name, Reaches context e name →
      Members.get? context name = Members.get? context' name) (maxDepth : Int) :
    evaluate context maxDepth e = evaluate context' maxDepth e :=
  reduce_congr_of_closed hagree (fun _ _ hreach hbound _ mem => hreach.binding hbound mem) _ _ _ e
    fun _ mem => .reference mem

/-- **Evaluation depends only on the names it can reach.** Two contexts that bind every
name within reach alike, or not at all, give the same run under every limit: the same
value or error and the same decisions. A context that binds more names gives the same
run too, unless a name was missing. -/
theorem evaluation_determined_by_reach (context context' : Context) (e : Expr) :
    ((∀ name, Reaches context e name →
        Members.get? context name = Members.get? context' name) →
      ∀ maxDepth, evaluate context maxDepth e = evaluate context' maxDepth e) ∧
    ((∀ name bound, Members.get? context name = some bound →
        Members.get? context' name = some bound) →
      ∀ maxDepth, (∀ name, (evaluate context maxDepth e).outcome ≠ .error (.unbound name)) →
        evaluate context' maxDepth e = evaluate context maxDepth e) := by
  constructor
  · intro hagree maxDepth
    exact evaluate_congr_of_reaches hagree maxDepth
  · intro hextends maxDepth hbound
    have hrun : Run.UpTo EvalError.IsUnbound Literal (evaluate context maxDepth e)
        (evaluate context' maxDepth e) :=
      reduce_upTo_of_extends hextends _ _ _ e
    refine (hrun.eq_of_not_stop ?_).symm
    rintro _ herror ⟨name, rfl⟩
    exact hbound name herror

/-- A name that leads back to itself in an arm not taken, the flag that decides so, and
entries that it does not reach. -/
def switchedContext (others : Context) : Context :=
  ("start", .ifThenElse (.reference "flag") (.literal (.string "on")) (.reference "start")) ::
    ("flag", .literal (.bool true)) :: others

/-- Entries beside the two names of `switchedContext` are out of reach, and without them
nothing is missing. -/
theorem switched_evaluated_alike :
    (evaluate (switchedContext []) 3 (.reference "start")).outcome = .ok (.string "on") ∧
    (∀ others others' maxDepth,
      evaluate (switchedContext others) maxDepth (.reference "start") =
        evaluate (switchedContext others') maxDepth (.reference "start")) ∧
    evaluate (switchedContext [("other", .reference "start")]) 3 (.reference "start") =
      evaluate (switchedContext []) 3 (.reference "start") := by
  have hreach : ∀ others name, Reaches (switchedContext others) (.reference "start") name →
      name = "start" ∨ name = "flag" := by
    intro others name h
    refine h.of_closed (fun name => name = "start" ∨ name = "flag") (by simp [Expr.references]) ?_
    rintro name bound (rfl | rfl) hbound other mem
    · cases hbound
      simpa [Expr.references, or_comm] using mem
    · cases hbound
      simp [Expr.references] at mem
  have hrun : (evaluate (switchedContext []) 3 (.reference "start")).outcome =
      .ok (.string "on") := rfl
  refine ⟨hrun, ?_, ?_⟩
  · intro others others' maxDepth
    refine (evaluation_determined_by_reach _ _ _).1 ?_ maxDepth
    intro name h
    rcases hreach others name h with rfl | rfl
    · rfl
    · rfl
  · refine (evaluation_determined_by_reach _ _ _).2 ?_ 3 fun name => by simp [hrun]
    intro name bound h
    simp only [switchedContext, Members.get?] at h ⊢
    split at h
    · rwa [if_pos ‹_›]
    · split at h
      · rwa [if_neg ‹_›, if_pos ‹_›]
      · cases h

end Evaluation

end Rulebook
