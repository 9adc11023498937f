import Rulebook.Proofs.CycleGuard
import Rulebook.Proofs.Simulation

/-!
Referential transparency.

In the hole of an expression every other expression of an equal value can stand
(`Surroundings.returnsAlike_fill`), and in a context the value of a name can stand for
what it is bound to (`reducePlain_put_value`). Both are shown of plain evaluation, which
returns the same values as guarded evaluation and knows of no names that are being
resolved: whatever a replacement refers to, it returns its value on enough levels.
-/

namespace Rulebook

namespace Expr

/-! ### Expressions with a hole -/

/-- A list of pairs with one part of one of them left open. -/
inductive PairOpening where
  | first (before : List (Expr × Expr)) (second : Expr) (after : List (Expr × Expr))
  | second (before : List (Expr × Expr)) (first : Expr) (after : List (Expr × Expr))

/-- A branch with one of its parts left open. -/
inductive Opening where
  | condition (thenArm elseArm : Expr)
  | thenArm (condition elseArm : Expr)
  | elseArm (condition thenArm : Expr)
  | rule (rules : PairOpening) (otherwise : Option Expr)
  | ruleOtherwise (rules : List (Expr × Expr))
  | subject (cases : List (Expr × Expr)) (otherwise : Option Expr)
  | case (subject : Expr) (cases : PairOpening) (otherwise : Option Expr)
  | caseOtherwise (subject : Expr) (cases : List (Expr × Expr))

/-- An expression with one hole: the branches around it, outermost first. -/
abbrev Surroundings := List Opening

/-- The pairs with an expression in the open part. -/
def PairOpening.fill : PairOpening → Expr → List (Expr × Expr)
  | .first before b after, e => before ++ (e, b) :: after
  | .second before a after, e => before ++ (a, e) :: after

/-- The branch with an expression in the open part. -/
def Opening.fill : Opening → Expr → Expr
  | .condition t f, e => .ifThenElse e t f
  | .thenArm c f, e => .ifThenElse c e f
  | .elseArm c t, e => .ifThenElse c t e
  | .rule rules o, e => .ruleChain (rules.fill e) o
  | .ruleOtherwise rules, e => .ruleChain rules (some e)
  | .subject cases o, e => .finiteBranch e cases o
  | .case s cases o, e => .finiteBranch s (cases.fill e) o
  | .caseOtherwise s cases, e => .finiteBranch s cases (some e)

/-- The expression with another one in its hole. -/
def Surroundings.fill (surroundings : Surroundings) (e : Expr) : Expr :=
  surroundings.foldr Opening.fill e

section Filling

variable {related : Expr → Expr → Prop} (hrefl : ∀ e, related e e)
include hrefl

theorem forall₂_pairs_refl (pairs : List (Expr × Expr)) :
    List.Forall₂ (fun pair pair' => related pair.1 pair'.1 ∧ related pair.2 pair'.2)
      pairs pairs :=
  List.forall₂_same.mpr fun pair _ => ⟨hrefl pair.1, hrefl pair.2⟩

theorem rel_fallback_refl (otherwise : Option Expr) :
    Option.Rel related otherwise otherwise :=
  rel_fallback_self_iff.mpr fun e _ => hrefl e

variable {e e' : Expr} (h : related e e')
include h

theorem PairOpening.forall₂_fill (pairs : PairOpening) :
    List.Forall₂ (fun pair pair' => related pair.1 pair'.1 ∧ related pair.2 pair'.2)
      (pairs.fill e) (pairs.fill e') := by
  cases pairs with
  | first before b after =>
      exact List.rel_append (forall₂_pairs_refl hrefl before)
        (.cons ⟨h, hrefl b⟩ (forall₂_pairs_refl hrefl after))
  | second before a after =>
      exact List.rel_append (forall₂_pairs_refl hrefl before)
        (.cons ⟨hrefl a, h⟩ (forall₂_pairs_refl hrefl after))

/-- Related expressions in the open part make branches of one form. -/
theorem Opening.sameForm_fill (opening : Opening) :
    (opening.fill e).SameForm related (opening.fill e') := by
  have hpairs := forall₂_pairs_refl hrefl
  have hfallback := rel_fallback_refl hrefl
  cases opening with
  | condition t f => exact .ifThenElse h (hrefl t) (hrefl f)
  | thenArm c f => exact .ifThenElse (hrefl c) h (hrefl f)
  | elseArm c t => exact .ifThenElse (hrefl c) (hrefl t) h
  | rule rules o => exact .ruleChain (rules.forall₂_fill hrefl h) (hfallback o)
  | ruleOtherwise rules => exact .ruleChain (hpairs rules) (.some h)
  | subject cases o => exact .finiteBranch h (hpairs cases) (hfallback o)
  | case s cases o => exact .finiteBranch (hrefl s) (cases.forall₂_fill hrefl h) (hfallback o)
  | caseOtherwise s cases => exact .finiteBranch (hrefl s) (hpairs cases) (.some h)

end Filling

end Expr

/-! ### Equal values in a hole -/

/-- If the first run returns a value, the second one returns a related one. -/
def Run.Returns (α : Type) (rel : α → α → Prop) (run run' : EvalRun α) : Prop :=
  ∀ value, run.outcome = .ok value → ∃ value', run'.outcome = .ok value' ∧ rel value value'

theorem Run.simulation_returns : Run.Simulation Run.Returns where
  done h := by
    rintro _ ⟨⟩
    exact ⟨_, rfl, h⟩
  fail _ := by
    rintro _ ⟨⟩
  bind hrun hnext := by
    intro result h
    obtain ⟨value, hvalue, hresult⟩ := Run.bind_outcome_ok_iff.mp h
    obtain ⟨value', hvalue', hrel⟩ := hrun value hvalue
    obtain ⟨result', hresult', hrel'⟩ := hnext value value' hrel result hresult
    exact ⟨result', Run.bind_outcome_ok_iff.mpr ⟨value', hvalue', hresult'⟩, hrel'⟩

/-- Where plain evaluation returns a value of the first expression, it returns a literal
alike of the second one, on so many more levels. -/
def ReturnsAlike (context : Context) (extra : Nat) (e e' : Expr) : Prop :=
  ∀ limit limit' levels site, Run.Returns Literal Literal.Alike
    (reducePlain context limit levels site e) (reducePlain context limit' (levels + extra) site e')

section Replacement

variable {context : Context} {extra : Nat}

theorem ReturnsAlike.refl (context : Context) (extra : Nat) (e : Expr) :
    ReturnsAlike context extra e e := by
  intro limit limit' levels site value h
  exact ⟨value, reducePlain_ok_of_le (Nat.le_add_right _ _) h, .refl value⟩

/-- Two expressions that return equal values can stand for each other. -/
theorem ReturnsAlike.of_values {s s' : Expr} {maxDepth maxDepth' : Int} {value value' : Literal}
    (h : (evaluatePlain context maxDepth s).outcome = .ok value)
    (h' : (evaluatePlain context maxDepth' s').outcome = .ok value')
    (hsame : value.same value' = true) :
    ReturnsAlike context (maxDepth' + 1).toNat s s' := by
  intro limit limit' levels site other hother
  have heq : value = other := reducePlain_ok_unique h hother
  exact ⟨value', reducePlain_ok_of_le (Nat.le_add_left _ _) h', heq ▸ .inr hsame⟩

/-- Expressions of one form return values alike if their parts do. -/
theorem ReturnsAlike.of_sameForm {e e' : Expr} (h : e.SameForm (ReturnsAlike context extra) e') :
    ReturnsAlike context extra e e' := by
  intro limit limit' levels site
  cases levels with
  | zero => rintro _ ⟨⟩
  | succ levels =>
      rw [Nat.add_right_comm]
      have hsite : ∀ arm, Run.Returns Unit Eq (Run.record ⟨site, arm⟩) (Run.record ⟨site, arm⟩) :=
        fun _ value hvalue => ⟨value, hvalue, rfl⟩
      refine Run.simulation_returns.reduceLevel hsite
        (fun step sub sub' hsub => hsub limit limit' levels (site.child step)) h fun name _ => ?_
      have hname := ReturnsAlike.refl context extra (.reference name) limit limit' (levels + 1) site
      rw [Nat.add_right_comm] at hname
      exact hname

/-- What can stand for an expression can do so in every hole. -/
theorem Expr.Surroundings.returnsAlike_fill {s s' : Expr} (h : ReturnsAlike context extra s s')
    (surroundings : Surroundings) :
    ReturnsAlike context extra (surroundings.fill s) (surroundings.fill s') := by
  induction surroundings with
  | nil => exact h
  | cons opening rest ih =>
      exact .of_sameForm (opening.sameForm_fill (ReturnsAlike.refl context extra) ih)

/-- With an expression of an equal value in its hole, an expression returns an equal value
from some limit on. -/
theorem evaluate_fill {s s' : Expr} (h : ReturnsAlike context extra s s')
    (surroundings : Expr.Surroundings) {maxDepth : Int} {result : Literal}
    (hrun : (evaluate context maxDepth (surroundings.fill s)).outcome = .ok result) :
    ∃ result', result.Alike result' ∧ ∃ least : Int, ∀ maxDepth' ≥ least,
      (evaluate context maxDepth' (surroundings.fill s')).outcome = .ok result' := by
  have hplain := evaluate_ok_iff_evaluatePlain.mp hrun
  obtain ⟨result', hresult', halike⟩ := surroundings.returnsAlike_fill h _ 0 _ _ result hplain
  refine ⟨result', halike, ((maxDepth + 1).toNat + extra : Nat), ?_⟩
  intro maxDepth' hle
  exact evaluate_ok_iff_evaluatePlain.mpr (reducePlain_ok_of_le (by omega) hresult')

end Replacement

/-! ### The value of a name -/

/-- A name takes a level for itself and one for what it is bound to. -/
theorem two_le_of_reducePlain_reference_ok {context : Context} {limit : Int} {levels : Nat}
    {site : Site Origin} {name : String} {value : Literal}
    (h : (reducePlain context limit levels site (.reference name)).outcome = .ok value) :
    2 ≤ levels := by
  match levels with
  | 0 => cases h
  | 1 =>
      change (followBinding context (reducePlain context limit 0 _) name).outcome = _ at h
      unfold followBinding at h
      split at h
      · cases h
      · cases h
  | levels + 2 => exact Nat.le_add_left 2 levels

/-- In the context that binds a name to the value it resolves to, plain evaluation returns
the same values. -/
theorem reducePlain_put_value {context : Context} {name : String} {value : Literal}
    (hname : ∀ limit levels site other,
      (reducePlain context limit levels site (.reference name)).outcome = .ok other →
        other = value)
    (limit : Int) (levels : Nat) (site : Site Origin) (e : Expr) :
    Run.AgreeUnless (fun _ => True) (fun _ => False) Literal
      (reducePlain context limit levels site e)
      (reducePlain (Members.put context name (.literal value)) limit levels site e) := by
  have hR := Run.congruence_agreeUnless (fun _ => True) (fun _ => False)
  induction levels generalizing site e with
  | zero => exact .inl ⟨_, trivial, rfl⟩
  | succ levels ih =>
      refine hR.reduceLevel (fun _ => hR.refl _) (fun step sub _ => ih (site.child step) sub)
        fun other _ => ?_
      have hput := Members.get?_put context name other (.literal value)
      by_cases heq : name = other
      · subst heq
        rw [if_pos rfl] at hput
        cases hrun : (reducePlain context limit (levels + 1) site (.reference name)).outcome with
        | error error => exact .inl ⟨error, trivial, hrun⟩
        | ok result =>
            have hresult := hname limit (levels + 1) site result hrun
            have hlevels := two_le_of_reducePlain_reference_ok hrun
            obtain ⟨levels, rfl⟩ : ∃ n, levels = n + 1 := ⟨levels - 1, by omega⟩
            refine .inr (.inr (hrun.trans ?_))
            rw [hresult, followBinding, hput]
            rfl
      · rw [if_neg heq] at hput
        exact hR.followBinding hput.symm fun bound _ => ih _ bound

theorem evaluate_put_value {context : Context} {name : String} {maxDepth : Int}
    {value : Literal} (hname : (evaluate context maxDepth (.reference name)).outcome = .ok value)
    {e : Expr} {maxDepth' : Int} {result : Literal}
    (hrun : (evaluate context maxDepth' e).outcome = .ok result) :
    (evaluate (Members.put context name (.literal value)) maxDepth' e).outcome = .ok result := by
  have hplain := evaluate_ok_iff_evaluatePlain.mp hrun
  have hvalue := evaluate_ok_iff_evaluatePlain.mp hname
  rcases reducePlain_put_value (fun _ _ _ _ hother => reducePlain_ok_unique hother hvalue)
    maxDepth' (maxDepth' + 1).toNat ⟨.subject, []⟩ e with
    ⟨error, _, herror⟩ | ⟨_, hfalse, _⟩ | heq
  · cases hplain.symm.trans herror
  · exact hfalse.elim
  · exact evaluate_ok_iff_evaluatePlain.mpr (heq.symm.trans hplain)

/-- **Referential transparency.** If two expressions have equal values in a context, then
an expression around the first one that has a value has an equal value around the second
one, from some limit on. And binding a name to its value changes no value of any
expression, under the same limit. -/
theorem referential_transparency (context : Context) :
    (∀ (surroundings : Expr.Surroundings) (s s' : Expr) (maxDepth maxDepth' : Int)
      (value value' : Literal),
      (evaluate context maxDepth s).outcome = .ok value →
      (evaluate context maxDepth' s').outcome = .ok value' → value.same value' = true →
      ∀ limit result, (evaluate context limit (surroundings.fill s)).outcome = .ok result →
        result ≠ .number .nan →
        ∃ result', result.same result' = true ∧ ∃ least : Int, ∀ limit' ≥ least,
          (evaluate context limit' (surroundings.fill s')).outcome = .ok result') ∧
    (∀ (name : String) (maxDepth : Int) (value : Literal),
      (evaluate context maxDepth (.reference name)).outcome = .ok value →
      ∀ e limit result, (evaluate context limit e).outcome = .ok result →
        (evaluate (Members.put context name (.literal value)) limit e).outcome = .ok result) := by
  constructor
  · intro surroundings s s' maxDepth maxDepth' value value' hs hs' hsame limit result hrun hnan
    have hreturns : ReturnsAlike context (maxDepth' + 1).toNat s s' :=
      .of_values (evaluate_ok_iff_evaluatePlain.mp hs) (evaluate_ok_iff_evaluatePlain.mp hs') hsame
    obtain ⟨result', halike, hleast⟩ := evaluate_fill hreturns surroundings hrun
    exact ⟨result', halike.same hnan, hleast⟩
  · intro name maxDepth value hname e limit result hrun
    exact evaluate_put_value hname hrun

/-- What is due is the rest, and the rest is zero. -/
def paymentContext : Context :=
  [("due", .reference "rest"), ("rest", .literal (.number (.zero false)))]

/-- Whether something is due that is left open. -/
def paymentState : Expr.Surroundings :=
  [.subject [(.literal (.number (.zero false)), .literal (.string "paid"))]
    (some (.literal (.string "open")))]

/-- A payment has the same state with the other zero for what is due, and with the value of
what is due in its place. -/
theorem payment_replaced :
    (evaluate paymentContext 3 (paymentState.fill (.reference "due"))).outcome =
      .ok (.string "paid") ∧
    (∃ result', (Literal.string "paid").same result' = true ∧ ∃ least : Int, ∀ limit' ≥ least,
      (evaluate paymentContext limit'
        (paymentState.fill (.literal (.number (.zero true))))).outcome = .ok result') ∧
    (evaluate (Members.put paymentContext "due" (.literal (.number (.zero false)))) 3
      (paymentState.fill (.reference "due"))).outcome = .ok (.string "paid") := by
  have hdue : (evaluate paymentContext 3 (.reference "due")).outcome =
      .ok (.number (.zero false)) := rfl
  have hzero : (evaluate paymentContext 3 (.literal (.number (.zero true)))).outcome =
      .ok (.number (.zero true)) := rfl
  have hrun : (evaluate paymentContext 3 (paymentState.fill (.reference "due"))).outcome =
      .ok (.string "paid") := rfl
  obtain ⟨hhole, hname⟩ := referential_transparency paymentContext
  exact ⟨hrun, hhole paymentState _ _ 3 3 _ _ hdue hzero (by decide) 3 _ hrun nofun,
    hname "due" 3 _ hdue _ 3 _ hrun⟩

end Rulebook
