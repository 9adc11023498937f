import Rulebook.Proofs.Equality
import Rulebook.Proofs.Run

/-!
Two expressions of one form, reduced side by side.

A relation between runs that speaks of how the values are related (`Run.Simulation`)
holds between the reductions of two expressions of one form, if it holds between those of
their parts (`Simulation.reduceLevel`). Their values are alike then, not identical: equal
zeros may differ in sign. This is the counterpart of `Run.Congruence`, where the
expression is the same on both sides and so are the values.
-/

namespace Rulebook

/-- The same error, with a literal in it that is alike. -/
inductive EvalError.Alike : EvalError → EvalError → Prop where
  | refl (error : EvalError) : Alike error error
  | notBoolean (condition : Condition) {v w : Literal} : v.Alike w →
      Alike (.notBoolean condition v) (.notBoolean condition w)
  | noCaseMatched {v w : Literal} : v.Alike w → Alike (.noCaseMatched v) (.noCaseMatched w)

namespace Run

/-- A relation between runs, given how their values are related, that holds of related
endings and that going on keeps. -/
structure Simulation (R : (α : Type) → (α → α → Prop) → EvalRun α → EvalRun α → Prop) :
    Prop where
  done : ∀ {α : Type} {rel : α → α → Prop} {value value' : α}, rel value value' →
    R α rel (.done value) (.done value')
  fail : ∀ {α : Type} {rel : α → α → Prop} {error error' : EvalError}, error.Alike error' →
    R α rel (.fail error) (.fail error')
  bind : ∀ {α β : Type} {rel : α → α → Prop} {rel' : β → β → Prop} {run run' : EvalRun α}
    {next next' : α → EvalRun β}, R α rel run run' →
    (∀ value value', rel value value' → R β rel' (next value) (next' value')) →
      R β rel' (run >>= next) (run' >>= next')

namespace Simulation

variable {R : (α : Type) → (α → α → Prop) → EvalRun α → EvalRun α → Prop}
  {related : Expr → Expr → Prop} {part part' : Step → Expr → EvalRun Literal}
  {site site' : Site Origin}

/-- Literals that are alike are the same truth value, or none. -/
theorem asBool (hR : Simulation R) (condition : Condition) {v w : Literal} (h : v.Alike w) :
    R Bool Eq (asBool condition v) (asBool condition w) := by
  rcases h.eq_or_zero with rfl | ⟨negative, negative', rfl, rfl⟩
  · cases v with
    | bool b => exact hR.done rfl
    | string s => exact hR.fail (.refl _)
    | number x => exact hR.fail (.refl _)
  · exact hR.fail (.notBoolean condition h)

theorem takeArm (hR : Simulation R)
    (hsite : ∀ arm, R Unit Eq (Run.record ⟨site, arm⟩) (Run.record ⟨site', arm⟩)) {arm : Arm}
    {result result' : Expr}
    (h : R Literal Literal.Alike (part arm.step result) (part' arm.step result')) :
    R Literal Literal.Alike (takeArm part site arm result) (takeArm part' site' arm result') :=
  hR.bind (hsite arm) fun _ _ _ => h

variable (hR : Simulation R)
  (hsite : ∀ arm, R Unit Eq (Run.record ⟨site, arm⟩) (Run.record ⟨site', arm⟩))
  (hpart : ∀ step sub sub', related sub sub' →
    R Literal Literal.Alike (part step sub) (part' step sub'))
include hR hsite hpart

theorem reduceRules {rules rules' : List (Expr × Expr)} {otherwise otherwise' : Option Expr}
    (hrules : List.Forall₂ (fun rule rule' => related rule.1 rule'.1 ∧ related rule.2 rule'.2)
      rules rules')
    (hotherwise : Option.Rel related otherwise otherwise') (index : Nat) :
    R Literal Literal.Alike (reduceRules part site index rules otherwise)
      (reduceRules part' site' index rules' otherwise') := by
  induction hrules generalizing index with
  | nil =>
      cases hotherwise with
      | none => exact hR.fail (.refl _)
      | some h => exact hR.takeArm hsite (hpart _ _ _ h)
  | cons hrule _ ih =>
      obtain ⟨hcondition, hresult⟩ := hrule
      refine hR.bind (hpart _ _ _ hcondition) fun value value' hvalue => ?_
      refine hR.bind (hR.asBool _ hvalue) ?_
      rintro holds _ rfl
      cases holds with
      | true => exact hR.takeArm hsite (hpart _ _ _ hresult)
      | false => exact ih (index + 1)

theorem reduceCases {cases cases' : List (Expr × Expr)} {otherwise otherwise' : Option Expr}
    (hcases : List.Forall₂ (fun case case' => related case.1 case'.1 ∧ related case.2 case'.2)
      cases cases')
    (hotherwise : Option.Rel related otherwise otherwise') {value value' : Literal}
    (hvalue : value.Alike value') (index : Nat) :
    R Literal Literal.Alike (reduceCases part site value index cases otherwise)
      (reduceCases part' site' value' index cases' otherwise') := by
  induction hcases generalizing index with
  | nil =>
      cases hotherwise with
      | none => exact hR.fail (.noCaseMatched hvalue)
      | some h => exact hR.takeArm hsite (hpart _ _ _ h)
  | cons hcase _ ih =>
      obtain ⟨hkey, hresult⟩ := hcase
      refine hR.bind (hpart _ _ _ hkey) fun candidate candidate' hcandidate => ?_
      rw [hcandidate.same_eq hvalue]
      split
      · exact hR.takeArm hsite (hpart _ _ _ hresult)
      · exact ih (index + 1)

/-- A relation that holds between the reductions of related parts, or of the name, holds
between the reductions of the whole. -/
theorem reduceLevel {resolve resolve' : String → EvalRun Literal} {e e' : Expr}
    (h : e.SameForm related e')
    (hname : ∀ name, e = .reference name →
      R Literal Literal.Alike (resolve name) (resolve' name)) :
    R Literal Literal.Alike (reduceLevel part resolve site e)
      (reduceLevel part' resolve' site' e') := by
  cases h with
  | literal h => exact hR.done h
  | reference name => exact hname name rfl
  | ifThenElse hcondition hthen helse =>
      refine hR.bind (hpart _ _ _ hcondition) fun value value' hvalue => ?_
      refine hR.bind (hR.asBool _ hvalue) ?_
      rintro holds _ rfl
      cases holds with
      | true => exact hR.takeArm hsite (hpart _ _ _ hthen)
      | false => exact hR.takeArm hsite (hpart _ _ _ helse)
  | ruleChain hrules hotherwise =>
      exact hR.reduceRules hsite hpart hrules hotherwise 0
  | finiteBranch hsubject hcases hotherwise =>
      refine hR.bind (hpart _ _ _ hsubject) fun value value' hvalue => ?_
      exact hR.reduceCases hsite hpart hcases hotherwise hvalue 0

end Simulation

end Run

end Rulebook
