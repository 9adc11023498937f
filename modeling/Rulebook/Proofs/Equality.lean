import Mathlib.Data.List.Forall2
import Mathlib.Data.List.Sort
import Rulebook.Proofs.Parts
import Rulebook.Scope

/-!
Equality of literals, expressions and scopes.

Equal literals are the same one or two zeros, and what is not a number equals nothing,
itself included (`Literal.same_iff`). `Literal.Alike` holds of identical literals besides
equal ones, so that it is an equivalence without exception, and equality does not tell
alike literals apart (`Literal.Alike.same_eq`).

Equal expressions are of one form with equal parts (`Expr.SameForm`), and an expression
equals itself exactly if no place in it holds what is not a number
(`Expr.same_self_iff`). Equal scopes list equal calculations in the same order, and have
the same set of outputs (`Scope.same_iff`).
-/

namespace Rulebook

/-! ### Literals -/

/-- Equal numbers are the same one or two zeros. -/
theorem Number.same_iff {x y : Number} : x.same y = true ↔
    (x = y ∧ x ≠ .nan) ∨ ∃ negative negative', x = zero negative ∧ y = zero negative' := by
  cases x with
  | nan => simp [same, zero]
  | infinite negative => cases y <;> simp [same, zero]
  | finite negative rank =>
      cases y with
      | nan => simp [same, zero]
      | infinite negative' => simp [same, zero]
      | finite negative' rank' =>
          simp only [same, zero, Bool.and_eq_true, Bool.or_eq_true, beq_iff_eq, finite.injEq,
            Fin.ext_iff]
          constructor
          · rintro ⟨hrank, hsign | hzero⟩
            · exact .inl ⟨⟨hsign, hrank⟩, nofun⟩
            · exact .inr ⟨negative, negative', ⟨rfl, hzero⟩, rfl, hrank.symm.trans hzero⟩
          · rintro (⟨⟨hsign, hrank⟩, _⟩ | ⟨_, _, ⟨_, hzero⟩, _, hzero'⟩)
            · exact ⟨hrank, .inl hsign⟩
            · exact ⟨hzero.trans hzero'.symm, .inr hzero⟩

namespace Literal

variable {v w u : Literal}

/-- Equal literals are the same one or two zeros. -/
theorem same_iff : v.same w = true ↔ (v = w ∧ v ≠ .number .nan) ∨
    ∃ negative negative', v = .number (.zero negative) ∧ w = .number (.zero negative') := by
  cases v <;> cases w <;> simp [same, Number.same_iff]

theorem same_self_iff : v.same v = true ↔ v ≠ .number .nan := by
  rw [same_iff]
  constructor
  · rintro (⟨_, h⟩ | ⟨_, _, rfl, _⟩)
    · exact h
    · simp [Number.zero]
  · intro h
    exact .inl ⟨rfl, h⟩

theorem same_symm (h : v.same w = true) : w.same v = true := by
  rcases same_iff.mp h with ⟨rfl, _⟩ | ⟨_, _, rfl, rfl⟩
  · exact h
  · exact same_iff.mpr (.inr ⟨_, _, rfl, rfl⟩)

theorem same_trans (h : v.same w = true) (h' : w.same u = true) : v.same u = true := by
  rcases same_iff.mp h with ⟨rfl, _⟩ | ⟨_, _, rfl, rfl⟩
  · exact h'
  · rcases same_iff.mp h' with ⟨rfl, _⟩ | ⟨_, _, _, rfl⟩
    · exact h
    · exact same_iff.mpr (.inr ⟨_, _, rfl, rfl⟩)

/-- The same literal, or an equal one. -/
def Alike (v w : Literal) : Prop := v = w ∨ v.same w = true

theorem Alike.refl (v : Literal) : v.Alike v := .inl rfl

theorem Alike.symm (h : v.Alike w) : w.Alike v := by
  rcases h with rfl | h
  · exact .inl rfl
  · exact .inr (same_symm h)

theorem Alike.trans (h : v.Alike w) (h' : w.Alike u) : v.Alike u := by
  rcases h with rfl | h
  · exact h'
  · rcases h' with rfl | h'
    · exact .inr h
    · exact .inr (same_trans h h')

/-- Where a literal equals itself, those that are alike equal it. -/
theorem Alike.same (h : v.Alike w) (hv : v ≠ .number .nan) : v.same w = true := by
  rcases h with rfl | h
  · exact same_self_iff.mpr hv
  · exact h

theorem Alike.same_of_same {v' w' : Literal} (hv : v.Alike v') (hw : w.Alike w')
    (h : v.same w = true) : v'.same w' = true := by
  have hleft : v'.same w = true := by
    rcases hv with rfl | hv
    · exact h
    · exact same_trans (same_symm hv) h
  rcases hw with rfl | hw
  · exact hleft
  · exact same_trans hleft hw

/-- Equality does not tell alike literals apart. -/
theorem Alike.same_eq {v' w' : Literal} (hv : v.Alike v') (hw : w.Alike w') :
    v.same w = v'.same w' :=
  Bool.eq_iff_iff.mpr ⟨hv.same_of_same hw, hv.symm.same_of_same hw.symm⟩

/-- Only zeros are alike without being the same. -/
theorem Alike.eq_or_zero (h : v.Alike w) : v = w ∨
    ∃ negative negative', v = .number (.zero negative) ∧ w = .number (.zero negative') := by
  rcases h with rfl | h
  · exact .inl rfl
  · exact (same_iff.mp h).imp_left And.left

end Literal

/-! ### Expressions without NaN -/

namespace Expr

/-- No place in an expression holds what is not a number. -/
def NanFree (e : Expr) : Prop :=
  ∀ path, e.at? path ≠ some (.literal (.number .nan))

/-- An expression is free of NaN if it is not NaN itself and its direct parts are free
of it. -/
theorem nanFree_iff {e : Expr} :
    e.NanFree ↔ e ≠ .literal (.number .nan) ∧ ∀ part ∈ e.parts, part.2.NanFree := by
  constructor
  · intro h
    constructor
    · rintro rfl
      exact h [] rfl
    · intro part mem path hpath
      exact h (part.1 :: path) ((at?_cons_of_mem_parts mem path).trans hpath)
  · rintro ⟨hroot, hparts⟩ path hpath
    cases path with
    | nil => exact hroot (Option.some.inj hpath)
    | cons step path =>
        obtain ⟨sub, hpart, hsub⟩ := Option.bind_eq_some_iff.mp hpath
        exact hparts _ (part_eq_some_iff.mp hpart) path hsub

/-! ### Expressions of one form -/

/-- Expressions of one form: branches of the same kind whose parts are related one by
one, leaves that are alike. -/
inductive SameForm (related : Expr → Expr → Prop) : Expr → Expr → Prop where
  | literal {v w : Literal} : v.Alike w → SameForm related (.literal v) (.literal w)
  | reference (name : String) : SameForm related (.reference name) (.reference name)
  | ifThenElse {condition condition' thenArm thenArm' elseArm elseArm' : Expr} :
      related condition condition' → related thenArm thenArm' → related elseArm elseArm' →
      SameForm related (.ifThenElse condition thenArm elseArm)
        (.ifThenElse condition' thenArm' elseArm')
  | ruleChain {rules rules' : List (Expr × Expr)} {otherwise otherwise' : Option Expr} :
      List.Forall₂ (fun rule rule' => related rule.1 rule'.1 ∧ related rule.2 rule'.2)
        rules rules' →
      Option.Rel related otherwise otherwise' →
      SameForm related (.ruleChain rules otherwise) (.ruleChain rules' otherwise')
  | finiteBranch {subject subject' : Expr} {cases cases' : List (Expr × Expr)}
      {otherwise otherwise' : Option Expr} :
      related subject subject' →
      List.Forall₂ (fun case case' => related case.1 case'.1 ∧ related case.2 case'.2)
        cases cases' →
      Option.Rel related otherwise otherwise' →
      SameForm related (.finiteBranch subject cases otherwise)
        (.finiteBranch subject' cases' otherwise')

section SameForm

variable {related related' : Expr → Expr → Prop}

theorem forall₂_pairs_mono {pairs pairs' : List (Expr × Expr)}
    (h : List.Forall₂ (fun pair pair' => related pair.1 pair'.1 ∧ related pair.2 pair'.2)
      pairs pairs')
    (hmono : ∀ pair ∈ pairs, (∀ sub, related pair.1 sub → related' pair.1 sub) ∧
      ∀ sub, related pair.2 sub → related' pair.2 sub) :
    List.Forall₂ (fun pair pair' => related' pair.1 pair'.1 ∧ related' pair.2 pair'.2)
      pairs pairs' := by
  refine ((List.forall₂_and_left pairs pairs').mpr ⟨hmono, h⟩).imp ?_
  rintro pair pair' ⟨⟨hfirst, hsecond⟩, hpair⟩
  exact ⟨hfirst _ hpair.1, hsecond _ hpair.2⟩

theorem rel_fallback_mono {otherwise otherwise' : Option Expr}
    (h : Option.Rel related otherwise otherwise')
    (hmono : ∀ e, otherwise = some e → ∀ sub, related e sub → related' e sub) :
    Option.Rel related' otherwise otherwise' := by
  cases h with
  | none => exact .none
  | some h => exact .some (hmono _ rfl _ h)

/-- Only how the parts are related matters. -/
theorem SameForm.mono {e e' : Expr} (h : SameForm related e e')
    (hmono : ∀ part ∈ e.parts, ∀ sub, related part.2 sub → related' part.2 sub) :
    SameForm related' e e' := by
  cases h with
  | literal h => exact .literal h
  | reference name => exact .reference name
  | ifThenElse hcondition hthen helse =>
      obtain ⟨hc, ht, he⟩ :=
        (forall_mem_ifThenElse fun e => ∀ sub, related e sub → related' e sub).mp hmono
      exact .ifThenElse (hc _ hcondition) (ht _ hthen) (he _ helse)
  | ruleChain hrules hotherwise =>
      obtain ⟨hmono, hfallback⟩ :=
        (forall_mem_ruleChain fun e => ∀ sub, related e sub → related' e sub).mp hmono
      exact .ruleChain (forall₂_pairs_mono hrules hmono) (rel_fallback_mono hotherwise hfallback)
  | finiteBranch hsubject hcases hotherwise =>
      obtain ⟨hs, hmono, hfallback⟩ :=
        (forall_mem_finiteBranch fun e => ∀ sub, related e sub → related' e sub).mp hmono
      exact .finiteBranch (hs _ hsubject) (forall₂_pairs_mono hcases hmono)
        (rel_fallback_mono hotherwise hfallback)

theorem rel_fallback_self_iff {otherwise : Option Expr} :
    Option.Rel related otherwise otherwise ↔ ∀ e, otherwise = some e → related e e := by
  cases otherwise <;> simp

/-- An expression is of one form with itself as far as its parts are related to
themselves. -/
theorem sameForm_self_iff {e : Expr} :
    SameForm related e e ↔ ∀ part ∈ e.parts, related part.2 part.2 := by
  constructor
  · intro h
    cases h with
    | literal h => nofun
    | reference name => nofun
    | ifThenElse hcondition hthen helse =>
        exact (forall_mem_ifThenElse fun e => related e e).mpr ⟨hcondition, hthen, helse⟩
    | ruleChain hrules hotherwise =>
        exact (forall_mem_ruleChain fun e => related e e).mpr
          ⟨List.forall₂_same.mp hrules, rel_fallback_self_iff.mp hotherwise⟩
    | finiteBranch hsubject hcases hotherwise =>
        exact (forall_mem_finiteBranch fun e => related e e).mpr
          ⟨hsubject, List.forall₂_same.mp hcases, rel_fallback_self_iff.mp hotherwise⟩
  · intro h
    cases e with
    | literal v => exact .literal (.refl v)
    | reference name => exact .reference name
    | ifThenElse condition thenArm elseArm =>
        obtain ⟨hcondition, hthen, helse⟩ := (forall_mem_ifThenElse fun e => related e e).mp h
        exact .ifThenElse hcondition hthen helse
    | ruleChain rules otherwise =>
        obtain ⟨hrules, hotherwise⟩ := (forall_mem_ruleChain fun e => related e e).mp h
        exact .ruleChain (List.forall₂_same.mpr hrules) (rel_fallback_self_iff.mpr hotherwise)
    | finiteBranch subject cases otherwise =>
        obtain ⟨hsubject, hcases, hotherwise⟩ :=
          (forall_mem_finiteBranch fun e => related e e).mp h
        exact .finiteBranch hsubject (List.forall₂_same.mpr hcases)
          (rel_fallback_self_iff.mpr hotherwise)

end SameForm

theorem samePairs_iff {pairs pairs' : List (Expr × Expr)} : samePairs pairs pairs' = true ↔
    List.Forall₂ (fun pair pair' => pair.1.same pair'.1 = true ∧ pair.2.same pair'.2 = true)
      pairs pairs' := by
  induction pairs generalizing pairs' with
  | nil => cases pairs' <;> simp [samePairs]
  | cons pair pairs ih => cases pairs' <;> simp [samePairs, ih]

theorem sameFallback_iff {otherwise otherwise' : Option Expr} :
    sameFallback otherwise otherwise' = true ↔
      Option.Rel (fun e e' => e.same e' = true) otherwise otherwise' := by
  cases otherwise <;> cases otherwise' <;> simp [sameFallback]

/-- Equal expressions are of one form, with equal parts. -/
theorem sameForm_of_same {e e' : Expr} (h : e.same e' = true) :
    SameForm (fun e e' => e.same e' = true) e e' := by
  cases e with
  | literal v =>
      cases e' with
      | literal w => exact .literal (.inr h)
      | _ => cases h
  | reference name =>
      cases e' with
      | reference name' =>
          obtain rfl : name = name' := by simpa [same] using h
          exact .reference name
      | _ => cases h
  | ifThenElse condition thenArm elseArm =>
      cases e' with
      | ifThenElse condition' thenArm' elseArm' =>
          simp only [same, Bool.and_eq_true] at h
          exact .ifThenElse h.1.1 h.1.2 h.2
      | _ => cases h
  | ruleChain rules otherwise =>
      cases e' with
      | ruleChain rules' otherwise' =>
          simp only [same, Bool.and_eq_true, samePairs_iff, sameFallback_iff] at h
          exact .ruleChain h.1 h.2
      | _ => cases h
  | finiteBranch subject cases otherwise =>
      cases e' with
      | finiteBranch subject' cases' otherwise' =>
          simp only [same, Bool.and_eq_true, samePairs_iff, sameFallback_iff] at h
          exact .finiteBranch h.1.1 h.1.2 h.2
      | _ => cases h

/-- Expressions of one form with equal parts are equal, apart from what is not a number. -/
theorem SameForm.same {e e' : Expr} (h : SameForm (fun e e' => e.same e' = true) e e')
    (hnan : e ≠ .literal (.number .nan)) : e.same e' = true := by
  cases h with
  | literal h =>
      refine h.same ?_
      rintro rfl
      exact hnan rfl
  | reference name => exact beq_self_eq_true name
  | ifThenElse hcondition hthen helse =>
      simp only [Expr.same, hcondition, hthen, helse, Bool.and_self]
  | ruleChain hrules hotherwise =>
      simp only [Expr.same, samePairs_iff.mpr hrules, sameFallback_iff.mpr hotherwise,
        Bool.and_self]
  | finiteBranch hsubject hcases hotherwise =>
      simp only [Expr.same, hsubject, samePairs_iff.mpr hcases, sameFallback_iff.mpr hotherwise,
        Bool.and_self]

/-- An expression equals itself exactly if it is free of NaN. -/
theorem same_self_iff {e : Expr} : e.same e = true ↔ e.NanFree := by
  induction e using partsInduction with
  | whole e ih =>
      constructor
      · intro h
        refine nanFree_iff.mpr ⟨?_, ?_⟩
        · rintro rfl
          cases h
        · intro part mem
          exact (ih part mem).mp (sameForm_self_iff.mp (sameForm_of_same h) part mem)
      · intro h
        obtain ⟨hroot, hparts⟩ := nanFree_iff.mp h
        exact (sameForm_self_iff.mpr fun part mem => (ih part mem).mpr (hparts part mem)).same hroot

/-! ### Leaves -/

/-- Leaves match exactly if they are equal. -/
theorem matchesLeaf_eq_same {e e' : Expr} (h : e.isBranch = false) (h' : e'.isBranch = false) :
    e.matchesLeaf e' = e.same e' := by
  cases e with
  | literal v =>
      cases e' with
      | literal w => rfl
      | reference name => rfl
      | _ => cases h'
  | reference name =>
      cases e' with
      | literal w => rfl
      | reference name' => rfl
      | _ => cases h'
  | _ => cases h

/-- A branch matches nothing, and nothing matches a branch. -/
theorem matchesLeaf_of_isBranch {e e' : Expr} (h : e.isBranch = true ∨ e'.isBranch = true) :
    e.matchesLeaf e' = false := by
  cases e with
  | literal v | reference name =>
      cases e' with
      | literal w | reference name' => simp [isBranch] at h
      | _ => rfl
  | _ => rfl

end Expr

/-! ### Scopes -/

namespace Scope

variable {scope scope' : Scope}

theorem sameCalculations_iff {calculations calculations' : List (String × Expr)} :
    sameCalculations calculations calculations' = true ↔
      List.Forall₂ (fun calculation calculation' => calculation.1 = calculation'.1 ∧
        calculation.2.same calculation'.2 = true) calculations calculations' := by
  induction calculations generalizing calculations' with
  | nil => cases calculations' <;> simp [sameCalculations]
  | cons calculation rest ih => cases calculations' <;> simp [sameCalculations, ih]

/-- The outputs of a scope are a set of names. -/
theorem outputs_eq_iff :
    scope.outputs = scope'.outputs ↔ ∀ name, name ∈ scope.outputs ↔ name ∈ scope'.outputs := by
  constructor
  · intro h name
    rw [h]
  · exact scope.pairwise_outputs.eq_of_mem_iff scope'.pairwise_outputs

/-- Scopes are equal if they have the same inputs and equal calculations, in order, and
the same set of outputs. -/
theorem same_iff : scope.same scope' = true ↔
    scope.inputs = scope'.inputs ∧
      List.Forall₂ (fun calculation calculation' => calculation.1 = calculation'.1 ∧
        calculation.2.same calculation'.2 = true) scope.calculations scope'.calculations ∧
      ∀ name, name ∈ scope.outputs ↔ name ∈ scope'.outputs := by
  simp only [same, Bool.and_eq_true, beq_iff_eq, sameCalculations_iff, ← outputs_eq_iff, and_assoc]

end Scope

end Rulebook
