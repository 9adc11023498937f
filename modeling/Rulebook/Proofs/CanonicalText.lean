import Rulebook.Proofs.Equality
import Rulebook.Proofs.RoundTrip
import Rulebook.Proofs.UniqueText

/-!
Equal expressions, and only those, have the same text.

Two expressions have the same document form if they are of one form and their parts have
the same document forms (`Expr.encode_eq_iff_sameForm`): zeros are written without their
sign, and every other literal is found in its form. What is not a number has a form like
any other literal but equals nothing, so it is left out (`Expr.encode_eq_iff`). As a
document has a text of its own, the text of an expression or a scope is canonical
(`text_is_canonical`).
-/

namespace Rulebook

/-! ### Literals -/

namespace Literal

theorem alike_canonical {x : Number} {n : Int} (h : x.toInt? = some n) :
    (number x).Alike (number x.canonical) :=
  .inr (Number.same_canonical (Number.isFinite_of_toInt h))

/-- Numbers of one document form are alike: an integer stands for one number and for
both zeros, and any other number for itself. -/
theorem alike_of_encode_number_eq {x y : Number} (h : (number x).encode = (number y).encode) :
    (number x).Alike (number y) := by
  rcases encode_number x with ⟨n, hx, _, hencode⟩ | ⟨_, hencode⟩
  · rcases encode_number y with ⟨m, hy, _, hencode'⟩ | ⟨_, hencode'⟩
    · rw [hencode, hencode'] at h
      cases h
      have hcanonical : x.canonical = y.canonical :=
        Option.some.inj ((Number.ofInt_of_toInt hx).symm.trans (Number.ofInt_of_toInt hy))
      have hx := alike_canonical hx
      rw [hcanonical] at hx
      exact hx.trans (alike_canonical hy).symm
    · rw [hencode, hencode'] at h
      cases h
  · rcases encode_number y with ⟨m, _, _, hencode'⟩ | ⟨_, hencode'⟩
    · rw [hencode, hencode'] at h
      cases h
    · rw [hencode, hencode'] at h
      cases h
      exact .refl _

theorem encode_zero (negative : Bool) : (number (.zero negative)).encode = .int 0 := by
  have hint := Number.toInt_zero negative
  rcases encode_number (.zero negative) with ⟨n, hn, _, hencode⟩ | ⟨hne, _⟩
  · rw [hint] at hn
    rw [hencode, ← Option.some.inj hn]
  · exact absurd hint hne

theorem encode_number_ne (x : Number) {value : Data} (hint : ∀ n, value ≠ .int n)
    (hfloat : ∀ y, value ≠ .float y) : (number x).encode ≠ value := by
  rcases encode_number x with ⟨n, _, _, hencode⟩ | ⟨_, hencode⟩
  · rw [hencode]
    exact (hint n).symm
  · rw [hencode]
    exact (hfloat x).symm

theorem encode_ne_object (v : Literal) (members : List (String × Data)) :
    v.encode ≠ .object members := by
  cases v with
  | string s => nofun
  | bool b => nofun
  | number x => exact encode_number_ne x nofun nofun

/-- Document forms of literals are the same exactly if the literals are alike. -/
theorem encode_eq_iff {v w : Literal} : v.encode = w.encode ↔ v.Alike w := by
  constructor
  · intro h
    cases v with
    | string s =>
        cases w with
        | string t => exact .inl (congrArg string (Data.string.inj h))
        | bool b => cases h
        | number y => exact absurd h.symm (encode_number_ne y nofun nofun)
    | bool b =>
        cases w with
        | string t => cases h
        | bool c => exact .inl (congrArg bool (Data.bool.inj h))
        | number y => exact absurd h.symm (encode_number_ne y nofun nofun)
    | number x =>
        cases w with
        | number y => exact alike_of_encode_number_eq h
        | _ => exact absurd h (encode_number_ne x nofun nofun)
  · intro h
    rcases h.eq_or_zero with rfl | ⟨negative, negative', rfl, rfl⟩
    · rfl
    · rw [encode_zero, encode_zero]

end Literal

/-! ### Expressions -/

theorem map_eq_map_iff_forall₂ {α β : Type} {f : α → β} {items items' : List α} :
    items.map f = items'.map f ↔
      List.Forall₂ (fun item item' => f item = f item') items items' := by
  rw [← List.forall₂_eq_eq_eq, List.forall₂_map_left_iff, List.forall₂_map_right_iff]

namespace Expr

theorem encodeRules_eq_iff {rules rules' : List (Expr × Expr)} :
    encodeRules rules = encodeRules rules' ↔
      List.Forall₂ (fun rule rule' => rule.1.encode = rule'.1.encode ∧
        rule.2.encode = rule'.2.encode) rules rules' := by
  rw [encodeRules_eq_map, encodeRules_eq_map, map_eq_map_iff_forall₂]
  simp [encodeRule]

theorem encodeCases_eq_iff {cases cases' : List (Expr × Expr)} :
    encodeCases cases = encodeCases cases' ↔
      List.Forall₂ (fun case case' => case.1.encode = case'.1.encode ∧
        case.2.encode = case'.2.encode) cases cases' := by
  rw [encodeCases_eq_map, encodeCases_eq_map, map_eq_map_iff_forall₂]
  simp [encodeCase]

theorem encodeFallback_eq_iff {otherwise otherwise' : Option Expr} :
    encodeFallback otherwise = encodeFallback otherwise' ↔
      Option.Rel (fun e e' => e.encode = e'.encode) otherwise otherwise' := by
  cases otherwise <;> cases otherwise' <;> simp [encodeFallback]

/-- Document forms are the same exactly for expressions of one form whose parts have the
same document forms. -/
theorem encode_eq_iff_sameForm {e e' : Expr} :
    e.encode = e'.encode ↔ SameForm (fun e e' => e.encode = e'.encode) e e' := by
  constructor
  · intro h
    cases e with
    | literal v =>
        cases e' with
        | literal w => exact .literal (Literal.encode_eq_iff.mp h)
        | _ => exact absurd h (v.encode_ne_object _)
    | reference name =>
        cases e' with
        | literal w => exact absurd h.symm (w.encode_ne_object _)
        | reference name' =>
            obtain rfl : name = name' := by simpa [encode] using h
            exact .reference name
        | _ => simp [encode, branchData] at h
    | ifThenElse condition thenArm elseArm =>
        cases e' with
        | literal w => exact absurd h.symm (w.encode_ne_object _)
        | ifThenElse condition' thenArm' elseArm' =>
            obtain ⟨hcondition, hthen, helse⟩ : _ ∧ _ ∧ _ := by
              simpa [encode, branchData] using h
            exact .ifThenElse hcondition hthen helse
        | _ => simp [encode, branchData] at h
    | ruleChain rules otherwise =>
        cases e' with
        | literal w => exact absurd h.symm (w.encode_ne_object _)
        | ruleChain rules' otherwise' =>
            obtain ⟨hrules, hotherwise⟩ : _ ∧ _ := by simpa [encode, branchData] using h
            exact .ruleChain (encodeRules_eq_iff.mp hrules) (encodeFallback_eq_iff.mp hotherwise)
        | _ => simp [encode, branchData] at h
    | finiteBranch subject cases otherwise =>
        cases e' with
        | literal w => exact absurd h.symm (w.encode_ne_object _)
        | finiteBranch subject' cases' otherwise' =>
            obtain ⟨hsubject, hcases, hotherwise⟩ : _ ∧ _ ∧ _ := by
              simpa [encode, branchData] using h
            exact .finiteBranch hsubject (encodeCases_eq_iff.mp hcases)
              (encodeFallback_eq_iff.mp hotherwise)
        | _ => simp [encode, branchData] at h
  · intro h
    cases h with
    | literal h => exact Literal.encode_eq_iff.mpr h
    | reference name => rfl
    | ifThenElse hcondition hthen helse => simp only [encode, hcondition, hthen, helse]
    | ruleChain hrules hotherwise =>
        simp only [encode, encodeRules_eq_iff.mpr hrules, encodeFallback_eq_iff.mpr hotherwise]
    | finiteBranch hsubject hcases hotherwise =>
        simp only [encode, hsubject, encodeCases_eq_iff.mpr hcases,
          encodeFallback_eq_iff.mpr hotherwise]

/-- Equal expressions have the same document form. -/
theorem encode_eq_of_same {e e' : Expr} (h : e.same e' = true) : e.encode = e'.encode := by
  induction e using partsInduction generalizing e' with
  | whole e ih =>
      apply encode_eq_iff_sameForm.mpr
      exact (sameForm_of_same h).mono fun part mem sub hsub => ih part mem hsub

/-- Document forms tell expressions apart that are not equal. -/
theorem encode_eq_iff {e e' : Expr} (hnan : e.NanFree) :
    e.encode = e'.encode ↔ e.same e' = true := by
  constructor
  · intro h
    induction e using partsInduction generalizing e' with
    | whole e ih =>
        obtain ⟨hroot, hparts⟩ := nanFree_iff.mp hnan
        have hform : SameForm (fun e e' => e.same e' = true) e e' :=
          (encode_eq_iff_sameForm.mp h).mono
            fun part mem sub hsub => ih part mem (hparts part mem) hsub
        exact hform.same hroot
  · exact encode_eq_of_same

theorem encode?_eq_of_same {e e' : Expr} (machine : Machine) (h : e.same e' = true) :
    e.encode? machine = e'.encode? machine := by
  simp only [encode?, encode_eq_of_same h]

end Expr

/-! ### Scopes -/

namespace Scope

variable {scope scope' : Scope}

theorem encodeInputs_eq_iff {inputs inputs' : List (String × Kind)} :
    encodeInputs inputs = encodeInputs inputs' ↔ inputs = inputs' := by
  apply List.map_inj_right
  rintro ⟨name, kind⟩ ⟨name', kind'⟩ h
  obtain ⟨rfl, hword⟩ := Prod.mk.inj h
  have hread := readKind_word name kind
  rw [hword, readKind_word name kind'] at hread
  cases hread
  rfl

theorem encodeCalculations_eq_iff {calculations calculations' : List (String × Expr)} :
    encodeCalculations calculations = encodeCalculations calculations' ↔
      List.Forall₂ (fun calculation calculation' => calculation.1 = calculation'.1 ∧
        calculation.2.encode = calculation'.2.encode) calculations calculations' := by
  rw [encodeCalculations, encodeCalculations, map_eq_map_iff_forall₂]
  simp only [Prod.mk.injEq]

/-- Document forms of scopes are the same exactly for the same inputs, calculations of the
same document forms, and the same set of outputs. -/
theorem encode_eq_iff_forall : scope.encode = scope'.encode ↔
    scope.inputs = scope'.inputs ∧
      List.Forall₂ (fun calculation calculation' => calculation.1 = calculation'.1 ∧
        calculation.2.encode = calculation'.2.encode) scope.calculations scope'.calculations ∧
      ∀ name, name ∈ scope.outputs ↔ name ∈ scope'.outputs := by
  have houtputs : scope.outputs.map Data.string = scope'.outputs.map Data.string ↔
      scope.outputs = scope'.outputs := List.map_inj_right fun _ _ => Data.string.inj
  simp only [← encodeInputs_eq_iff, ← encodeCalculations_eq_iff, ← outputs_eq_iff, ← houtputs]
  simp [encode]

theorem encode_eq_of_same (h : scope.same scope' = true) : scope.encode = scope'.encode := by
  obtain ⟨hinputs, hcalculations, houtputs⟩ := same_iff.mp h
  refine encode_eq_iff_forall.mpr ⟨hinputs, hcalculations.imp ?_, houtputs⟩
  exact fun _ _ h => ⟨h.1, Expr.encode_eq_of_same h.2⟩

/-- Document forms tell scopes apart that are not equal. -/
theorem encode_eq_iff (hnan : ∀ calculation ∈ scope.calculations, calculation.2.NanFree) :
    scope.encode = scope'.encode ↔ scope.same scope' = true := by
  constructor
  · intro h
    obtain ⟨hinputs, hcalculations, houtputs⟩ := encode_eq_iff_forall.mp h
    refine same_iff.mpr ⟨hinputs, ?_, houtputs⟩
    refine ((List.forall₂_and_left _ _).mpr ⟨hnan, hcalculations⟩).imp ?_
    exact fun _ _ h => ⟨h.2.1, (Expr.encode_eq_iff h.1).mp h.2.2⟩
  · exact encode_eq_of_same

theorem encode?_eq_of_same (machine : Machine) (h : scope.same scope' = true) :
    scope.encode? machine = scope'.encode? machine := by
  have hencoded : ∀ {calculations calculations' : List (String × Expr)},
      List.Forall₂ (fun calculation calculation' => calculation.1 = calculation'.1 ∧
        calculation.2.same calculation'.2 = true) calculations calculations' →
      (calculations.all fun calculation => machine.encodes calculation.2.encode) =
        calculations'.all fun calculation => machine.encodes calculation.2.encode := by
    intro calculations calculations' h
    induction h with
    | nil => rfl
    | cons hfirst _ ih => rw [List.all_cons, List.all_cons, Expr.encode_eq_of_same hfirst.2, ih]
  obtain ⟨_, hcalculations, _⟩ := same_iff.mp h
  simp only [encode?, hencoded hcalculations, encode_eq_of_same h]

end Scope

/-! ### Texts -/

namespace Machine

variable {machine : Machine} {indent : Option Int}

/-- All layouts that are to be had for an indentation are one. -/
theorem exists_layout (machine : Machine) (indent : Option Int) :
    ∃ layout, ∀ value layout', machine.layoutFor indent value = .ok layout' → layout' = layout := by
  cases indent with
  | none => exact ⟨.line, fun _ _ h => (Except.ok.inj h).symm⟩
  | some width =>
      refine ⟨.indented width.toNat, fun value layout' h => ?_⟩
      simp only [layoutFor, Json.Layout.ofIndent] at h
      split at h
      · cases h
      · split at h
        · exact (Except.ok.inj h).symm
        · cases h

/-- What is written under an indentation is written in one layout, if anything is. -/
theorem exists_text (machine : Machine) (indent : Option Int) :
    ∃ layout, ∀ value text, value.Readable → machine.writeJson indent value = .ok text →
      text = Json.text layout value := by
  obtain ⟨layout, hlayout⟩ := machine.exists_layout indent
  refine ⟨layout, fun value text hvalue h => ?_⟩
  rcases machine.writeJson_cases indent hvalue with
    ⟨layout', hwritten, ⟨s, rfl⟩ | ⟨hlayout', _⟩⟩ | ⟨fault, hwritten, _⟩
  · exact Except.ok.inj (h.symm.trans hwritten)
  · rw [hlayout value layout' hlayout'] at hwritten
    exact Except.ok.inj (h.symm.trans hwritten)
  · cases h.symm.trans hwritten

/-- Documents that are written as one text under an indentation are the same. -/
theorem writeDocument_injective {value value' : Data} {text : String} (h : value.Readable)
    (h' : value'.Readable) {fits fits' : Prop} [Decidable fits] [Decidable fits']
    (htext : machine.writeDocument indent (if fits then some value else none) = .ok text)
    (htext' : machine.writeDocument indent (if fits' then some value' else none) = .ok text) :
    value = value' := by
  obtain ⟨layout, hlayout⟩ := machine.exists_text indent
  split at htext
  · split at htext'
    · exact Json.text_injective h h'
        ((hlayout value text h htext).symm.trans (hlayout value' text h' htext'))
    · cases htext'
  · cases htext

end Machine

namespace Expr

variable {machine : Machine} {indent : Option Int} {e e' : Expr}

/-- Equal expressions are written alike, or refused alike. -/
theorem toJson_eq_of_same (h : e.same e' = true) :
    e.toJson machine indent = e'.toJson machine indent :=
  congrArg (machine.writeDocument indent) (encode?_eq_of_same machine h)

/-- An expression is written where the stack and the memory are enough for it. -/
theorem exists_toJson {layout : Json.Layout}
    (hlayout : machine.layoutFor indent e.encode = .ok layout)
    (hencodes : machine.encodes e.encode = true)
    (hwrites : machine.writes layout e.encode = true) :
    ∃ text, e.toJson machine indent = .ok text := by
  obtain ⟨layout, hwritten⟩ := Machine.writeJson_of_layout e.readable_encode hlayout hwrites
  exact ⟨_, (toJson_of_encodes hencodes).trans hwritten⟩

/-- Expressions of one text are equal. -/
theorem same_of_toJson {text : String} (hnan : e.NanFree) (h : e.toJson machine indent = .ok text)
    (h' : e'.toJson machine indent = .ok text) : e.same e' = true :=
  (encode_eq_iff hnan).mp
    (Machine.writeDocument_injective e.readable_encode e'.readable_encode h h')

end Expr

namespace Scope

variable {machine : Machine} {indent : Option Int} {scope scope' : Scope}

/-- Equal scopes are written alike, or refused alike. -/
theorem toJson_eq_of_same (h : scope.same scope' = true) :
    scope.toJson machine indent = scope'.toJson machine indent :=
  congrArg (machine.writeDocument indent) (encode?_eq_of_same machine h)

/-- A scope is written where the stack and the memory are enough for it. -/
theorem exists_toJson {layout : Json.Layout}
    (hlayout : machine.layoutFor indent scope.encode = .ok layout)
    (hencodes : ∀ calculation ∈ scope.calculations, machine.encodes calculation.2.encode = true)
    (hwrites : machine.writes layout scope.encode = true) :
    ∃ text, scope.toJson machine indent = .ok text := by
  have hencode : scope.encode? machine = some scope.encode :=
    if_pos (List.all_eq_true.mpr hencodes)
  obtain ⟨layout, hwritten⟩ := Machine.writeJson_of_layout scope.readable_encode hlayout hwrites
  exact ⟨_, (congrArg (machine.writeDocument indent) hencode).trans hwritten⟩

/-- Scopes of one text are equal. -/
theorem same_of_toJson {text : String}
    (hnan : ∀ calculation ∈ scope.calculations, calculation.2.NanFree)
    (h : scope.toJson machine indent = .ok text) (h' : scope'.toJson machine indent = .ok text) :
    scope.same scope' = true :=
  (encode_eq_iff hnan).mp
    (Machine.writeDocument_injective scope.readable_encode scope'.readable_encode h h')

end Scope

/-- **The text of an expression or a scope is canonical.** Equal ones are written alike
under every indentation, or refused alike; and of those that are written, without
anything in them that is not a number, two have the same text exactly if they are equal,
however high they are. Every one is written under an indentation that lines can be laid
out with, as far as the stack is enough to encode and to write it. Scopes are equal if they
have the same inputs and equal calculations, in order, and the same set of outputs. Leaves
match as they are equal, and a branch matches nothing. -/
theorem text_is_canonical (machine : Machine) (indent : Option Int) :
    (∀ e e' : Expr,
      (e.same e' = true → e.toJson machine indent = e'.toJson machine indent) ∧
      (e.NanFree → e'.NanFree → ∀ text text', e.toJson machine indent = .ok text →
        e'.toJson machine indent = .ok text' → (text = text' ↔ e.same e' = true)) ∧
      (∀ layout, machine.layoutFor indent e.encode = .ok layout →
        machine.encodes e.encode = true → machine.writes layout e.encode = true →
        ∃ text, e.toJson machine indent = .ok text)) ∧
    (∀ scope scope' : Scope,
      (scope.same scope' = true → scope.toJson machine indent = scope'.toJson machine indent) ∧
      ((∀ calculation ∈ scope.calculations, calculation.2.NanFree) →
        (∀ calculation ∈ scope'.calculations, calculation.2.NanFree) →
        ∀ text text', scope.toJson machine indent = .ok text →
          scope'.toJson machine indent = .ok text' →
          (text = text' ↔ scope.same scope' = true)) ∧
      (∀ layout, machine.layoutFor indent scope.encode = .ok layout →
        (∀ calculation ∈ scope.calculations, machine.encodes calculation.2.encode = true) →
        machine.writes layout scope.encode = true →
        ∃ text, scope.toJson machine indent = .ok text) ∧
      (scope.same scope' = true ↔
        scope.inputs = scope'.inputs ∧
          List.Forall₂ (fun calculation calculation' => calculation.1 = calculation'.1 ∧
            calculation.2.same calculation'.2 = true) scope.calculations scope'.calculations ∧
          ∀ name, name ∈ scope.outputs ↔ name ∈ scope'.outputs)) ∧
    (∀ e e' : Expr,
      (e.isBranch = false → e'.isBranch = false → e.matchesLeaf e' = e.same e') ∧
      (e.isBranch = true ∨ e'.isBranch = true → e.matchesLeaf e' = false)) := by
  refine ⟨?_, ?_, ?_⟩
  · intro e e'
    refine ⟨Expr.toJson_eq_of_same, ?_, fun _ => Expr.exists_toJson⟩
    intro hnan _ text text' h h'
    constructor
    · rintro rfl
      exact Expr.same_of_toJson hnan h h'
    · intro hsame
      exact Except.ok.inj (h.symm.trans ((Expr.toJson_eq_of_same hsame).trans h'))
  · intro scope scope'
    refine ⟨Scope.toJson_eq_of_same, ?_, fun _ => Scope.exists_toJson, Scope.same_iff⟩
    intro hnan _ text text' h h'
    constructor
    · rintro rfl
      exact Scope.same_of_toJson hnan h h'
    · intro hsame
      exact Except.ok.inj (h.symm.trans ((Scope.toJson_eq_of_same hsame).trans h'))
  · intro e e'
    exact ⟨Expr.matchesLeaf_eq_same, Expr.matchesLeaf_of_isBranch⟩

/-- Members pay nothing, and what others pay may be left open. -/
def memberFee (negative : Bool) (otherwise : Option Expr) : Expr :=
  .ruleChain [(.reference "member", .literal (.number (.zero negative)))] otherwise

/-- A scope of one fee. -/
def feeScope (fee : Expr) : Scope where
  inputs := [("member", .bool)]
  calculations := [("fee", fee)]
  outputs := ["fee"]
  nodup_inputs := by decide
  nodup_calculations := List.nodup_singleton "fee"
  pairwise_outputs := by decide

/-- The fee is written alike in either zero, and not like one that tells what others pay.
So is the scope around it. -/
theorem zero_fees_written_alike :
    (∃ text, (memberFee false none).toJson .standard (some 2) = .ok text ∧
      (memberFee true none).toJson .standard (some 2) = .ok text ∧
      (memberFee false (some (.reference "fee"))).toJson .standard (some 2) ≠ .ok text) ∧
    (∃ text, (feeScope (memberFee false none)).toJson .standard (some 2) = .ok text ∧
      (feeScope (memberFee true none)).toJson .standard (some 2) = .ok text ∧
      (feeScope (memberFee false (some (.reference "fee")))).toJson .standard (some 2) ≠
        .ok text) := by
  have hlayout : ∀ value, Machine.standard.layoutFor (some 2) value = .ok (.indented 2) :=
    fun _ => rfl
  have hdepth : (memberFee false none).encode.depth ≤ 100 :=
    Nat.le_trans (Expr.depth_encode_le _) (by decide)
  have hroom : ∀ {value : Data}, value.depth ≤ 100 + 2 → decide (value.depth ≤ 7900) = true :=
    fun h => decide_eq_true (Nat.le_trans h (by decide))
  have hopen : (memberFee false none).NanFree := Expr.same_self_iff.mp rfl
  have htold : (memberFee false (some (.reference "fee"))).NanFree := Expr.same_self_iff.mp rfl
  obtain ⟨hexprs, hscopes, _⟩ := text_is_canonical .standard (some 2)
  constructor
  · obtain ⟨halike, _, hwritten⟩ := hexprs (memberFee false none) (memberFee true none)
    obtain ⟨text, htext⟩ := hwritten _ (hlayout _) (hroom (Nat.le_add_right_of_le hdepth))
      (hroom (Nat.le_add_right_of_le hdepth))
    refine ⟨text, htext, (halike rfl).symm.trans htext, ?_⟩
    intro hother
    cases ((hexprs _ _).2.1 hopen htold _ _ htext hother).mp rfl
  · obtain ⟨halike, _, hwritten, _⟩ :=
      hscopes (feeScope (memberFee false none)) (feeScope (memberFee true none))
    obtain ⟨text, htext⟩ := hwritten _ (hlayout _)
      (List.forall_mem_singleton.mpr (hroom (Nat.le_add_right_of_le hdepth)))
      (hroom (Scope.depth_encode_le (List.forall_mem_singleton.mpr hdepth)))
    refine ⟨text, htext, (halike rfl).symm.trans htext, ?_⟩
    intro hother
    have hfree : ∀ {fee : Expr}, fee.NanFree →
        ∀ calculation ∈ (feeScope fee).calculations, calculation.2.NanFree :=
      fun h => List.forall_mem_singleton.mpr h
    cases ((hscopes _ _).2.1 (hfree hopen) (hfree htold) _ _ htext hother).mp rfl

end Rulebook
