import Mathlib.Data.List.Forall2
import Mathlib.Logic.Relation
import Rulebook.Proofs.Grammar
import Rulebook.Proofs.MemberLists

/-!
What in a document matters to the expression it holds.

An object is read as a map: only the members named in `Data.vocabulary` are looked up,
wherever they stand. Documents that agree on those, item by item and member by member
(`Data.SameMap`), are read as the same expression or not at all
(`sameResult_decodeWithin`). Listing the members of an object in another order, or
adding members of other names anywhere (`Data.Respelled`), leaves a document the same
in this sense.
-/

namespace Rulebook

/-! ### Documents that say the same -/

namespace Data

/-- The names of members that are looked up where an expression is read. -/
def vocabulary : List String :=
  ["ref", "type", "value", "if", "then", "else", "rules", "when", "branchOn", "otherwise"]

/-- Documents that say the same to a reader of expressions: the same scalars, arrays of
items that say the same, objects whose members of the vocabulary say the same. -/
inductive SameMap : Data → Data → Prop where
  | refl (value : Data) : SameMap value value
  | array {items items' : List Data} : List.Forall₂ SameMap items items' →
      SameMap (.array items) (.array items')
  | object {members members' : List (String × Data)} :
      (∀ name ∈ vocabulary,
        Option.Rel SameMap (Members.get? members name) (Members.get? members' name)) →
      SameMap (.object members) (.object members')

theorem rel_sameMap_refl (found : Option Data) : Option.Rel SameMap found found := by
  cases found with
  | none => exact .none
  | some value => exact .some (.refl value)

/-- Only the same leaf says the same as a leaf. -/
theorem SameMap.eq_of_leaf {value value' : Data} (h : SameMap value value')
    (hleaf : value.isContainer = false) : value' = value := by
  cases h with
  | refl => rfl
  | array _ | object _ => cases hleaf

theorem SameMap.of_array {items : List Data} {value : Data} (h : SameMap (.array items) value) :
    ∃ items', value = .array items' ∧ List.Forall₂ SameMap items items' := by
  cases h with
  | refl => exact ⟨items, rfl, List.forall₂_same.mpr fun item _ => .refl item⟩
  | array hitems => exact ⟨_, rfl, hitems⟩

theorem SameMap.of_object {members : List (String × Data)} {value : Data}
    (h : SameMap (.object members) value) :
    ∃ members', value = .object members' ∧ ∀ name ∈ vocabulary,
      Option.Rel SameMap (Members.get? members name) (Members.get? members' name) := by
  cases h with
  | refl => exact ⟨members, rfl, fun name _ => rel_sameMap_refl _⟩
  | object hmembers => exact ⟨_, rfl, hmembers⟩

end Data

/-! ### Readings of the same value -/

/-- Two readings return the same value, or none of them returns. -/
def SameResult {α : Type} (reading reading' : Except DecodeError α) : Prop :=
  reading.toOption = reading'.toOption

theorem SameResult.eq_ok {α : Type} {value : α} {reading : Except DecodeError α}
    (h : SameResult (.ok value) reading) : reading = .ok value := by
  cases reading with
  | ok other => exact congrArg Except.ok (Option.some.inj h).symm
  | error error => cases h

theorem SameResult.bind {α β : Type} {reading reading' : Except DecodeError α}
    {next next' : α → Except DecodeError β} (h : SameResult reading reading')
    (hnext : ∀ value, SameResult (next value) (next' value)) :
    SameResult (reading >>= next) (reading' >>= next') := by
  cases reading with
  | ok value =>
      cases reading' with
      | ok value' =>
          cases h
          exact hnext value
      | error error' => cases h
  | error error =>
      cases reading' with
      | ok value' => cases h
      | error error' => rfl

theorem SameResult.map {α β : Type} {reading reading' : Except DecodeError α}
    (h : SameResult reading reading') (f : α → β) :
    SameResult (f <$> reading) (f <$> reading') := by
  have hbind := h.bind fun value => (rfl : SameResult (.ok (f value)) (.ok (f value)))
  cases reading <;> cases reading' <;> exact hbind

theorem sameResult_fault {α : Type} (fault fault' : DecodeFault) (path path' : DataPath) :
    SameResult (α := α) (faultAt fault path) (faultAt fault' path') :=
  rfl

namespace Expr

open Data

section Level

theorem sameResult_readItems {α : Type} {read : DataPath → Data → Except DecodeError α}
    (hread : ∀ path value value', SameMap value value' →
      SameResult (read path value) (read path value'))
    {items items' : List Data} (h : List.Forall₂ SameMap items items') (path : DataPath)
    (index : Nat) :
    SameResult (readItems read path index items) (readItems read path index items') := by
  induction h generalizing index with
  | nil => rfl
  | cons hitem _ ih =>
      exact (hread _ _ _ hitem).bind fun first => (ih (index + 1)).bind fun others => rfl

variable {read : Reader} (hread : ∀ path value value', SameMap value value' →
  SameResult (read path value) (read path value'))
include hread

theorem sameResult_readCase (path : DataPath) {item item' : Data} (h : SameMap item item') :
    SameResult (readCase read path item) (readCase read path item') := by
  cases h with
  | refl => rfl
  | object => exact sameResult_fault _ _ _ _
  | array hitems =>
      rcases hitems with _ | ⟨hkey, _ | ⟨hresult, _ | _⟩⟩
      · rfl
      · rfl
      · exact (hread _ _ _ hkey).bind fun _ => (hread _ _ _ hresult).bind fun _ => rfl
      · rfl

section Members

variable {members members' : List (String × Data)}
  (h : ∀ name ∈ vocabulary,
    Option.Rel SameMap (Members.get? members name) (Members.get? members' name))
include h

theorem sameResult_readField {name : String} (mem : name ∈ vocabulary) (path : DataPath) :
    SameResult (readField read members name path) (readField read members' name path) := by
  unfold readField requiredField
  rcases Members.rel_cases (h name mem) with ⟨hnone, hnone'⟩ | ⟨_, _, hvalue, hvalue', hsame⟩
  · rw [hnone, hnone']
    rfl
  · rw [hvalue, hvalue']
    exact hread _ _ _ hsame

theorem sameResult_readFallback (path : DataPath) :
    SameResult (readFallback read members path) (readFallback read members' path) := by
  unfold readFallback
  rcases Members.rel_cases (h "otherwise" (by decide)) with
    ⟨hnone, hnone'⟩ | ⟨_, _, hvalue, hvalue', hsame⟩
  · rw [hnone, hnone']
    rfl
  · rw [hvalue, hvalue']
    exact (hread _ _ _ hsame).map some

theorem sameResult_readIfThenElse (path : DataPath) :
    SameResult (readIfThenElse read members path) (readIfThenElse read members' path) :=
  (sameResult_readField hread h (by decide) path).bind fun _ =>
    (sameResult_readField hread h (by decide) path).bind fun _ =>
      (sameResult_readField hread h (by decide) path).bind fun _ => rfl

end Members

theorem sameResult_readRule (path : DataPath) {item item' : Data} (h : SameMap item item') :
    SameResult (readRule read path item) (readRule read path item') := by
  cases item with
  | object members =>
      obtain ⟨members', rfl, hmembers⟩ := h.of_object
      exact (sameResult_readField hread hmembers (by decide) path).bind fun _ =>
        (sameResult_readField hread hmembers (by decide) path).bind fun _ => rfl
  | array items =>
      obtain ⟨items', rfl, _⟩ := h.of_array
      rfl
  | _ =>
      cases h
      rfl

section Members

variable {members members' : List (String × Data)}
  (h : ∀ name ∈ vocabulary,
    Option.Rel SameMap (Members.get? members name) (Members.get? members' name))
include h

theorem sameResult_readRuleChain (path : DataPath) {rules rules' : Data}
    (hrules : SameMap rules rules') :
    SameResult (readRuleChain read members path rules)
      (readRuleChain read members' path rules') := by
  cases rules with
  | array items =>
      obtain ⟨items', rfl, hitems⟩ := hrules.of_array
      have hrules := sameResult_readItems (fun path _ _ => sameResult_readRule hread path) hitems
      exact (hrules _ 0).bind fun _ => (sameResult_readFallback hread h path).bind fun _ => rfl
  | object members =>
      obtain ⟨members', rfl, _⟩ := hrules.of_object
      rfl
  | _ =>
      cases hrules
      rfl

theorem sameResult_readFiniteBranch (path : DataPath) {subject subject' : Data}
    (hsubject : SameMap subject subject') :
    SameResult (readFiniteBranch read members path subject)
      (readFiniteBranch read members' path subject') := by
  unfold readFiniteBranch requiredField
  rcases Members.rel_cases (h "when" (by decide)) with
    ⟨hnone, hnone'⟩ | ⟨cases, cases', hcases, hcases', hsame⟩
  · rw [hnone, hnone']
    rfl
  · rw [hcases, hcases']
    cases cases with
    | array items =>
        obtain ⟨items', rfl, hitems⟩ := hsame.of_array
        have hcases := sameResult_readItems (fun path _ _ => sameResult_readCase hread path) hitems
        exact (hread _ _ _ hsubject).bind fun _ => (hcases _ 0).bind fun _ =>
          (sameResult_readFallback hread h path).bind fun _ => rfl
    | object members =>
        obtain ⟨members', rfl, _⟩ := hsame.of_object
        rfl
    | _ =>
        cases hsame
        rfl

end Members

theorem sameResult_readBranchValue (path : DataPath) {value value' : Data}
    (h : SameMap value value') :
    SameResult (readBranchValue read path value) (readBranchValue read path value') := by
  cases value with
  | object body =>
      obtain ⟨body', rfl, hbody⟩ := h.of_object
      rcases Members.rel_cases (hbody "if" (by decide)) with
        ⟨hnone, hnone'⟩ | ⟨_, _, hsome, hsome', _⟩
      · have hhas : Members.has body "if" = false := by rw [Members.has, hnone]; rfl
        have hhas' : Members.has body' "if" = false := by rw [Members.has, hnone']; rfl
        simp only [readBranchValue, hhas, hhas', Bool.false_eq_true, if_false]
        rcases Members.rel_cases (hbody "rules" (by decide)) with
          ⟨hrules, hrules'⟩ | ⟨_, _, hrules, hrules', hsame⟩
        · simp only [hrules, hrules']
          rcases Members.rel_cases (hbody "branchOn" (by decide)) with
            ⟨hsubject, hsubject'⟩ | ⟨_, _, hsubject, hsubject', hsame⟩
          · simp only [hsubject, hsubject']
            rfl
          · simp only [hsubject, hsubject']
            exact sameResult_readFiniteBranch hread hbody path hsame
        · simp only [hrules, hrules']
          exact sameResult_readRuleChain hread hbody path hsame
      · have hhas : Members.has body "if" = true := by rw [Members.has, hsome]; rfl
        have hhas' : Members.has body' "if" = true := by rw [Members.has, hsome']; rfl
        simp only [readBranchValue, hhas, hhas', if_true]
        exact sameResult_readIfThenElse hread hbody path
  | array items =>
      obtain ⟨items', rfl, _⟩ := h.of_array
      rfl
  | _ =>
      cases h
      rfl

theorem sameResult_readObject {members members' : List (String × Data)}
    (h : ∀ name ∈ vocabulary,
      Option.Rel SameMap (Members.get? members name) (Members.get? members' name))
    (path : DataPath) :
    SameResult (readObject read members path) (readObject read members' path) := by
  unfold readObject
  rcases Members.rel_cases (h "ref" (by decide)) with
    ⟨hnone, hnone'⟩ | ⟨name, name', href, href', hsame⟩
  · rw [hnone, hnone']
    rcases Members.rel_cases (h "type" (by decide)) with
      ⟨hnone, hnone'⟩ | ⟨type, type', htype, htype', hsame⟩
    · rw [hnone, hnone']
      rfl
    · rw [htype, htype']
      cases type with
      | string s =>
          cases hsame
          simp only
          split
          · unfold requiredField
            rcases Members.rel_cases (h "value" (by decide)) with
              ⟨hnone, hnone'⟩ | ⟨_, _, hvalue, hvalue', hsame⟩
            · rw [hnone, hnone']
              rfl
            · rw [hvalue, hvalue']
              exact sameResult_readBranchValue hread _ hsame
          · rfl
          · rfl
      | array items =>
          obtain ⟨items', rfl, _⟩ := hsame.of_array
          rfl
      | object members =>
          obtain ⟨members', rfl, _⟩ := hsame.of_object
          rfl
      | _ =>
          cases hsame
          rfl
  · rw [href, href']
    cases name with
    | array items =>
        obtain ⟨items', rfl, _⟩ := hsame.of_array
        rfl
    | object members =>
        obtain ⟨members', rfl, _⟩ := hsame.of_object
        rfl
    | _ =>
        cases hsame
        rfl

end Level

/-- Documents that say the same are read as the same expression, or none of them is read. -/
theorem sameResult_decodeWithin (levels : Nat) (path : DataPath) {value value' : Data}
    (h : SameMap value value') :
    SameResult (decodeWithin levels path value) (decodeWithin levels path value') := by
  induction levels generalizing path value value' with
  | zero => rfl
  | succ levels ih =>
      cases value with
      | object members =>
          obtain ⟨members', rfl, hmembers⟩ := h.of_object
          exact sameResult_readObject (fun path _ _ => ih path) hmembers path
      | array items =>
          obtain ⟨items', rfl, _⟩ := h.of_array
          rfl
      | _ =>
          cases h
          rfl

end Expr

end Rulebook
