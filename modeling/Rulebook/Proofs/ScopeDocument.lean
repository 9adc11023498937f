import Rulebook.Proofs.MemberLists
import Rulebook.Proofs.Readings
import Rulebook.Scope.Document

/-!
Readings of scopes taken apart: where the calculations of a scope that was read from a
document come from, and at which of its members a reading fails.
-/

namespace Rulebook

theorem get?_of_requiredField {members : List (String × Data)} {name : String} {path : DataPath}
    {value : Data} (h : requiredField members name path = .ok value) :
    Members.get? members name = some value := by
  unfold requiredField at h
  split at h
  · next hget =>
      cases h
      exact hget
  · cases h

namespace Scope

/-- What is read under a name comes from the value listed under it. -/
theorem mem_of_readMembers {α : Type} {read : String → Data → Except DecodeError α}
    {members : List (String × Data)}
    {result : { result : List (String × α) // Members.names result = Members.names members }}
    (h : readMembers read members = .ok result) {name : String} {found : α}
    (mem : (name, found) ∈ result.val) :
    ∃ value, (name, value) ∈ members ∧ read name value = .ok found := by
  induction members with
  | nil =>
      cases h
      cases mem
  | cons member rest ih =>
      obtain ⟨key, value⟩ := member
      obtain ⟨first, hfirst, h⟩ := bind_eq_ok_iff.mp h
      obtain ⟨others, hothers, h⟩ := bind_eq_ok_iff.mp h
      cases h
      rcases List.mem_cons.mp mem with heq | mem
      · cases heq
        exact ⟨value, List.mem_cons_self, hfirst⟩
      · obtain ⟨value', mem', hread⟩ := ih hothers mem
        exact ⟨value', List.mem_cons_of_mem _ mem', hread⟩

/-- Where members are read, each of them is. -/
theorem read_of_readMembers {α : Type} {read : String → Data → Except DecodeError α}
    {members : List (String × Data)}
    {result : { result : List (String × α) // Members.names result = Members.names members }}
    (h : readMembers read members = .ok result) {name : String} {value : Data}
    (mem : (name, value) ∈ members) : ∃ found, read name value = .ok found := by
  induction members with
  | nil => cases mem
  | cons member rest ih =>
      obtain ⟨first, hfirst, h⟩ := bind_eq_ok_iff.mp h
      obtain ⟨others, hothers, _⟩ := bind_eq_ok_iff.mp h
      rcases List.mem_cons.mp mem with heq | mem
      · cases heq
        exact ⟨first, hfirst⟩
      · exact ih hothers mem

/-- Members are read one by one until one fails. -/
theorem readMembers_error_iff {α : Type} {read : String → Data → Except DecodeError α}
    {members : List (String × Data)} {error : DecodeError} :
    readMembers read members = .error error ↔
      ∃ before name value after, members = before ++ (name, value) :: after ∧
        (∀ member ∈ before, ∃ found, read member.1 member.2 = .ok found) ∧
        read name value = .error error := by
  induction members with
  | nil => simp [readMembers]
  | cons member rest ih =>
      obtain ⟨name, value⟩ := member
      have hunfold : readMembers read ((name, value) :: rest) = .error error ↔
          read name value = .error error ∨
            ∃ first, read name value = .ok first ∧ readMembers read rest = .error error := by
        rw [readMembers, bind_eq_error_iff]
        refine or_congr_right (exists_congr fun first => and_congr_right fun _ => ?_)
        refine bind_eq_error_iff.trans (or_iff_left ?_)
        rintro ⟨_, _, ⟨⟩⟩
      rw [hunfold, ih]
      constructor
      · rintro (herror | ⟨first, hfirst, before, name', value', after, rfl, hbefore, herror⟩)
        · exact ⟨[], name, value, rest, rfl, List.forall_mem_nil _, herror⟩
        · exact ⟨(name, value) :: before, name', value', after, rfl,
            List.forall_mem_cons.mpr ⟨⟨first, hfirst⟩, hbefore⟩, herror⟩
      · rintro ⟨_ | ⟨first, before⟩, name', value', after, heq, hbefore, herror⟩
        · cases heq
          exact .inl herror
        · cases heq
          obtain ⟨⟨found, hfound⟩, hbefore⟩ := List.forall_mem_cons.mp hbefore
          exact .inr ⟨found, hfound, before, name', value', after, rfl, hbefore, herror⟩

/-- A field that is read stands in the document as an object, whose members it has, each name
once. -/
theorem get?_of_uniqueField {members : List (String × Data)} {name : String}
    {fields : { fields : List (String × Data) // (Members.names fields).Nodup }}
    (h : uniqueField members name = .ok fields) :
    ∃ listed, Members.get? members name = some (.object listed) ∧
      fields.val = Members.ofList listed := by
  obtain ⟨value, hvalue, h⟩ := bind_eq_ok_iff.mp h
  have hget := get?_of_requiredField hvalue
  cases value with
  | object listed =>
      cases h
      exact ⟨listed, hget, rfl⟩
  | _ => cases h

/-- The members of a field that is read are those of a member of the document. -/
theorem mem_of_uniqueField {members : List (String × Data)} {name : String}
    {fields : { fields : List (String × Data) // (Members.names fields).Nodup }}
    (h : uniqueField members name = .ok fields) :
    ∃ listed, (name, .object listed) ∈ members ∧ ∀ member ∈ fields.val, member ∈ listed := by
  obtain ⟨listed, hget, hfields⟩ := get?_of_uniqueField h
  exact ⟨listed, Members.mem_of_get? hget, hfields ▸ Members.mem_of_mem_ofList⟩

/-- The calculations of a document whose layout is read are the members of one of its fields. -/
theorem listed_of_layout {value : Data} {layout : Layout} (h : Layout.read value = .ok layout) :
    ∃ members listed, value = .object members ∧
      Members.get? members "calculations" = some (.object listed) ∧
      layout.calculations = Members.ofList listed := by
  cases value with
  | object members =>
      obtain ⟨inputs, _, h⟩ := bind_eq_ok_iff.mp h
      obtain ⟨kinds, _, h⟩ := bind_eq_ok_iff.mp h
      obtain ⟨calculations, hcalculations, h⟩ := bind_eq_ok_iff.mp h
      obtain ⟨items, _, h⟩ := bind_eq_ok_iff.mp h
      obtain ⟨outputs, _, h⟩ := bind_eq_ok_iff.mp h
      cases h
      obtain ⟨listed, hget, hfields⟩ := get?_of_uniqueField hcalculations
      exact ⟨members, listed, rfl, hget, hfields⟩
  | _ => cases h

theorem calculations_of_layout {value : Data} {layout : Layout}
    (h : Layout.read value = .ok layout) :
    ∃ members listed, value = .object members ∧ ("calculations", .object listed) ∈ members ∧
      ∀ member ∈ layout.calculations, member ∈ listed := by
  obtain ⟨members, listed, rfl, hget, hlisted⟩ := listed_of_layout h
  exact ⟨members, listed, rfl, Members.mem_of_get? hget, hlisted ▸ Members.mem_of_mem_ofList⟩

/-- Each calculation of a scope that is read is an expression that is read. -/
theorem readCalculation_of_decode {machine : Machine} {value : Data} {scope : Scope}
    (h : decode machine value = .ok scope) {name : String} {e : Expr}
    (mem : (name, e) ∈ scope.calculations) :
    ∃ value, readCalculation machine name value = .ok e := by
  obtain ⟨layout, _, h⟩ := bind_eq_ok_iff.mp h
  obtain ⟨calculations, hcalculations, h⟩ := bind_eq_ok_iff.mp h
  cases h
  obtain ⟨value, _, hread⟩ := mem_of_readMembers hcalculations mem
  exact ⟨value, hread⟩

end Scope

end Rulebook
