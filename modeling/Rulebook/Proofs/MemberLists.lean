import Rulebook.Members

/-!
Members of lists that name their entries: which entries a name finds, and which ones
stay when a name is given a value.
-/

namespace Rulebook.Members

variable {α : Type}

theorem mem_of_get? {members : List (String × α)} {name : String} {value : α}
    (h : get? members name = some value) : (name, value) ∈ members := by
  induction members with
  | nil => cases h
  | cons member rest ih =>
      obtain ⟨key, first⟩ := member
      simp only [get?] at h
      split at h
      · next hkey =>
          cases hkey
          cases h
          exact List.mem_cons_self
      · exact List.mem_cons_of_mem _ (ih h)

theorem mem_put {members : List (String × α)} {name : String} {value : α}
    {member : String × α} (h : member ∈ put members name value) :
    member = (name, value) ∨ member ∈ members := by
  induction members with
  | nil => exact .inl (List.mem_singleton.mp h)
  | cons first rest ih =>
      simp only [put] at h
      split at h
      · next hkey =>
          cases hkey
          exact (List.mem_cons.mp h).imp_right (List.mem_cons_of_mem _)
      · rcases List.mem_cons.mp h with rfl | mem
        · exact .inr List.mem_cons_self
        · exact (ih mem).imp_right (List.mem_cons_of_mem _)

theorem mem_putAll {members updates : List (String × α)} {member : String × α}
    (h : member ∈ putAll members updates) : member ∈ updates ∨ member ∈ members := by
  induction updates generalizing members with
  | nil => exact .inr h
  | cons update rest ih =>
      rcases ih h with mem | mem
      · exact .inl (List.mem_cons_of_mem _ mem)
      · rcases mem_put mem with rfl | mem
        · exact .inl List.mem_cons_self
        · exact .inr mem

theorem mem_of_mem_ofList {listed : List (String × α)} :
    ∀ member ∈ ofList listed, member ∈ listed :=
  fun _ mem => (mem_putAll mem).resolve_right List.not_mem_nil

theorem get?_append (members rest : List (String × α)) (name : String) :
    get? (members ++ rest) name = (get? members name).or (get? rest name) := by
  induction members with
  | nil => rfl
  | cons member members ih =>
      obtain ⟨key, value⟩ := member
      simp only [List.cons_append, get?]
      split
      · rfl
      · exact ih

theorem get?_eq_none_iff {members : List (String × α)} {name : String} :
    get? members name = none ↔ name ∉ names members := by
  rw [mem_names_iff, Option.eq_none_iff_forall_ne_some, not_exists]

theorem put_ne_nil (members : List (String × α)) (name : String) (value : α) :
    put members name value ≠ [] := by
  cases members with
  | nil => exact List.cons_ne_nil _ _
  | cons member rest =>
      simp only [put]
      split
      · exact List.cons_ne_nil _ _
      · exact List.cons_ne_nil _ _

theorem put_append {members : List (String × α)} {name : String} (h : name ∉ names members)
    (rest : List (String × α)) (value : α) :
    put (members ++ rest) name value = members ++ put rest name value := by
  induction members with
  | nil => rfl
  | cons member members ih =>
      rw [names_cons, List.mem_cons, not_or] at h
      rw [List.cons_append, put, if_neg (Ne.symm h.1), ih h.2, List.cons_append]

/-- A name that is not listed yet comes behind the others. -/
theorem put_of_not_mem {members : List (String × α)} {name : String} (h : name ∉ names members)
    (value : α) : put members name value = members ++ [(name, value)] := by
  have hput := put_append h [] value
  rw [List.append_nil] at hput
  exact hput

/-- The name at the end is given another value there. -/
theorem put_concat {members : List (String × α)} {name : String} (h : name ∉ names members)
    (value value' : α) :
    put (members ++ [(name, value)]) name value' = members ++ [(name, value')] := by
  rw [put_append h, put, if_pos rfl]

theorem not_mem_of_nodup {members rest : List (String × α)} {name : String} {value : α}
    (h : (names (members ++ (name, value) :: rest)).Nodup) : name ∉ names members := by
  rw [names_append, List.nodup_append] at h
  exact fun mem => h.2.2 name mem name (by simp) rfl

theorem get?_concat {members : List (String × α)} {name : String} (h : name ∉ names members)
    (value : α) : get? (members ++ [(name, value)]) name = some value := by
  rw [get?_append, get?_eq_none_iff.mpr h, Option.none_or, get?, if_pos rfl]

/-- A name that is listed once has the value listed with it. -/
theorem get?_eq_some_iff {members : List (String × α)} (h : (names members).Nodup)
    {name : String} {value : α} : get? members name = some value ↔ (name, value) ∈ members := by
  induction members with
  | nil => simp [get?]
  | cons member rest ih =>
      obtain ⟨key, first⟩ := member
      obtain ⟨hfirst, hrest⟩ := List.nodup_cons.mp h
      by_cases hkey : key = name
      · subst hkey
        have hnot : (key, value) ∉ rest := fun mem => hfirst (List.mem_map.mpr ⟨_, mem, rfl⟩)
        simp [get?, hnot, eq_comm]
      · simp [get?, hkey, Ne.symm hkey, ih hrest]

/-- Values that are related are both missing or both there. -/
theorem rel_cases {β : Type} {related : α → β → Prop} {found : Option α} {found' : Option β}
    (h : Option.Rel related found found') :
    (found = none ∧ found' = none) ∨
      ∃ value value', found = some value ∧ found' = some value' ∧ related value value' := by
  cases h with
  | none => exact .inl ⟨rfl, rfl⟩
  | some h => exact .inr ⟨_, _, rfl, rfl, h⟩

end Rulebook.Members
