/-!
Named values in order of first appearance: members of an object, entries of a
context, files of a directory. `put` keeps the place of a name it replaces, so
`ofList` lists every name once, with the value given last.

`sortedNames` is the canonical list of a set of names: each once, by code points.
-/

namespace Rulebook

/-! ### Sets of names -/

/-- Insert a name into a sorted list, unless it is listed already. -/
def insertName (name : String) : List String → List String
  | [] => [name]
  | first :: rest =>
    if name < first then name :: first :: rest
    else if name = first then first :: rest
    else first :: insertName name rest

/-- The names that occur, each once, in code point order. -/
def sortedNames (names : List String) : List String :=
  names.foldr insertName []

@[simp] theorem mem_insertName {name other : String} {names : List String} :
    other ∈ insertName name names ↔ other = name ∨ other ∈ names := by
  induction names with
  | nil => simp [insertName]
  | cons first rest ih =>
    simp only [insertName]
    split
    · simp
    · split <;> simp_all [or_left_comm]

/-- A sorted list of names is its own canonical list. -/
theorem sortedNames_of_pairwise {names : List String} (h : names.Pairwise (· < ·)) :
    sortedNames names = names := by
  induction names with
  | nil => rfl
  | cons first rest ih =>
    obtain ⟨hfirst, hrest⟩ := List.pairwise_cons.mp h
    have hinsert : insertName first rest = first :: rest := by
      cases rest with
      | nil => rfl
      | cons second rest => exact if_pos (hfirst second List.mem_cons_self)
    calc sortedNames (first :: rest)
      _ = insertName first (sortedNames rest) := rfl
      _ = first :: rest := by rw [ih hrest, hinsert]

@[simp] theorem mem_sortedNames {name : String} {names : List String} :
    name ∈ sortedNames names ↔ name ∈ names := by
  induction names with
  | nil => simp [sortedNames]
  | cons first rest ih =>
    rw [List.mem_cons, ← ih]
    exact mem_insertName

theorem pairwise_insertName {name : String} {names : List String}
    (h : names.Pairwise (· < ·)) : (insertName name names).Pairwise (· < ·) := by
  induction names with
  | nil => simp [insertName]
  | cons first rest ih =>
    obtain ⟨hfirst, hrest⟩ := List.pairwise_cons.mp h
    simp only [insertName]
    split
    · rename_i hlt
      refine List.pairwise_cons.mpr ⟨fun other hother => ?_, h⟩
      rcases List.mem_cons.mp hother with rfl | hmem
      · exact hlt
      · exact String.lt_trans hlt (hfirst other hmem)
    · rename_i hnot
      split
      · exact h
      · rename_i hne
        have hlt : first < name := by
          rcases String.le_total name first with hle | hle
          · exact absurd (String.le_antisymm hle (String.not_lt.mp hnot)) hne
          · exact String.not_le.mp fun hle' => hne (String.le_antisymm hle' hle)
        refine List.pairwise_cons.mpr ⟨fun other hother => ?_, ih hrest⟩
        rcases mem_insertName.mp hother with rfl | hmem
        · exact hlt
        · exact hfirst other hmem

theorem pairwise_sortedNames (names : List String) :
    (sortedNames names).Pairwise (· < ·) := by
  induction names with
  | nil => simp [sortedNames]
  | cons first rest ih => exact pairwise_insertName ih

/-! ### Named values -/

namespace Members

variable {α : Type}

/-- The value of a name: the first one listed. -/
def get? (members : List (String × α)) (name : String) : Option α :=
  match members with
  | [] => none
  | (key, value) :: rest => if key = name then some value else get? rest name

/-- Give a name a value: in place if the name is listed, at the end if not. -/
def put (members : List (String × α)) (name : String) (value : α) : List (String × α) :=
  match members with
  | [] => [(name, value)]
  | (key, old) :: rest =>
    if key = name then (key, value) :: rest else (key, old) :: put rest name value

/-- Give several names their values, in order. -/
def putAll (members updates : List (String × α)) : List (String × α) :=
  updates.foldl (fun acc update => put acc update.1 update.2) members

/-- The list that gives every name once. -/
def ofList (members : List (String × α)) : List (String × α) :=
  putAll [] members

/-- Take a name out. -/
def erase (members : List (String × α)) (name : String) : List (String × α) :=
  members.filter (fun member => !decide (member.1 = name))

/-- Whether a name is listed. -/
def has (members : List (String × α)) (name : String) : Bool :=
  (get? members name).isSome

/-- The names, in order. -/
def names (members : List (String × α)) : List String :=
  members.map (·.1)

/-- The names that are listed more than once, sorted. -/
def repeated (members : List (String × α)) : List String :=
  sortedNames ((names members).filter fun name => decide (1 < (names members).count name))

@[simp] theorem names_nil : names ([] : List (String × α)) = [] := rfl

@[simp] theorem names_cons (member : String × α) (rest : List (String × α)) :
    names (member :: rest) = member.1 :: names rest := rfl

@[simp] theorem names_append (members rest : List (String × α)) :
    names (members ++ rest) = names members ++ names rest :=
  List.map_append

@[simp] theorem names_map {β : Type} (f : α → β) (members : List (String × α)) :
    names (members.map fun (name, value) => (name, f value)) = names members := by
  simp [names, Function.comp_def]

@[simp] theorem get?_nil (name : String) : get? ([] : List (String × α)) name = none := rfl

@[simp] theorem get?_cons_self (name : String) (value : α) (rest : List (String × α)) :
    get? ((name, value) :: rest) name = some value :=
  if_pos rfl

/-- The names are those that have a value. -/
theorem mem_names_iff {members : List (String × α)} {name : String} :
    name ∈ names members ↔ ∃ value, get? members name = some value := by
  induction members with
  | nil => simp
  | cons member rest ih =>
    obtain ⟨key, value⟩ := member
    simp only [names_cons, List.mem_cons, get?]
    by_cases hkey : key = name
    · simp [hkey]
    · simp [ih, hkey, Ne.symm hkey]

theorem mem_names_put {members : List (String × α)} {name other : String} {value : α} :
    other ∈ names (put members name value) ↔ other = name ∨ other ∈ names members := by
  induction members with
  | nil => simp [put, names]
  | cons member rest ih =>
    simp only [put]
    split
    · simp_all
    · simp [ih, or_left_comm]

theorem nodup_names_put {members : List (String × α)} {name : String} {value : α}
    (h : (names members).Nodup) : (names (put members name value)).Nodup := by
  induction members with
  | nil => simp [put, names]
  | cons member rest ih =>
    obtain ⟨hfirst, hrest⟩ := List.nodup_cons.mp h
    simp only [put]
    split
    · exact h
    · rename_i hne
      refine List.nodup_cons.mpr ⟨fun hmem => ?_, ih hrest⟩
      rcases mem_names_put.mp hmem with heq | hmem
      · exact hne heq
      · exact hfirst hmem

theorem nodup_names_putAll {members : List (String × α)} (updates : List (String × α))
    (h : (names members).Nodup) : (names (putAll members updates)).Nodup := by
  induction updates generalizing members with
  | nil => exact h
  | cons update rest ih => exact ih (nodup_names_put h)

theorem nodup_names_ofList (members : List (String × α)) : (names (ofList members)).Nodup :=
  nodup_names_putAll members List.nodup_nil

theorem get?_put (members : List (String × α)) (name other : String) (value : α) :
    get? (put members name value) other =
      if name = other then some value else get? members other := by
  induction members with
  | nil => rfl
  | cons member rest ih =>
    obtain ⟨key, old⟩ := member
    by_cases hkey : key = name
    · subst hkey
      simp only [put, get?, if_true]
      split <;> rfl
    · simp only [put, if_neg hkey, get?, ih]
      by_cases hother : key = other
      · subst hother
        rw [if_pos rfl, if_pos rfl, if_neg fun heq => hkey heq.symm]
      · simp only [if_neg hother]

/-- A name that is not listed yet comes behind the others. -/
theorem put_of_nodup {members rest : List (String × α)} {name : String} {value : α}
    (h : (names (members ++ (name, value) :: rest)).Nodup) :
    put members name value = members ++ [(name, value)] := by
  induction members with
  | nil => rfl
  | cons member members ih =>
    obtain ⟨hfirst, hrest⟩ := List.nodup_cons.mp h
    have hne : ¬ member.1 = name := by
      rintro rfl
      exact hfirst (by simp)
    simp only [put, if_neg hne, List.cons_append, ih hrest]

/-- Names that are not listed yet come behind the others, in order. -/
theorem putAll_of_nodup {members updates : List (String × α)}
    (h : (names (members ++ updates)).Nodup) : putAll members updates = members ++ updates := by
  induction updates generalizing members with
  | nil => exact (List.append_nil members).symm
  | cons update rest ih =>
    have hput : put members update.1 update.2 = members ++ [update] := put_of_nodup h
    rw [List.append_cons] at h
    calc putAll members (update :: rest)
      _ = putAll (put members update.1 update.2) rest := rfl
      _ = putAll (members ++ [update]) rest := by rw [hput]
      _ = members ++ [update] ++ rest := ih h
      _ = members ++ update :: rest := (List.append_cons members update rest).symm

theorem get?_putAll_of_not_mem {members updates : List (String × α)} {name : String}
    (h : name ∉ names updates) : get? (putAll members updates) name = get? members name := by
  induction updates generalizing members with
  | nil => rfl
  | cons update rest ih =>
    simp only [names_cons, List.mem_cons, not_or] at h
    exact (ih h.2).trans ((get?_put _ _ _ _).trans (if_neg fun heq => h.1 heq.symm))

theorem get?_putAll_of_mem {members updates : List (String × α)} {name : String} {value : α}
    (hnodup : (names updates).Nodup) (h : (name, value) ∈ updates) :
    get? (putAll members updates) name = some value := by
  induction updates generalizing members with
  | nil => cases h
  | cons update rest ih =>
    obtain ⟨hfirst, hrest⟩ := List.nodup_cons.mp hnodup
    rcases List.mem_cons.mp h with rfl | hmem
    · exact (get?_putAll_of_not_mem hfirst).trans ((get?_put _ _ _ _).trans (if_pos rfl))
    · exact ih hrest hmem

end Members

end Rulebook
