import Rulebook.Proofs.Respelling
import Rulebook.Proofs.ScopeDocument
import Rulebook.Proofs.TomlInline

/-!
Tables of TOML that are read header by header.

A table is read with its plain members first and those under headers behind them, and
says the same (`arranged`, `sameMap_arranged`). The keys of a header lead to the place that
the table is filled into (`LeadsTo`). Every mark that a document keeps of what was read is
at a header that was read or below it (`Document.Within`), so nothing stands in the way of
the headers of other keys (`Document.Free`).
-/

namespace Rulebook.Toml

variable {rest : List Char}

/-! ### Tables as they are read -/

/-- The members of a table that are written in its front. -/
def plain (members : List (String × Data)) : List (String × Data) :=
  members.filter fun member => !hasHeader member.2

mutual

/-- A value as it is read from what was written under headers: plain members come first. -/
def arranged : Data → Data
  | .object members => .object (plain members ++ arrangedTables members)
  | .array items => if breaksUp items then .array (arrangedItems items) else .array items
  | value => value

/-- The members of a table that are written under headers. -/
def arrangedTables : List (String × Data) → List (String × Data)
  | [] => []
  | (name, value) :: members =>
    if hasHeader value then (name, arranged value) :: arrangedTables members
    else arrangedTables members

/-- The items of an array that are written under headers. -/
def arrangedItems : List Data → List Data
  | [] => []
  | item :: items => arranged item :: arrangedItems items

end

/-- Every name stands either in front or under a header. -/
theorem perm_names_arranged (members : List (String × Data)) :
    (Members.names (plain members ++ arrangedTables members)).Perm (Members.names members) := by
  induction members with
  | nil => exact .refl _
  | cons member members ih =>
      obtain ⟨name, value⟩ := member
      simp only [Members.names_append, plain] at ih ⊢
      cases hheader : hasHeader value with
      | true =>
          simp only [arrangedTables, hheader, List.filter_cons, Bool.not_true, Bool.false_eq_true,
            if_false, if_true, Members.names_cons]
          exact List.perm_middle.trans (ih.cons name)
      | false =>
          simp only [arrangedTables, hheader, List.filter_cons, Bool.not_false, Bool.false_eq_true,
            if_false, if_true, Members.names_cons, List.cons_append]
          exact ih.cons name

theorem nodup_arranged {members : List (String × Data)} (h : (Members.names members).Nodup) :
    (Members.names (plain members ++ arrangedTables members)).Nodup :=
  (perm_names_arranged members).nodup_iff.mpr h

mutual

/-- A value says the same as it is read. -/
theorem sameMap_arranged {value : Data} (h : value.Tabular) :
    Data.SameMap value (arranged value) := by
  match value with
  | .bool b => exact .refl _
  | .int n => exact .refl _
  | .float x => exact .refl _
  | .string s => exact .refl _
  | .array items =>
      rw [arranged]
      split
      · exact .array (forall₂_arrangedItems h)
      · exact .refl _
  | .object members =>
      rw [arranged]
      exact .object fun name _ => rel_arranged h.1 h.2 name

theorem forall₂_arrangedItems {items : List Data} (h : Data.ItemsTabular items) :
    List.Forall₂ Data.SameMap items (arrangedItems items) := by
  match items with
  | [] => exact .nil
  | item :: items => exact .cons (sameMap_arranged h.1) (forall₂_arrangedItems h.2)

/-- Every name of a table finds what says the same. -/
theorem rel_arranged {members : List (String × Data)} (hnames : (Members.names members).Nodup)
    (h : Data.MembersTabular members) (name : String) :
    Option.Rel Data.SameMap (Members.get? members name)
      (Members.get? (plain members ++ arrangedTables members) name) := by
  match members with
  | [] => exact .none
  | (first, value) :: members =>
      obtain ⟨hvalue, hmembers⟩ := h
      obtain ⟨hfirst, hnames⟩ := List.nodup_cons.mp hnames
      have hrest := rel_arranged hnames hmembers name
      have hsame := sameMap_arranged hvalue
      rw [Members.get?_append] at hrest ⊢
      cases hheader : hasHeader value with
      | true =>
          simp only [plain, arrangedTables, hheader, List.filter_cons, Bool.not_true,
            Bool.false_eq_true, if_false, if_true, Members.get?] at hrest ⊢
          split
          · next heq =>
              subst heq
              have hplain : Members.get? (plain members) first = none := by
                refine Members.get?_eq_none_iff.mpr fun mem => hfirst ?_
                exact (List.filter_sublist.map _).subset mem
              rw [plain] at hplain
              rw [hplain]
              exact .some hsame
          · exact hrest
      | false =>
          simp only [plain, arrangedTables, hheader, List.filter_cons, Bool.not_false,
            Bool.false_eq_true, if_false, if_true, Members.get?] at hrest ⊢
          split
          · exact .some (.refl value)
          · exact hrest

end

/-! ### Places of tables -/

section Places

variable {path : List String} {fill place : List (String × Data) → List (String × Data)}
  {table : List (String × Data)} {key : String}

theorem changeAt_append (throughArrays : Bool)
    (change : List (String × Data) → Except Fault (List (String × Data)))
    (keys keys' : List String) (table : List (String × Data)) :
    changeAt throughArrays change (keys ++ keys') table =
      changeAt throughArrays (changeAt throughArrays change keys') keys table := by
  induction keys generalizing table with
  | nil => rfl
  | cons key keys ih => simp only [List.cons_append, changeAt, ih]

/-- A change that leaves no table empty. -/
def LeavesFull (change : List (String × Data) → Except Fault (List (String × Data))) : Prop :=
  ∀ table table', change table = .ok table' → table' ≠ []

theorem leavesFull_changeAt (throughArrays : Bool)
    (change : List (String × Data) → Except Fault (List (String × Data))) (key : String)
    (keys : List String) : LeavesFull (changeAt throughArrays change (key :: keys)) := by
  intro table table' h
  simp only [changeAt] at h
  split at h
  · obtain ⟨inner, _, h⟩ := bind_eq_ok_iff.mp h
    cases h
    exact Members.put_ne_nil _ _ _
  · obtain ⟨inner, _, h⟩ := bind_eq_ok_iff.mp h
    cases h
    exact Members.put_ne_nil _ _ _
  · split at h
    · obtain ⟨inner, _, h⟩ := bind_eq_ok_iff.mp h
      cases h
      exact Members.put_ne_nil _ _ _
    · cases h
  · cases h

/-- Keys lead to the place that a table is filled into. A table that would be left empty
there may be missing. -/
def LeadsTo (path : List String) (fill : List (String × Data) → List (String × Data)) : Prop :=
  ∀ change, LeavesFull change → ∀ table,
    changeAt true change path (fill table) = (change table).map fill

theorem leadsTo_nil : LeadsTo [] id := by
  intro change _ table
  rw [changeAt, id]
  cases change table <;> rfl

theorem LeadsTo.comp (h : LeadsTo path fill) (hplace : LeadsTo [key] place) :
    LeadsTo (path ++ [key]) fun inner => fill (place inner) := by
  intro change hfull inner
  rw [changeAt_append, h _ (leavesFull_changeAt true change key []), hplace change hfull]
  cases change inner <;> rfl

/-- A key leads to the table at the end that has its name. -/
theorem leadsTo_member (h : key ∉ Members.names table) :
    LeadsTo [key] fun inner => table ++ [(key, .object inner)] := by
  intro change _ inner
  simp only [changeAt, Members.get?_concat h]
  cases change inner with
  | error error => rfl
  | ok inner' => exact congrArg Except.ok (Members.put_concat h _ _)

/-- A key leads to the table that is made when it is first filled. -/
theorem leadsTo_missing (h : key ∉ Members.names table) :
    LeadsTo [key] fun inner =>
      if inner.isEmpty then table else table ++ [(key, .object inner)] := by
  intro change hfull inner
  cases inner with
  | nil =>
      simp only [List.isEmpty_nil, if_true, changeAt, Members.get?_eq_none_iff.mpr h]
      cases hchange : change [] with
      | error error => rfl
      | ok inner' =>
          have hne : inner'.isEmpty = false := by
            rw [List.isEmpty_eq_false_iff]
            exact hfull [] inner' hchange
          simp only [Except.map, hne, Bool.false_eq_true, if_false]
          exact congrArg Except.ok (Members.put_of_not_mem h _)
  | cons member inner =>
      have hmember := leadsTo_member h change hfull (member :: inner)
      simp only [List.isEmpty_cons, Bool.false_eq_true, if_false, hmember]
      cases hchange : change (member :: inner) with
      | error error => rfl
      | ok inner' =>
          have hne : inner'.isEmpty = false := by
            rw [List.isEmpty_eq_false_iff]
            exact hfull _ inner' hchange
          simp only [Except.map, hne, Bool.false_eq_true, if_false]

/-- A key leads to the last item of the array at the end that has its name. -/
theorem leadsTo_item (h : key ∉ Members.names table) (done : List Data) :
    LeadsTo [key] fun inner => table ++ [(key, .array (done ++ [.object inner]))] := by
  intro change _ inner
  simp only [changeAt, Members.get?_concat h, List.getLast?_concat, List.dropLast_concat]
  cases change inner with
  | error error => rfl
  | ok inner' => exact congrArg Except.ok (Members.put_concat h _ _)

end Places

/-! ### Marks -/

theorem underAny_eq_false_iff {marked : List (List String)} {key : List String} :
    underAny marked key = false ↔ ∀ other ∈ marked, ¬ other <+: key := by
  simp [underAny]

theorem not_concat_prefix {path : List String} {key : String} : ¬ path ++ [key] <+: path := by
  intro h
  have hlength := h.length_le
  rw [List.length_append, List.length_singleton] at hlength
  omega

namespace Document

variable {d d' d'' : Document} {path : List String} {key other : String}
  {fill : List (String × Data) → List (String × Data)} {table : List (String × Data)}

/-- No table was opened at a path or below it, and no value was written in place there,
below it or on the way to it. -/
structure Free (d : Document) (path : List String) : Prop where
  opened : ∀ marked ∈ d.opened, ¬ path <+: marked
  below : ∀ marked ∈ d.closed, ¬ path <+: marked
  above : ∀ marked ∈ d.closed, ¬ marked <+: path

/-- From one document to a later one, marks were added at a path or below it only. -/
structure Within (path : List String) (d d' : Document) : Prop where
  opened : ∀ marked ∈ d'.opened, marked ∈ d.opened ∨ path <+: marked
  closed : ∀ marked ∈ d'.closed, marked ∈ d.closed ∨ (path <+: marked ∧ marked ≠ path)
  pending : d'.pending = []

theorem Within.refl (path : List String) (h : d.pending = []) : Within path d d :=
  ⟨fun _ => .inl, fun _ => .inl, h⟩

theorem Within.trans (h : Within path d d') (h' : Within path d' d'') : Within path d d'' := by
  refine ⟨fun marked mem => ?_, fun marked mem => ?_, h'.pending⟩
  · exact (h'.opened marked mem).elim (h.opened marked) .inr
  · exact (h'.closed marked mem).elim (h.closed marked) .inr

theorem Within.of_child (h : Within (path ++ [key]) d d') : Within path d d' := by
  have hbelow : path <+: path ++ [key] := List.prefix_append path [key]
  refine ⟨fun marked mem => ?_, fun marked mem => ?_, h.pending⟩
  · exact (h.opened marked mem).imp_right hbelow.trans
  · refine (h.closed marked mem).imp_right fun ⟨hmarked, _⟩ => ⟨hbelow.trans hmarked, ?_⟩
    rintro rfl
    exact not_concat_prefix hmarked

theorem Free.child (h : d.Free path) (key : String) : d.Free (path ++ [key]) := by
  have hbelow : path <+: path ++ [key] := List.prefix_append path [key]
  refine ⟨fun marked mem hmarked => ?_, fun marked mem hmarked => ?_, fun marked mem hmarked => ?_⟩
  · exact h.opened marked mem (hbelow.trans hmarked)
  · exact h.below marked mem (hbelow.trans hmarked)
  · rcases List.prefix_or_prefix_of_prefix hmarked hbelow with hmarked | hmarked
    · exact h.above marked mem hmarked
    · exact h.below marked mem hmarked

/-- What is marked below one key of a table leaves the other keys free. -/
theorem Free.sibling (h : d.Free (path ++ [key])) (hwithin : Within (path ++ [other]) d d')
    (hne : key ≠ other) : d'.Free (path ++ [key]) := by
  have hapart : ∀ marked, path ++ [other] <+: marked →
      ¬ path ++ [key] <+: marked ∧ ¬ marked <+: path ++ [key] := by
    have hkeys : ¬ path ++ [other] <+: path ++ [key] := by
      rw [List.prefix_append_right_inj]
      simpa using Ne.symm hne
    have hkeys' : ¬ path ++ [key] <+: path ++ [other] := by
      rw [List.prefix_append_right_inj]
      simpa using hne
    refine fun marked hmarked => ⟨fun hmarked' => ?_, fun hmarked' => ?_⟩
    · exact (List.prefix_or_prefix_of_prefix hmarked hmarked').elim hkeys hkeys'
    · exact hkeys (hmarked.trans hmarked')
  refine ⟨fun marked mem => ?_, fun marked mem => ?_, fun marked mem => ?_⟩
  · exact (hwithin.opened marked mem).elim (h.opened marked) fun hmarked =>
      (hapart marked hmarked).1
  · exact (hwithin.closed marked mem).elim (h.below marked) fun hmarked =>
      (hapart marked hmarked.1).1
  · exact (hwithin.closed marked mem).elim (h.above marked) fun hmarked =>
      (hapart marked hmarked.1).2

/-- Marks at a path or below it do not stand on the way to it. -/
theorem Within.above (hwithin : Within path d d') (h : ∀ marked ∈ d.closed, ¬ marked <+: path) :
    ∀ marked ∈ d'.closed, ¬ marked <+: path := by
  intro marked mem hmarked
  rcases hwithin.closed marked mem with mem | ⟨hbelow, hne⟩
  · exact h marked mem hmarked
  · exact hne (hmarked.eq_of_length_le hbelow.length_le)

/-! ### Statements -/

/-- The document right behind the header of a table at a path. -/
structure AtTable (d : Document) (path : List String)
    (fill : List (String × Data) → List (String × Data)) : Prop where
  leads : LeadsTo path fill
  header : d.header = path
  root : d.root = fill []
  opened : ∀ marked ∈ d.opened, path <+: marked → marked = path
  below : ∀ marked ∈ d.closed, ¬ path <+: marked
  above : ∀ marked ∈ d.closed, ¬ marked <+: path
  pending : d.pending = []

theorem atTable_empty : empty.AtTable [] id :=
  ⟨leadsTo_nil, rfl, rfl, nofun, nofun, nofun, rfl⟩

/-- A table is opened where nothing is in the way. -/
theorem openTable_of_free (h : d.Free (path ++ [key])) (hleads : LeadsTo path fill)
    (hroot : d.root = fill table) (hkey : key ∉ Members.names table) (hpending : d.pending = []) :
    ∃ d', d.openTable (path ++ [key]) = .ok d' ∧
      d'.AtTable (path ++ [key]) (fun inner => fill (table ++ [(key, .object inner)])) ∧
      Within (path ++ [key]) d d' := by
  have hopened : d.opened.contains (path ++ [key]) = false := by
    rw [List.contains_eq_mem, decide_eq_false_iff_not]
    exact fun mem => h.opened _ mem (List.prefix_refl _)
  have hchange : changeAt true .ok (path ++ [key]) d.root =
      .ok (fill (table ++ [(key, .object [])])) := by
    rw [changeAt_append, hroot, hleads _ (leavesFull_changeAt true .ok key [])]
    simp only [changeAt, Members.get?_eq_none_iff.mpr hkey]
    exact congrArg (fun table => Except.ok (fill table)) (Members.put_of_not_mem hkey _)
  refine ⟨{ d with root := fill (table ++ [(key, .object [])]), header := path ++ [key],
                   opened := (path ++ [key]) :: d.opened }, ?_, ?_, ?_⟩
  · rw [openTable, hopened, underAny_eq_false_iff.mpr h.above, hchange]
    rfl
  · refine ⟨hleads.comp (leadsTo_member hkey), rfl, rfl, ?_, h.below, h.above, hpending⟩
    intro marked mem hmarked
    rcases List.mem_cons.mp mem with rfl | mem
    · rfl
    · exact absurd hmarked (h.opened marked mem)
  · refine ⟨fun marked mem => ?_, fun _ => .inl, hpending⟩
    rcases List.mem_cons.mp mem with rfl | mem
    · exact .inr (List.prefix_refl _)
    · exact .inl mem

/-- A table with the items of an array under a name, once there are some. -/
def withItems (table : List (String × Data)) (key : String) (done : List Data) :
    List (String × Data) :=
  if done.isEmpty then table else table ++ [(key, .array done)]

theorem withItems_concat (table : List (String × Data)) (key : String) (done : List Data)
    (item : Data) :
    withItems table key (done ++ [item]) = table ++ [(key, .array (done ++ [item]))] := by
  simp [withItems]

theorem addItem_withItems (hkey : key ∉ Members.names table) (done : List Data) :
    addItem key (withItems table key done) = .ok (withItems table key (done ++ [.object []])) := by
  rw [withItems_concat]
  cases done with
  | nil =>
      simp only [withItems, List.isEmpty_nil, if_true, addItem, Members.get?_eq_none_iff.mpr hkey,
        Members.put_of_not_mem hkey, List.nil_append]
  | cons item done =>
      simp only [withItems, List.isEmpty_cons, Bool.false_eq_true, if_false, addItem,
        Members.get?_concat hkey, Members.put_concat hkey]

theorem leavesFull_addItem (name : String) : LeavesFull (addItem name) := by
  intro table table' h
  unfold addItem at h
  split at h <;> cases h
  · exact Members.put_ne_nil _ _ _
  · exact Members.put_ne_nil _ _ _

/-- An item of an array is opened, and what was marked in the item before is dropped. -/
theorem openItem_of_above (h : ∀ marked ∈ d.closed, ¬ marked <+: path ++ [key])
    (hleads : LeadsTo path fill) {done : List Data}
    (hroot : d.root = fill (withItems table key done))
    (hkey : key ∉ Members.names table) (hpending : d.pending = []) :
    ∃ d', d.openItem (path ++ [key]) = .ok d' ∧
      d'.AtTable (path ++ [key])
        (fun inner => fill (table ++ [(key, .array (done ++ [.object inner]))])) ∧
      Within (path ++ [key]) d d' := by
  have hchange : changeAt true (addItem key) path d.root =
      .ok (fill (table ++ [(key, .array (done ++ [.object []]))])) := by
    rw [hroot, hleads _ (leavesFull_addItem key), addItem_withItems hkey, withItems_concat]
    rfl
  refine ⟨{ d with
              root := fill (table ++ [(key, .array (done ++ [.object []]))])
              header := path ++ [key]
              opened := (path ++ [key]) ::
                d.opened.filter fun marked => !(path ++ [key]).isPrefixOf marked
              closed := d.closed.filter fun marked => !(path ++ [key]).isPrefixOf marked },
    ?_, ?_, ?_⟩
  · simp only [openItem, List.getLast?_concat, underAny_eq_false_iff.mpr h, Bool.false_eq_true,
      if_false, List.dropLast_concat, hchange]
    rfl
  · refine ⟨hleads.comp (leadsTo_item hkey done), rfl, rfl, ?_, ?_, ?_, hpending⟩
    · intro marked mem hmarked
      rcases List.mem_cons.mp mem with rfl | mem
      · rfl
      · simp only [List.mem_filter, Bool.not_eq_true', List.isPrefixOf_iff_prefix,
          Bool.eq_false_iff, ne_eq] at mem
        exact absurd hmarked mem.2
    · intro marked mem
      simp only [List.mem_filter, Bool.not_eq_true', List.isPrefixOf_iff_prefix,
        Bool.eq_false_iff, ne_eq] at mem
      exact mem.2
    · exact fun marked mem => h marked (List.mem_filter.mp mem).1
  · refine ⟨fun marked mem => ?_, fun marked mem => .inl (List.mem_filter.mp mem).1, hpending⟩
    rcases List.mem_cons.mp mem with rfl | mem
    · exact .inr (List.prefix_refl _)
    · exact .inl (List.mem_filter.mp mem).1

theorem leavesFull_addMember (taken : Fault) (name : String) (value : Data) :
    LeavesFull (addMember taken name value) := by
  intro table table' h
  unfold addMember at h
  split at h <;> cases h
  exact Members.put_ne_nil _ _ _

/-- From one document to a later one, pairs of some names were added to the table of the
last header. -/
structure Added (names : List String) (d d' : Document) : Prop where
  header : d'.header = d.header
  opened : d'.opened = d.opened
  pending : d'.pending = d.pending
  closed : ∀ marked ∈ d'.closed, marked ∈ d.closed ∨ ∃ name ∈ names, marked = d.header ++ [name]

theorem Added.refl (d : Document) : Added [] d d :=
  ⟨rfl, rfl, rfl, fun _ => .inl⟩

theorem Added.cons {names : List String} (h : Added [key] d d') (h' : Added names d' d'') :
    Added (key :: names) d d'' := by
  refine ⟨h'.header.trans h.header, h'.opened.trans h.opened, h'.pending.trans h.pending, ?_⟩
  intro marked mem
  rcases h'.closed marked mem with mem | ⟨name, hname, rfl⟩
  · rcases h.closed marked mem with mem | ⟨name, hname, rfl⟩
    · exact .inl mem
    · exact .inr ⟨name, List.mem_cons.mpr (.inl (List.mem_singleton.mp hname)), rfl⟩
  · exact .inr ⟨name, List.mem_cons_of_mem _ hname, by rw [h.header]⟩

/-- What is added below a header does not stand on the way to it. -/
theorem Added.above {names : List String} (h : Added names d d')
    (habove : ∀ marked ∈ d.closed, ¬ marked <+: d.header) :
    ∀ marked ∈ d'.closed, ¬ marked <+: d'.header := by
  intro marked mem hmarked
  rw [h.header] at hmarked
  rcases h.closed marked mem with mem | ⟨name, _, rfl⟩
  · exact habove marked mem hmarked
  · exact not_concat_prefix hmarked

/-- What is added to a table is marked below it. -/
theorem AtTable.within_of_added (h : d.AtTable path fill) {names : List String}
    (hadded : Added names d d') : Within path d d' := by
  refine ⟨?_, ?_, hadded.pending.trans h.pending⟩
  · intro marked mem
    rw [hadded.opened] at mem
    exact .inl mem
  · intro marked mem
    rcases hadded.closed marked mem with mem | ⟨name, _, rfl⟩
    · exact .inl mem
    · rw [h.header]
      exact .inr ⟨List.prefix_append path [name], by simp⟩

/-- What is added to a table leaves its other keys free. -/
theorem AtTable.free_of_added (h : d.AtTable path fill) {names : List String}
    (hadded : Added names d d') (hkey : key ∉ names) : d'.Free (path ++ [key]) := by
  have hbelow : path <+: path ++ [key] := List.prefix_append path [key]
  have hapart : ∀ name ∈ names, name ≠ key := by
    rintro name mem rfl
    exact hkey mem
  refine ⟨fun marked mem hmarked => ?_, fun marked mem hmarked => ?_, fun marked mem hmarked => ?_⟩
  · rw [hadded.opened] at mem
    rw [h.opened marked mem (hbelow.trans hmarked)] at hmarked
    exact not_concat_prefix hmarked
  · rcases hadded.closed marked mem with mem | ⟨name, hname, rfl⟩
    · exact h.below marked mem (hbelow.trans hmarked)
    · rw [h.header, List.prefix_append_right_inj] at hmarked
      exact hapart name hname (by simpa [eq_comm] using hmarked)
  · rcases hadded.closed marked mem with mem | ⟨name, hname, rfl⟩
    · rcases List.prefix_or_prefix_of_prefix hmarked hbelow with hmarked | hmarked
      · exact h.above marked mem hmarked
      · exact h.below marked mem hmarked
    · rw [h.header, List.prefix_append_right_inj] at hmarked
      exact hapart name hname (by simpa using hmarked)

/-- A pair of a new name is added to the table of the last header. -/
theorem addPair_of_not_mem (hleads : LeadsTo d.header fill) (hroot : d.root = fill table)
    (habove : ∀ marked ∈ d.closed, ¬ marked <+: d.header) (hkey : key ∉ Members.names table)
    (value : Data) :
    ∃ d', d.addPair [key] value = .ok d' ∧ d'.root = fill (table ++ [(key, value)]) ∧
      Added [key] d d' := by
  have hchange : changeAt true (addMember .valueOverwritten key value) d.header d.root =
      .ok (fill (table ++ [(key, value)])) := by
    rw [hroot, hleads _ (leavesFull_addMember _ key value), addMember_of_not_mem hkey]
    rfl
  refine ⟨{ d with
              root := fill (table ++ [(key, value)])
              closed := if value.isContainer then (d.header ++ [key]) :: d.closed else d.closed },
    ?_, rfl, rfl, rfl, rfl, ?_⟩
  · simp only [addPair, List.getLast?_singleton, List.dropLast_singleton, List.append_nil, hchange,
      underAny_eq_false_iff.mpr habove, keysOnTheWay]
    rfl
  · intro marked mem
    simp only at mem
    split at mem
    · rcases List.mem_cons.mp mem with rfl | mem
      · exact .inr ⟨key, List.mem_singleton_self key, rfl⟩
      · exact .inl mem
    · exact .inl mem

end Document

end Rulebook.Toml
