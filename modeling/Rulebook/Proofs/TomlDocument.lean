import Rulebook.Proofs.TomlTables

/-!
Documents of TOML are read as they were written.

The reader takes a document line by line (`Document.Advances`). The front of a table is
read into its place (`Document.AtTable.advances_writePlain`), and so are the tables below
it, by induction on the value that they are written for
(`Document.advances_writeHeaded`); what is found is the table as it is arranged
(`parse_text`).

A value that is written in place is read when it is not too deep. The tables under headers
take no room, so it would do to bound the values behind them; the bound is on the whole
(`hdepth`), which every part of it is below.
-/

namespace Rulebook.Toml

open Text

variable {stack : Stack} {rest : List Char}

namespace Document

variable {d d' d'' : Document} {cs mid : List Char}

/-! ### Lines -/

/-- From one document before a text, the reader comes to another before its rest. -/
def Advances (stack : Stack) (d : Document) (cs : List Char) (d' : Document)
    (rest : List Char) : Prop :=
  ∀ bound, cs.length < bound → ∃ bound', rest.length < bound' ∧
    d.scanLines stack bound cs = d'.scanLines stack bound' rest

theorem Advances.refl (d : Document) (cs : List Char) : d.Advances stack cs d cs :=
  fun bound hbound => ⟨bound, hbound, rfl⟩

theorem Advances.trans (first : d.Advances stack cs d' mid)
    (second : d'.Advances stack mid d'' rest) :
    d.Advances stack cs d'' rest := by
  intro bound hbound
  obtain ⟨bound', hbound', hfirst⟩ := first bound hbound
  obtain ⟨bound'', hbound'', hsecond⟩ := second bound' hbound'
  exact ⟨bound'', hbound'', hfirst.trans hsecond⟩

/-- A line with a statement is read. -/
theorem advances_line (h : d.scanStatement stack (skipBlanks cs) = .ok (d', '\n' :: rest))
    (hlength : rest.length < cs.length) : d.Advances stack cs d' rest := by
  intro bound hbound
  obtain ⟨bound, rfl⟩ : ∃ n, bound = n + 1 := ⟨bound - 1, by omega⟩
  have hend : skipBlanks ('\n' :: rest) = '\n' :: rest := rfl
  have hcomment : skipComment ('\n' :: rest) = .ok ('\n' :: rest) := rfl
  refine ⟨bound, by omega, ?_⟩
  rw [scanLines, h]
  simp only [ok_bind, hend, hcomment]

theorem advances_writeGap (d : Document) (started : Bool) (rest : List Char) :
    d.Advances stack (writeGap started rest) d rest := by
  cases started with
  | false => exact .refl d rest
  | true => exact advances_line rfl (Nat.lt_succ_self _)

theorem scanPair_writeKey (name : String) {value : Data} (h : value.Tabular)
    (hdepth : stack.most * value.depth ≤ stack.size) (rest : List Char) :
    scanPair stack (writeKey name (writeInline 0 value ('\n' :: rest))) =
      .ok ([name], value, '\n' :: rest) := by
  have hread := scanValue_writeInline h 0 ⟨'\n', rest, rfl, .inr (.inr rfl)⟩
    (length_le_writeKey name (writeInline 0 value ('\n' :: rest))) hdepth
  have hblanks : skipBlanks (' ' :: writeInline 0 value ('\n' :: rest)) =
      writeInline 0 value ('\n' :: rest) := (startsValue_writeInline h 0 _).skipBlanks_eq
  rw [scanPair, scanKey_writeKey]
  simp only [ok_bind, startsWith_cons, beq_self_eq_true, if_true, List.drop_one, List.tail_cons,
    hblanks, hread]
  rfl

/-- A line with a pair is read. -/
theorem advances_pair {name : String} {value : Data} (hvalue : value.Tabular)
    (hdepth : stack.most * value.depth ≤ stack.size) (h : d.addPair [name] value = .ok d') :
    d.Advances stack (writeKey name (writeInline 0 value ('\n' :: rest))) d' rest := by
  have hlength : rest.length < (writeKey name (writeInline 0 value ('\n' :: rest))).length :=
    Nat.le_trans (length_le_writeInline 0 value ('\n' :: rest)) (length_le_writeKey name _)
  have hpair := scanPair_writeKey name hvalue hdepth rest
  refine advances_line ?_ hlength
  rw [writeKey, skipBlanks_keyText]
  -- The first character of the key tells a pair from the other statements.
  obtain ⟨c, tail, htext, hc⟩ := exists_keyText name
  rw [writeKey, htext, List.cons_append] at hpair
  have hne : c ≠ '\n' ∧ c ≠ '#' ∧ c ≠ '[' := by
    refine ⟨?_, ?_, ?_⟩
    all_goals exact ne_of_startsKey hc rfl (by decide)
  have hstart : (isBare c || c == '"' || c == '\'') = true := by
    rcases hc with hc | rfl
    · simp [hc]
    · rfl
  rw [htext, List.cons_append, scanStatement]
  simp only [hne, beq_iff_eq, Bool.or_eq_true, decide_eq_true_eq, or_self, if_false, hstart,
    if_true]
  simp only [ok_bind, hpair, h]
  rfl

theorem settle_eq (h : d.pending = []) : d.settle = d := by
  obtain ⟨root, header, opened, pending, closed⟩ := d
  cases h
  rfl

theorem scanKey_header {path : List String} (hne : path ≠ []) (rest : List Char) :
    scanKey (skipBlanks (dotted path ++ (']' :: rest))) = .ok (path, ']' :: rest) := by
  obtain ⟨key, path, rfl⟩ := List.exists_cons_of_ne_nil hne
  have hblanks : skipBlanks (dotted (key :: path) ++ (']' :: rest)) =
      dotted (key :: path) ++ (']' :: rest) := by
    rw [dotted_cons, List.append_assoc, skipBlanks_keyText]
  have hbare : EndsBare (']' :: rest) := endsBare_cons rfl
  rw [hblanks, scanKey_dotted hbare nofun]
  rfl

/-- The header of a table is read. -/
theorem advances_header {path : List String} (hne : path ≠ []) (hpending : d.pending = [])
    (h : d.openTable path = .ok d') :
    d.Advances stack ('[' :: (dotted path ++ (']' :: '\n' :: rest))) d' rest := by
  have hheader : d.scanHeader (dotted path ++ (']' :: '\n' :: rest)) = .ok (d', '\n' :: rest) := by
    have hkey := scanKey_header hne ('\n' :: rest)
    obtain ⟨key, path, rfl⟩ := List.exists_cons_of_ne_nil hne
    obtain ⟨c, tail, htext, hc⟩ := exists_keyText key
    have hbracket : c ≠ '[' := ne_of_startsKey hc rfl (by decide)
    rw [dotted_cons, htext, List.append_assoc, List.cons_append] at hkey ⊢
    unfold scanHeader
    split
    · next heq => exact absurd (List.cons.inj heq).1 hbracket
    · simp only [ok_bind, hkey, h]
      rfl
  refine advances_line ?_ ?_
  · change d.settle.scanHeader _ = _
    rw [settle_eq hpending, hheader]
  · simp only [List.length_cons, List.length_append]
    omega

/-- The header of an array item is read. -/
theorem advances_itemHeader {path : List String} (hne : path ≠ []) (hpending : d.pending = [])
    (h : d.openItem path = .ok d') :
    d.Advances stack ('[' :: '[' :: (dotted path ++ (']' :: ']' :: '\n' :: rest))) d' rest := by
  have hheader : d.scanHeader ('[' :: (dotted path ++ (']' :: ']' :: '\n' :: rest))) =
      .ok (d', '\n' :: rest) := by
    rw [scanHeader, scanKey_header hne]
    simp only [ok_bind, h]
    rfl
  refine advances_line ?_ ?_
  · change d.settle.scanHeader ('[' :: (dotted path ++ (']' :: ']' :: '\n' :: rest))) = _
    rw [settle_eq hpending, hheader]
  · simp only [List.length_cons, List.length_append]
    omega

/-! ### The front of a table -/

section Front

variable {path : List String} {fill : List (String × Data) → List (String × Data)}

/-- The plain members of a table are added to it one by one. -/
theorem advances_writePlain {members : List (String × Data)} (h : Data.MembersTabular members)
    (hdepth : stack.most * Data.membersDepth members ≤ stack.size) {table : List (String × Data)}
    (hleads : LeadsTo d.header fill) (hroot : d.root = fill table)
    (habove : ∀ marked ∈ d.closed, ¬ marked <+: d.header)
    (hnames : (Members.names (table ++ plain members)).Nodup) (rest : List Char) :
    ∃ d', d.Advances stack (writePlain members rest) d' rest ∧
      d'.root = fill (table ++ plain members) ∧
      Added (Members.names (plain members)) d d' := by
  induction members generalizing d table with
  | nil =>
      refine ⟨d, .refl d rest, ?_, .refl d⟩
      rw [hroot]
      exact congrArg fill (List.append_nil table).symm
  | cons member members ih =>
      obtain ⟨name, value⟩ := member
      obtain ⟨hvalue, hmembers⟩ := h
      obtain ⟨hfirst, hothers⟩ := room_max_le_iff.mp hdepth
      cases hheader : hasHeader value with
      | true =>
          have hplain : plain ((name, value) :: members) = plain members := by
            simp [plain, hheader]
          rw [hplain] at hnames ⊢
          rw [writePlain, if_pos hheader]
          exact ih hmembers hothers hleads hroot habove hnames
      | false =>
          have hplain : plain ((name, value) :: members) = (name, value) :: plain members := by
            simp [plain, hheader]
          rw [hplain] at hnames ⊢
          obtain ⟨d', hpair, hroot', hadded⟩ := addPair_of_not_mem hleads hroot habove
            (Members.not_mem_of_nodup hnames) value
          rw [List.append_cons] at hnames ⊢
          rw [← hadded.header] at hleads
          obtain ⟨d'', hadvances, hroot'', hadded'⟩ := ih hmembers hothers hleads hroot'
            (hadded.above habove) hnames
          refine ⟨d'', ?_, hroot'', hadded.cons hadded'⟩
          rw [writePlain, if_neg (by rw [hheader]; exact Bool.false_ne_true)]
          exact (advances_pair hvalue hfirst hpair).trans hadvances

/-- The front of a table is read into its place, and the keys of the tables below it are
still free. -/
theorem AtTable.advances_writePlain (h : d.AtTable path fill) {members : List (String × Data)}
    (hmembers : Data.MembersTabular members)
    (hdepth : stack.most * Data.membersDepth members ≤ stack.size)
    (hnames : (Members.names members).Nodup) (rest : List Char) :
    ∃ d', d.Advances stack (writePlain members rest) d' rest ∧ d'.root = fill (plain members) ∧
      Within path d d' ∧
      ∀ key ∈ Members.names (arrangedTables members), d'.Free (path ++ [key]) := by
  have hleads := h.leads
  have habove := h.above
  have harranged := nodup_arranged hnames
  rw [Members.names_append, List.nodup_append] at harranged
  rw [← h.header] at hleads habove
  obtain ⟨d', hadvances, hroot, hadded⟩ := Document.advances_writePlain hmembers hdepth hleads
    h.root habove harranged.1 rest
  refine ⟨d', hadvances, hroot, h.within_of_added hadded, fun key mem => ?_⟩
  exact h.free_of_added hadded fun hname => harranged.2.2 key hname key mem rfl

end Front

/-! ### Tables under headers -/

theorem writeHeaded_of_plain {value : Data} (h : hasHeader value = false) (name : List Char)
    (started : Bool) (rest : List Char) : writeHeaded name started value rest = rest := by
  cases value with
  | object members => cases h
  | array items =>
      have hbreaks : breaksUp items = false := h
      rw [writeHeaded, hbreaks, if_neg Bool.false_ne_true]
  | null => rfl
  | moment m => rfl
  | bool b => rfl
  | int n => rfl
  | float x => rfl
  | string s => rfl

/-- A table without a front has tables below it, and nothing else. -/
theorem arranged_of_hasNoFront {members : List (String × Data)} (h : hasNoFront members = true) :
    plain members = [] ∧ arrangedTables members ≠ [] := by
  obtain ⟨hne, hall⟩ := Bool.and_eq_true_iff.mp h
  rw [List.all_eq_true] at hall
  refine ⟨?_, ?_⟩
  · rw [plain, List.filter_eq_nil_iff]
    intro member mem
    simp [hall member mem]
  · cases members with
    | nil => cases hne
    | cons member members =>
        rw [arrangedTables, if_pos (hall member List.mem_cons_self)]
        exact List.cons_ne_nil _ _

mutual

/-- What is written under headers for a value is read into the place of its key. -/
theorem advances_writeHeaded {value : Data} (h : value.Tabular)
    (hdepth : stack.most * value.depth ≤ stack.size) (hheader : hasHeader value = true)
    {d : Document} {path : List String} {key : String} {table : List (String × Data)}
    {fill : List (String × Data) → List (String × Data)} (hleads : LeadsTo path fill)
    (hroot : d.root = fill table) (hkey : key ∉ Members.names table)
    (hfree : d.Free (path ++ [key])) (hpending : d.pending = []) (started : Bool)
    (rest : List Char) :
    ∃ d', d.Advances stack (writeHeaded (dotted (path ++ [key])) started value rest) d' rest ∧
      d'.root = fill (table ++ [(key, arranged value)]) ∧ Within (path ++ [key]) d d' := by
  match value with
  | .null => cases hheader
  | .moment m => cases hheader
  | .bool b => cases hheader
  | .int n => cases hheader
  | .float x => cases hheader
  | .string s => cases hheader
  | .array items =>
      have hbreaks : breaksUp items = true := hheader
      obtain ⟨htables, _⟩ := Bool.and_eq_true_iff.mp hbreaks
      obtain ⟨hne, htables⟩ := Bool.and_eq_true_iff.mp htables
      rw [List.all_eq_true] at htables
      obtain ⟨d', hadvances, hroot', hwithin⟩ := advances_writeItemTables h
        (room_le_of_inside hdepth) htables hleads
        (show d.root = fill (withItems table key []) from hroot) hkey hfree.above hpending started
        rest
      refine ⟨d', ?_, ?_, hwithin⟩
      · rw [writeHeaded, if_pos hbreaks]
        exact hadvances
      · rw [hroot', arranged, if_pos hbreaks, List.nil_append, withItems]
        cases items with
        | nil => cases hne
        | cons item items => rfl
  | .object members =>
      obtain ⟨hnames, hmembers⟩ := h
      have hinside := room_le_of_inside hdepth
      have harranged := nodup_arranged hnames
      rw [writeHeaded]
      cases hfront : hasNoFront members with
      | true =>
          obtain ⟨hplain, hne⟩ := arranged_of_hasNoFront hfront
          rw [hplain, List.nil_append] at harranged
          have hempty : (arrangedTables members).isEmpty = false := by
            rw [List.isEmpty_eq_false_iff]
            exact hne
          obtain ⟨d', hadvances, hroot', hwithin⟩ := advances_writeSubTables hmembers hinside
            (hleads.comp (leadsTo_missing hkey)) (show d.root = (fun inner => fill (if inner.isEmpty
              then table else table ++ [(key, .object inner)])) [] from hroot)
            harranged (fun k _ => hfree.child k) hpending (!true) rest
          refine ⟨d', ?_, ?_, hwithin⟩
          · rw [writeFront, if_pos hfront]
            exact (advances_writeGap d started _).trans hadvances
          · rw [hroot', arranged, hplain, List.nil_append, hempty]
            rfl
      | false =>
          obtain ⟨d₁, hopen, htable, hwithin₁⟩ := openTable_of_free hfree hleads hroot hkey hpending
          obtain ⟨d₂, hadvances₂, hroot₂, hwithin₂, hfree₂⟩ := htable.advances_writePlain hmembers
            hinside hnames (writeSubTables (dotted (path ++ [key])) (!false) members rest)
          obtain ⟨d₃, hadvances₃, hroot₃, hwithin₃⟩ := advances_writeSubTables hmembers hinside
            htable.leads hroot₂ harranged hfree₂ hwithin₂.pending (!false) rest
          have hne : path ++ [key] ≠ [] := List.concat_ne_nil key path
          refine ⟨d₃, ?_, ?_, hwithin₁.trans (hwithin₂.trans hwithin₃)⟩
          · rw [writeFront, if_neg (by rw [hfront]; exact Bool.false_ne_true)]
            exact (advances_writeGap d started _).trans ((advances_header hne hpending hopen).trans
              (hadvances₂.trans hadvances₃))
          · rw [hroot₃, arranged]

/-- The tables below another are read into their places. -/
theorem advances_writeSubTables {members : List (String × Data)} (h : Data.MembersTabular members)
    (hdepth : stack.most * Data.membersDepth members ≤ stack.size)
    {d : Document} {path : List String} {table : List (String × Data)}
    {fill : List (String × Data) → List (String × Data)} (hleads : LeadsTo path fill)
    (hroot : d.root = fill table)
    (hnames : (Members.names (table ++ arrangedTables members)).Nodup)
    (hfree : ∀ key ∈ Members.names (arrangedTables members), d.Free (path ++ [key]))
    (hpending : d.pending = []) (started : Bool) (rest : List Char) :
    ∃ d', d.Advances stack (writeSubTables (dotted path) started members rest) d' rest ∧
      d'.root = fill (table ++ arrangedTables members) ∧ Within path d d' := by
  match members with
  | [] =>
      refine ⟨d, .refl d rest, ?_, .refl path hpending⟩
      rw [hroot, arrangedTables, List.append_nil]
  | (key, value) :: members =>
      obtain ⟨hvalue, hmembers⟩ := h
      obtain ⟨hfirst, hothers⟩ := room_max_le_iff.mp hdepth
      rw [writeSubTables, ← dotted_concat]
      cases hheader : hasHeader value with
      | true =>
          rw [arrangedTables, if_pos hheader] at hnames hfree ⊢
          obtain ⟨hkey, hkeys⟩ := List.forall_mem_cons.mp hfree
          obtain ⟨d₁, hadvances₁, hroot₁, hwithin₁⟩ := advances_writeHeaded hvalue hfirst hheader
            hleads hroot (Members.not_mem_of_nodup hnames) hkey hpending started
            (writeSubTables (dotted path) (started || true) members rest)
          have hfree₁ : ∀ other ∈ Members.names (arrangedTables members),
              d₁.Free (path ++ [other]) := by
            intro other mem
            refine (hkeys other mem).sibling hwithin₁ ?_
            rintro rfl
            rw [Members.names_append, List.nodup_append] at hnames
            exact (List.nodup_cons.mp hnames.2.1).1 mem
          rw [List.append_cons] at hnames
          rw [List.append_cons table]
          obtain ⟨d₂, hadvances₂, hroot₂, hwithin₂⟩ := advances_writeSubTables hmembers hothers
            hleads hroot₁ hnames hfree₁ hwithin₁.pending (started || true) rest
          exact ⟨d₂, hadvances₁.trans hadvances₂, hroot₂, hwithin₁.of_child.trans hwithin₂⟩
      | false =>
          rw [arrangedTables, if_neg (by rw [hheader]; exact Bool.false_ne_true)] at hnames hfree ⊢
          rw [writeHeaded_of_plain hheader]
          exact advances_writeSubTables hmembers hothers hleads hroot hnames hfree hpending _ rest

/-- An item of an array is read into its place, under a header of its own. -/
theorem advances_writeItemTable {item : Data} (h : item.Tabular)
    (hdepth : stack.most * item.depth ≤ stack.size) (htable : isTable item = true)
    {d : Document} {path : List String} {key : String} {table : List (String × Data)}
    {done : List Data} {fill : List (String × Data) → List (String × Data)}
    (hleads : LeadsTo path fill) (hroot : d.root = fill (withItems table key done))
    (hkey : key ∉ Members.names table) (habove : ∀ marked ∈ d.closed, ¬ marked <+: path ++ [key])
    (hpending : d.pending = []) (started : Bool) (rest : List Char) :
    ∃ d', d.Advances stack (writeItemTable (dotted (path ++ [key])) started item rest) d' rest ∧
      d'.root = fill (withItems table key (done ++ [arranged item])) ∧
      Within (path ++ [key]) d d' := by
  match item with
  | .null => cases htable
  | .moment m => cases htable
  | .bool b => cases htable
  | .int n => cases htable
  | .float x => cases htable
  | .string s => cases htable
  | .array items => cases htable
  | .object members =>
      obtain ⟨hnames, hmembers⟩ := h
      have hinside := room_le_of_inside hdepth
      obtain ⟨d₁, hopen, htable, hwithin₁⟩ := openItem_of_above habove hleads hroot hkey hpending
      obtain ⟨d₂, hadvances₂, hroot₂, hwithin₂, hfree₂⟩ := htable.advances_writePlain hmembers
        hinside hnames (writeSubTables (dotted (path ++ [key])) true members rest)
      obtain ⟨d₃, hadvances₃, hroot₃, hwithin₃⟩ := advances_writeSubTables hmembers hinside
        htable.leads hroot₂ (nodup_arranged hnames) hfree₂ hwithin₂.pending true rest
      have hne : path ++ [key] ≠ [] := List.concat_ne_nil key path
      refine ⟨d₃, ?_, ?_, hwithin₁.trans (hwithin₂.trans hwithin₃)⟩
      · rw [writeItemTable, writeItemFront]
        exact (advances_writeGap d started _).trans ((advances_itemHeader hne hpending hopen).trans
          (hadvances₂.trans hadvances₃))
      · rw [hroot₃, arranged, withItems_concat]

/-- The items of an array are read into their places one by one. -/
theorem advances_writeItemTables {items : List Data} (h : Data.ItemsTabular items)
    (hdepth : stack.most * Data.itemsDepth items ≤ stack.size)
    (htables : ∀ item ∈ items, isTable item = true)
    {d : Document} {path : List String} {key : String} {table : List (String × Data)}
    {done : List Data} {fill : List (String × Data) → List (String × Data)}
    (hleads : LeadsTo path fill) (hroot : d.root = fill (withItems table key done))
    (hkey : key ∉ Members.names table) (habove : ∀ marked ∈ d.closed, ¬ marked <+: path ++ [key])
    (hpending : d.pending = []) (started : Bool) (rest : List Char) :
    ∃ d', d.Advances stack (writeItemTables (dotted (path ++ [key])) started items rest) d' rest ∧
      d'.root = fill (withItems table key (done ++ arrangedItems items)) ∧
      Within (path ++ [key]) d d' := by
  match items with
  | [] =>
      refine ⟨d, .refl d rest, ?_, .refl _ hpending⟩
      rw [hroot, arrangedItems, List.append_nil]
  | item :: items =>
      obtain ⟨hitem, hitems⟩ := h
      obtain ⟨hfirst, hothers⟩ := room_max_le_iff.mp hdepth
      obtain ⟨htable, htables⟩ := List.forall_mem_cons.mp htables
      obtain ⟨d₁, hadvances₁, hroot₁, hwithin₁⟩ := advances_writeItemTable hitem hfirst htable
        hleads hroot hkey habove hpending started
        (writeItemTables (dotted (path ++ [key])) true items rest)
      obtain ⟨d₂, hadvances₂, hroot₂, hwithin₂⟩ := advances_writeItemTables hitems hothers
        htables hleads hroot₁ hkey (hwithin₁.above habove) hwithin₁.pending true rest
      refine ⟨d₂, ?_, ?_, hwithin₁.trans hwithin₂⟩
      · rw [writeItemTables]
        exact hadvances₁.trans hadvances₂
      · rw [hroot₂, arrangedItems, List.append_assoc]
        rfl

end

end Document

/-! ### Texts -/

theorem inFront_writePlain (members : List (String × Data)) : InFront (writePlain members) := by
  induction members with
  | nil => exact inFront_id
  | cons member members ih =>
      obtain ⟨name, value⟩ := member
      have hwrite : writePlain ((name, value) :: members) = fun rest =>
          if hasHeader value then writePlain members rest
          else writeKey name (writeInline 0 value ('\n' :: writePlain members rest)) := rfl
      rw [hwrite]
      cases hasHeader value with
      | true => exact ih
      | false =>
          exact (inFront_writeKey name).comp ((inFront_writeInline 0 value).comp
            ((inFront_cons (by decide)).comp ih))

theorem inFront_writeGap (started : Bool) : InFront (writeGap started) := by
  cases started with
  | false => exact inFront_id
  | true => exact inFront_cons (by decide)

theorem no_return_nameBelow {name : List Char} (h : '\r' ∉ name) (key : String) :
    '\r' ∉ nameBelow name key := by
  unfold nameBelow
  split
  · exact no_return_keyText key
  · rw [List.mem_append, List.mem_cons, not_or, not_or]
    exact ⟨h, by decide, no_return_keyText key⟩

section Fronts

variable {name : List Char}

theorem inFront_writeFront (h : '\r' ∉ name) (members : List (String × Data)) :
    InFront (writeFront name members) := by
  unfold writeFront
  cases hasNoFront members with
  | true => exact inFront_id
  | false =>
      exact (inFront_cons (by decide)).comp ((inFront_append h).comp
        ((inFront_cons (by decide)).comp ((inFront_cons (by decide)).comp
          (inFront_writePlain members))))

theorem inFront_writeItemFront (h : '\r' ∉ name) (members : List (String × Data)) :
    InFront (writeItemFront name members) :=
  (inFront_cons (by decide)).comp ((inFront_cons (by decide)).comp ((inFront_append h).comp
    ((inFront_cons (by decide)).comp ((inFront_cons (by decide)).comp
      ((inFront_cons (by decide)).comp (inFront_writePlain members))))))

end Fronts

mutual

theorem inFront_writeHeaded {name : List Char} (h : '\r' ∉ name) (started : Bool) (value : Data) :
    InFront (writeHeaded name started value) := by
  match value with
  | .null => exact inFront_id
  | .moment m => exact inFront_id
  | .bool b => exact inFront_id
  | .int n => exact inFront_id
  | .float x => exact inFront_id
  | .string s => exact inFront_id
  | .array items =>
      have hwrite : writeHeaded name started (.array items) = fun rest =>
          if breaksUp items then writeItemTables name started items rest else rest := rfl
      rw [hwrite]
      cases breaksUp items with
      | true => exact inFront_writeItemTables h started items
      | false => exact inFront_id
  | .object members =>
      exact (inFront_writeGap started).comp ((inFront_writeFront h members).comp
        (inFront_writeSubTables h _ members))

theorem inFront_writeSubTables {name : List Char} (h : '\r' ∉ name) (started : Bool)
    (members : List (String × Data)) : InFront (writeSubTables name started members) := by
  match members with
  | [] => exact inFront_id
  | (key, value) :: members =>
      exact (inFront_writeHeaded (no_return_nameBelow h key) started value).comp
        (inFront_writeSubTables h _ members)

theorem inFront_writeItemTable {name : List Char} (h : '\r' ∉ name) (started : Bool)
    (item : Data) : InFront (writeItemTable name started item) := by
  match item with
  | .null => exact inFront_id
  | .moment m => exact inFront_id
  | .bool b => exact inFront_id
  | .int n => exact inFront_id
  | .float x => exact inFront_id
  | .string s => exact inFront_id
  | .array items => exact inFront_id
  | .object members =>
      exact (inFront_writeGap started).comp ((inFront_writeItemFront h members).comp
        (inFront_writeSubTables h true members))

theorem inFront_writeItemTables {name : List Char} (h : '\r' ∉ name) (started : Bool)
    (items : List Data) : InFront (writeItemTables name started items) := by
  match items with
  | [] => exact inFront_id
  | item :: items =>
      exact (inFront_writeItemTable h started item).comp (inFront_writeItemTables h true items)

end

/-- A table is read from its text, its plain members first. -/
theorem parse_text (stack : Stack) {members : List (String × Data)}
    (hnames : (Members.names members).Nodup) (h : Data.MembersTabular members)
    (hdepth : stack.most * Data.membersDepth members ≤ stack.size) :
    parse stack (text members).toList = .ok (plain members ++ arrangedTables members) := by
  obtain ⟨d, hadvances, hroot, hwithin, hfree⟩ := Document.atTable_empty.advances_writePlain h
    hdepth hnames (writeSubTables [] (members.any fun member => !hasHeader member.2) members [])
  obtain ⟨d', hadvances', hroot', _⟩ := Document.advances_writeSubTables h hdepth leadsTo_nil
    hroot (nodup_arranged hnames) hfree hwithin.pending _ []
  have hreturn : '\r' ∉ (text members).toList := by
    rw [text, String.toList_ofList]
    exact (inFront_writePlain members).no_return
      ((inFront_writeSubTables List.not_mem_nil _ members).no_return List.not_mem_nil)
  obtain ⟨bound, hbound, hlines⟩ := (hadvances.trans hadvances') _ (Nat.lt_succ_self _)
  obtain ⟨bound, rfl⟩ : ∃ n, bound = n + 1 := ⟨bound - 1, by simp at hbound; omega⟩
  have hend : d'.scanLines stack (bound + 1) [] = .ok d' := rfl
  refine parse_of_read (joinLineEnds_eq_self hreturn) ?_
  rw [read, text, String.toList_ofList]
  simp only [ok_bind, hlines, hend]
  exact congrArg Except.ok hroot'

end Rulebook.Toml
