import Rulebook.Proofs.MemberLists
import Rulebook.Proofs.TomlScalar
import Rulebook.Toml.Reading

/-!
Values of TOML that are written in place are read as they were written.

A value is read whole in front of the end of a value (`scanValue_writeInline`). The
induction is on the value, with the items of an array and the members of an inline table
read along; the length of the text bounds the steps that are taken, and a value that is
not too deep has room for what is nested in it.
-/

namespace Rulebook.Toml

open Text

variable {stack : Stack} {rest : List Char}

/-! ### What is put in front -/

theorem no_return_keyText (name : String) : '\r' ∉ keyText name := by
  rcases keyText_cases name with ⟨c, cs, _, hbare, htext⟩ | htext
  · rw [htext]
    intro mem
    cases hbare _ mem
  · rw [htext]
    exact (inFront_writeString name).no_return List.not_mem_nil

theorem inFront_writeKey (name : String) : InFront (writeKey name) :=
  (inFront_append (no_return_keyText name)).comp ((inFront_cons (by decide)).comp
    ((inFront_cons (by decide)).comp (inFront_cons (by decide))))

theorem no_return_numberText (x : Number) : '\r' ∉ x.text := by
  cases x with
  | nan => decide
  | infinite negative => cases negative <;> decide
  | finite negative rank => exact Numeral.no_return_text (Number.numeralAt_spec negative rank).1

theorem inFront_indentation (level : Nat) : InFront fun rest => indentation level ++ rest := by
  refine inFront_append fun mem => ?_
  cases List.eq_of_mem_replicate mem

mutual

theorem inFront_writeInline (level : Nat) (value : Data) : InFront (writeInline level value) := by
  match value with
  | .null | .moment _ => exact inFront_id
  | .bool true => exact inFront_append (by decide)
  | .bool false => exact inFront_append (by decide)
  | .int n => exact inFront_append (Numeral.no_return_intText n)
  | .float x => exact inFront_append (no_return_numberText x)
  | .string s => exact inFront_writeString s
  | .array [] => exact (inFront_cons (by decide)).comp (inFront_cons (by decide))
  | .array (item :: items) =>
      exact (inFront_cons (by decide)).comp ((inFront_cons (by decide)).comp
        ((inFront_writeItems level (item :: items)).comp
          ((inFront_indentation level).comp (inFront_cons (by decide)))))
  | .object [] => exact (inFront_cons (by decide)).comp (inFront_cons (by decide))
  | .object ((name, member) :: members) =>
      exact (inFront_cons (by decide)).comp ((inFront_cons (by decide)).comp
        ((inFront_writeKey name).comp ((inFront_writeInline 0 member).comp
          ((inFront_writeMembers members).comp
            ((inFront_cons (by decide)).comp (inFront_cons (by decide)))))))

theorem inFront_writeItems (level : Nat) (items : List Data) :
    InFront (writeItems level items) := by
  match items with
  | [] => exact inFront_id
  | item :: items =>
      exact (inFront_indentation _).comp ((inFront_writeInline _ item).comp
        ((inFront_cons (by decide)).comp ((inFront_cons (by decide)).comp
          (inFront_writeItems level items))))

theorem inFront_writeMembers (members : List (String × Data)) :
    InFront (writeMembers members) := by
  match members with
  | [] => exact inFront_id
  | (name, member) :: members =>
      exact (inFront_cons (by decide)).comp ((inFront_cons (by decide)).comp
        ((inFront_writeKey name).comp ((inFront_writeInline 0 member).comp
          (inFront_writeMembers members))))

end

/-! ### How values start -/

@[simp] theorem startsWith_cons (mark c : Char) (cs : List Char) :
    startsWith mark (c :: cs) = (c == mark) := by
  simp [startsWith]

/-- A text that starts with a value. -/
def StartsValue (cs : List Char) : Prop :=
  ∃ c tail, cs = c :: tail ∧ isBlank c = false ∧ c ≠ '\n' ∧ c ≠ '#' ∧ c ≠ ']'

section StartsValue

variable {cs : List Char}

theorem StartsValue.skipBlanks_eq (h : StartsValue cs) : skipBlanks cs = cs := by
  obtain ⟨c, tail, rfl, hblank, _⟩ := h
  rw [skipBlanks, List.dropWhile_cons, if_neg (by rw [hblank]; exact Bool.false_ne_true)]

theorem StartsValue.skipFiller_eq (h : StartsValue cs) : skipFiller false cs = .ok cs := by
  obtain ⟨c, tail, rfl, hblank, hline, hcomment, _⟩ := h
  simp [skipFiller, hblank, hline, hcomment]

theorem StartsValue.not_bracket (h : StartsValue cs) : startsWith ']' cs = false := by
  obtain ⟨c, tail, rfl, _, _, _, hbracket⟩ := h
  simp [hbracket]

end StartsValue

theorem skipFiller_indentation (level : Nat) (cs : List Char) :
    skipFiller false (indentation level ++ cs) = skipFiller false cs := by
  rw [indentation]
  induction indentWidth * level with
  | zero => rfl
  | succ count ih => exact ih

theorem startsValue_of_isDigit {c : Char} (cs : List Char) (h : c.isDigit = true) :
    StartsValue (c :: cs) := by
  have hmarks : ∀ d ∈ [' ', '\t', '\n', '#', ']'], d.isDigit = false := by simp
  have hne : ∀ d ∈ [' ', '\t', '\n', '#', ']'], c ≠ d := by
    intro d mem
    exact Numeral.ne_of_isDigit h hmarks mem
  simp only [List.forall_mem_cons] at hne
  exact ⟨c, cs, rfl, by simp [isBlank, hne], hne.2.2.1, hne.2.2.2.1, hne.2.2.2.2.1⟩

theorem startsValue_numeral {n : Numeral} (h : n.WellFormed) (rest : List Char) :
    StartsValue (n.text ++ rest) := by
  obtain ⟨d, ds, hwhole, hd⟩ := Numeral.exists_head_whole h
  rw [Numeral.text, hwhole]
  cases n.negative with
  | true => exact ⟨'-', _, rfl, by decide⟩
  | false => exact startsValue_of_isDigit _ hd

/-- A value that TOML has words for starts with one of them. -/
theorem startsValue_writeInline {value : Data} (h : value.Tabular) (level : Nat)
    (rest : List Char) : StartsValue (writeInline level value rest) := by
  match value with
  | .bool true => exact ⟨_, _, rfl, by decide⟩
  | .bool false => exact ⟨_, _, rfl, by decide⟩
  | .int n =>
      rw [writeInline, ← Numeral.text_ofInt]
      exact startsValue_numeral (Numeral.wellFormed_ofInt n) rest
  | .float .nan => exact ⟨_, _, rfl, by decide⟩
  | .float (.infinite true) => exact ⟨_, _, rfl, by decide⟩
  | .float (.infinite false) => exact ⟨_, _, rfl, by decide⟩
  | .float (.finite negative rank) =>
      exact startsValue_numeral (Number.numeralAt_spec negative rank).1 rest
  | .string s => exact ⟨_, _, rfl, by decide⟩
  | .array [] => exact ⟨_, _, rfl, by decide⟩
  | .array (item :: items) => exact ⟨_, _, rfl, by decide⟩
  | .object [] => exact ⟨_, _, rfl, by decide⟩
  | .object ((name, member) :: members) => exact ⟨_, _, rfl, by decide⟩

/-! ### Scalars -/

/-- The first characters of strings, words, arrays and inline tables. -/
def valueMarks : List Char := ['"', '\'', 't', 'f', '[', '\x7b']

theorem scanValue_of_no_mark {c : Char} {cs : List Char} {bound room : Nat} (h : c ∉ valueMarks) :
    scanValue stack (bound + 1) room (c :: cs) = scanPlain (c :: cs) := by
  rw [scanValue]
  all_goals
    intro rest heq
    rw [(List.cons.inj heq).1] at h
    exact h (by decide)

theorem scanValue_numeral {n : Numeral} (h : n.WellFormed) (bound room : Nat) :
    scanValue stack (bound + 1) room (n.text ++ rest) = scanPlain (n.text ++ rest) := by
  obtain ⟨d, ds, hwhole, hd⟩ := Numeral.exists_head_whole h
  rw [Numeral.text, hwhole]
  cases n.negative with
  | true => exact scanValue_of_no_mark (by decide)
  | false =>
      refine scanValue_of_no_mark fun mem => ?_
      have hmarks : ∀ c ∈ valueMarks, c.isDigit = false := by simp [valueMarks]
      exact Numeral.ne_of_isDigit hd hmarks mem rfl

theorem scanValue_float (x : Number) (bound room : Nat) (h : EndsValue rest) :
    scanValue stack (bound + 1) room (x.text ++ rest) = .ok (.float x, rest) := by
  rw [← scanPlain_text x h]
  match x with
  | .nan => exact scanValue_of_no_mark (by decide)
  | .infinite true => exact scanValue_of_no_mark (by decide)
  | .infinite false => exact scanValue_of_no_mark (by decide)
  | .finite negative rank =>
      exact scanValue_numeral (Number.numeralAt_spec negative rank).1 bound room

theorem scanValue_int {n : Int} (hn : n.natAbs < Nat.pow 10 Data.maxDigits) (bound room : Nat)
    (h : EndsValue rest) :
    scanValue stack (bound + 1) room (Numeral.intText n ++ rest) = .ok (.int n, rest) := by
  rw [← scanPlain_intText hn h, ← Numeral.text_ofInt]
  exact scanValue_numeral (Numeral.wellFormed_ofInt n) bound room

theorem EndsValue.no_quote (h : EndsValue rest) : rest.head? ≠ some '"' := by
  obtain ⟨c, cs, rfl, rfl | rfl | rfl⟩ := h <;> (intro heq; cases heq)

theorem scanValue_string (s : String) (bound room : Nat) (h : EndsValue rest) :
    scanValue stack (bound + 1) room (writeString s rest) = .ok (.string s, rest) := by
  have hread := scanQuoted_writeChars s h.no_quote
  rw [writeString, scanValue]
  simp only [hread]
  rfl

/-! ### Inline tables -/

@[simp] theorem placed_ok {α : Type} (rest : List Char) (taken : α) :
    placed rest (.ok taken) = .ok taken := rfl

/-- A member of a name that is not there yet is added at the end. -/
theorem addMember_of_not_mem {taken : Fault} {table : List (String × Data)} {name : String}
    (h : name ∉ Members.names table) (value : Data) :
    addMember taken name value table = .ok (table ++ [(name, value)]) := by
  rw [addMember, Members.has, Members.get?_eq_none_iff.mpr h, Option.isSome_none,
    if_neg Bool.false_ne_true, Members.put_of_not_mem h]

/-- A pair of a new name is added, since only other names are marked. -/
theorem addInline_of_not_mem {closed : List (List String)} {table : List (String × Data)}
    {name : String} (h : name ∉ Members.names table) (value : Data)
    (hclosed : ∀ marked ∈ closed, ∃ other ∈ Members.names table, marked = [other]) :
    addInline closed table [name] value = .ok (table ++ [(name, value)]) := by
  have hunder : underAny closed [name] = false := by
    rw [underAny, List.any_eq_false]
    intro marked mem
    obtain ⟨other, hother, rfl⟩ := hclosed marked mem
    have hne : other ≠ name := by
      rintro rfl
      exact h hother
    simpa using hne
  simp only [addInline, List.getLast?_singleton, hunder, Bool.false_eq_true, if_false,
    List.dropLast_singleton, changeAt, addMember_of_not_mem h]

theorem scanKey_writeKey (name : String) (value : List Char) :
    scanKey (writeKey name value) = .ok ([name], '=' :: ' ' :: value) := by
  have hends : EndsBare (' ' :: '=' :: ' ' :: value) := endsBare_cons rfl
  have hblanks : skipBlanks (' ' :: '=' :: ' ' :: value) = '=' :: ' ' :: value := rfl
  have hpoint : (skipBlanks (' ' :: '=' :: ' ' :: value)).head? ≠ some '.' := by
    rw [hblanks]
    nofun
  have hdotted : dotted [name] = keyText name := rfl
  rw [writeKey, ← hdotted, scanKey_dotted hends hpoint, hblanks]

/-- What stands behind a value of an inline table: its end, or a comma and further pairs. -/
def Continues (stack : Stack) (bound room : Nat) (closed : List (List String))
    (table : List (String × Data))
    (cs : List Char) (members : List (String × Data)) (rest : List Char) : Prop :=
  (skipBlanks cs = '\x7d' :: rest ∧ members = table) ∨
    ∃ more, skipBlanks cs = ',' :: more ∧
      scanInline stack bound room closed table (skipBlanks more) = .ok (members, rest)

/-- One pair of an inline table is read, and what stands behind it. -/
theorem scanInline_writeKey {bound room : Nat} {closed : List (List String)}
    {table members : List (String × Data)} {name : String} {value : Data}
    {text cs : List Char} (hstart : StartsValue text)
    (hvalue : scanValue stack bound room text = .ok (value, cs))
    (hname : name ∉ Members.names table)
    (hclosed : ∀ marked ∈ closed, ∃ other ∈ Members.names table, marked = [other])
    (hmore : ∀ closed', (∀ marked ∈ closed', ∃ other ∈ Members.names (table ++ [(name, value)]),
      marked = [other]) →
        Continues stack bound room closed' (table ++ [(name, value)]) cs members rest) :
    scanInline stack (bound + 1) room closed table (writeKey name text) = .ok (members, rest) := by
  have hblanks : skipBlanks (' ' :: text) = text := hstart.skipBlanks_eq
  have hadd := addInline_of_not_mem hname value hclosed
  have hmarks : ∀ marked ∈ (if value.isContainer then [name] :: closed else closed),
      ∃ other ∈ Members.names (table ++ [(name, value)]), marked = [other] := by
    have hkept : ∀ marked ∈ closed,
        ∃ other ∈ Members.names (table ++ [(name, value)]), marked = [other] := by
      intro marked mem
      obtain ⟨other, hother, heq⟩ := hclosed marked mem
      refine ⟨other, ?_, heq⟩
      rw [Members.names_append]
      exact List.mem_append_left _ hother
    split
    · refine List.forall_mem_cons.mpr ⟨⟨name, ?_, rfl⟩, hkept⟩
      simp
    · exact hkept
  rw [scanInline, scanKey_writeKey]
  simp only [ok_bind, startsWith_cons, beq_self_eq_true, if_true, List.drop_one, List.tail_cons,
    hblanks, hvalue, hadd, placed_ok]
  rcases hmore _ hmarks with ⟨hend, rfl⟩ | ⟨more, hcomma, hmore⟩
  · simp [hend]
  · simp [hcomma, hmore]

/-- With room for a container it is entered. -/
theorem enter_add (taken room : Nat) : enter taken (taken + room) = .ok room := by
  rw [enter, if_neg (Nat.not_lt.mpr (Nat.le_add_right _ _)), Nat.add_sub_cancel_left]

theorem scanValue_object_nil (bound room : Nat) :
    scanValue stack (bound + 1) (stack.table + room) ('\x7b' :: '\x7d' :: rest) =
      .ok (.object [], rest) := by
  rw [scanValue, enter_add]
  rfl

theorem scanValue_object {bound room : Nat} {name : String} {text : List Char}
    {members : List (String × Data)}
    (h : scanInline stack bound room [] [] (writeKey name text) = .ok (members, rest)) :
    scanValue stack (bound + 1) (stack.table + room) ('\x7b' :: ' ' :: writeKey name text) =
      .ok (.object members, rest) := by
  have hblanks : skipBlanks (' ' :: writeKey name text) = writeKey name text :=
    skipBlanks_keyText name _
  have hbrace : startsWith '\x7d' (writeKey name text) = false := by
    obtain ⟨c, cs, htext, hc⟩ := exists_keyText name
    have hne : c ≠ '\x7d' := ne_of_startsKey hc rfl (by decide)
    simp [writeKey, htext, hne]
  rw [scanValue, enter_add]
  simp only [ok_bind, hblanks, hbrace, h]
  rfl

/-! ### Arrays -/

/-- What stands behind an opening bracket or a comma of an array: fillers, and its end or
further items. -/
def LeavesItems (stack : Stack) (bound room : Nat) (cs : List Char) (items : List Data)
    (rest : List Char) : Prop :=
  ∃ cs', skipFiller false cs = .ok cs' ∧
    ((cs' = ']' :: rest ∧ items = []) ∨
      (startsWith ']' cs' = false ∧ scanItems stack bound room cs' = .ok (items, rest)))

theorem leavesItems_nil (bound room : Nat) {cs : List Char}
    (h : skipFiller false cs = .ok (']' :: rest)) : LeavesItems stack bound room cs [] rest :=
  ⟨_, h, .inl ⟨rfl, rfl⟩⟩

theorem scanValue_array {bound room : Nat} {cs : List Char} {items : List Data}
    (h : LeavesItems stack bound room cs items rest) :
    scanValue stack (bound + 1) (stack.array + room) ('[' :: cs) = .ok (.array items, rest) := by
  obtain ⟨cs', hfiller, ⟨rfl, rfl⟩ | ⟨hbracket, hitems⟩⟩ := h
  · rw [scanValue, enter_add]
    simp only [ok_bind, hfiller]
    rfl
  · rw [scanValue, enter_add]
    simp only [ok_bind, hfiller, hbracket, hitems]
    rfl

/-- One item of an array is read, and what stands behind its comma. -/
theorem scanItems_of_leavesItems {bound room : Nat} {cs more : List Char} {item : Data}
    {items : List Data} (hitem : scanValue stack bound room cs = .ok (item, ',' :: more))
    (h : LeavesItems stack bound room more items rest) :
    scanItems stack (bound + 1) room cs = .ok (item :: items, rest) := by
  have hcomma : skipFiller false (',' :: more) = .ok (',' :: more) := rfl
  obtain ⟨cs', hfiller, ⟨rfl, rfl⟩ | ⟨hbracket, hitems⟩⟩ := h
  · rw [scanItems, hitem]
    simp only [ok_bind, hcomma]
    simp [hfiller]
  · rw [scanItems, hitem]
    simp only [ok_bind, hcomma]
    simp [hfiller, hbracket, hitems]

/-! ### Values -/

theorem endsValue_writeMembers (members : List (String × Data)) (rest : List Char) :
    EndsValue (writeMembers members (' ' :: rest)) := by
  cases members with
  | nil => exact ⟨' ', rest, rfl, by decide⟩
  | cons member members => exact ⟨',', _, rfl, by decide⟩

/-- A text is shorter than one that is written in front of it. -/
theorem length_le_writeInline (level : Nat) (value : Data) (rest : List Char) :
    rest.length ≤ (writeInline level value rest).length := by
  rw [(inFront_writeInline level value).length rest]
  omega

theorem length_le_writeKey (name : String) (value : List Char) :
    value.length ≤ (writeKey name value).length := by
  rw [(inFront_writeKey name).length value]
  omega

/-- Where there is room for a container, there is room inside it. -/
theorem exists_room_inside {taken depth room : Nat} (htaken : taken ≤ stack.most)
    (h : stack.most * (1 + depth) ≤ room) :
    ∃ inside, room = taken + inside ∧ stack.most * depth ≤ inside := by
  rw [Nat.mul_add, Nat.mul_one] at h
  exact ⟨room - taken, by omega, by omega⟩

/-- There is room for the deeper of two if there is for each of them. -/
theorem room_max_le_iff {depth depth' room : Nat} :
    stack.most * max depth depth' ≤ room ↔
      stack.most * depth ≤ room ∧ stack.most * depth' ≤ room := by
  rw [← Nat.mul_max_mul_left, Nat.max_le]

/-- There is room for what is inside a container if there is for the container. -/
theorem room_le_of_inside {depth room : Nat} (h : stack.most * (1 + depth) ≤ room) :
    stack.most * depth ≤ room := by
  rw [Nat.mul_add] at h
  omega

mutual

/-- A value is read as it was written. -/
theorem scanValue_writeInline {value : Data} (h : value.Tabular) (level : Nat) {bound room : Nat}
    {rest : List Char} (hrest : EndsValue rest)
    (hbound : (writeInline level value rest).length ≤ bound)
    (hroom : stack.most * value.depth ≤ room) :
    scanValue stack bound room (writeInline level value rest) = .ok (value, rest) := by
  obtain ⟨bound, rfl⟩ : ∃ n, bound = n + 1 := by
    obtain ⟨c, cs, htext, _⟩ := startsValue_writeInline h level rest
    rw [htext, List.length_cons] at hbound
    exact ⟨bound - 1, by omega⟩
  match value with
  | .bool true => rfl
  | .bool false => rfl
  | .int n => exact scanValue_int h bound room hrest
  | .float x => exact scanValue_float x bound room hrest
  | .string s => exact scanValue_string s bound room hrest
  | .array [] =>
      obtain ⟨room, rfl, _⟩ := exists_room_inside (Nat.le_max_left stack.array stack.table) hroom
      exact scanValue_array (leavesItems_nil bound room rfl)
  | .array (item :: items) =>
      rw [writeInline, List.length_cons, List.length_cons] at hbound
      have hitems : (writeItems level (item :: items) (indentation level ++ (']' :: rest))).length ≤
          bound := by omega
      obtain ⟨room, rfl, hinside⟩ :=
        exists_room_inside (Nat.le_max_left stack.array stack.table) hroom
      exact scanValue_array (leavesItems_writeItems h level rest hitems hinside)
  | .object [] =>
      obtain ⟨room, rfl, _⟩ := exists_room_inside (Nat.le_max_right stack.array stack.table) hroom
      exact scanValue_object_nil bound room
  | .object ((name, member) :: members) =>
      obtain ⟨hnames, hmember, hmembers⟩ := h
      rw [writeInline, List.length_cons, List.length_cons] at hbound
      have hkey := length_le_writeKey name
        (writeInline 0 member (writeMembers members (' ' :: '\x7d' :: rest)))
      have hmore := length_le_writeInline 0 member (writeMembers members (' ' :: '\x7d' :: rest))
      obtain ⟨bound, rfl⟩ : ∃ n, bound = n + 1 := ⟨bound - 1, by omega⟩
      obtain ⟨room, rfl, hinside⟩ :=
        exists_room_inside (Nat.le_max_right stack.array stack.table) hroom
      obtain ⟨hfirst, hothers⟩ := room_max_le_iff.mp hinside
      have hvalue := scanValue_writeInline hmember 0 (endsValue_writeMembers members _)
        (show (writeInline 0 member (writeMembers members (' ' :: '\x7d' :: rest))).length ≤ bound
          by omega) hfirst
      refine scanValue_object (scanInline_writeKey (startsValue_writeInline hmember 0 _) hvalue
        List.not_mem_nil (List.forall_mem_nil _) fun closed hclosed => ?_)
      exact continues_writeMembers hmembers [(name, member)] hnames closed hclosed rest (by omega)
        hothers

/-- The items of an array are read as they were written. -/
theorem leavesItems_writeItems {items : List Data} (h : Data.ItemsTabular items) (level : Nat)
    (rest : List Char) {bound room : Nat}
    (hbound : (writeItems level items (indentation level ++ (']' :: rest))).length ≤ bound)
    (hroom : stack.most * Data.itemsDepth items ≤ room) :
    LeavesItems stack bound room (writeItems level items (indentation level ++ (']' :: rest))) items
      rest := by
  match items with
  | [] => exact leavesItems_nil bound room (skipFiller_indentation level _)
  | item :: items =>
      obtain ⟨hitem, hitems⟩ := h
      obtain ⟨hfirst, hothers⟩ := room_max_le_iff.mp hroom
      have hmore := length_le_writeInline (level + 1) item
        (',' :: '\n' :: writeItems level items (indentation level ++ (']' :: rest)))
      rw [writeItems, List.length_append] at hbound
      rw [List.length_cons, List.length_cons] at hmore
      obtain ⟨bound, rfl⟩ : ∃ n, bound = n + 1 := ⟨bound - 1, by omega⟩
      have hindent : 0 < (indentation (level + 1)).length := by
        rw [indentation, List.length_replicate]
        exact Nat.mul_pos (by decide) (Nat.succ_pos level)
      have hfirst := scanValue_writeInline hitem (level + 1) ⟨',', _, rfl, .inl rfl⟩
        (show (writeInline (level + 1) item (',' :: '\n' ::
          writeItems level items (indentation level ++ (']' :: rest)))).length ≤ bound by omega)
        hfirst
      have hothers := leavesItems_writeItems hitems level rest
        (show (writeItems level items (indentation level ++ (']' :: rest))).length ≤ bound by omega)
        hothers
      have hstart := startsValue_writeInline hitem (level + 1)
        (',' :: '\n' :: writeItems level items (indentation level ++ (']' :: rest)))
      refine ⟨_, (skipFiller_indentation _ _).trans hstart.skipFiller_eq,
        .inr ⟨hstart.not_bracket, scanItems_of_leavesItems hfirst ?_⟩⟩
      exact hothers

/-- Further members of an inline table are read as they were written. -/
theorem continues_writeMembers {members : List (String × Data)} (h : Data.MembersTabular members)
    (table : List (String × Data)) (hnames : (Members.names (table ++ members)).Nodup)
    (closed : List (List String))
    (hclosed : ∀ marked ∈ closed, ∃ other ∈ Members.names table, marked = [other])
    (rest : List Char) {bound room : Nat}
    (hbound : (writeMembers members (' ' :: '\x7d' :: rest)).length ≤ bound)
    (hroom : stack.most * Data.membersDepth members ≤ room) :
    Continues stack bound room closed table (writeMembers members (' ' :: '\x7d' :: rest))
      (table ++ members) rest := by
  match members with
  | [] => exact .inl ⟨rfl, List.append_nil table⟩
  | (name, value) :: members =>
      obtain ⟨hvalue, hmembers⟩ := h
      obtain ⟨hfirst, hothers⟩ := room_max_le_iff.mp hroom
      rw [writeMembers, List.length_cons, List.length_cons] at hbound
      have hkey := length_le_writeKey name
        (writeInline 0 value (writeMembers members (' ' :: '\x7d' :: rest)))
      have hmore := length_le_writeInline 0 value (writeMembers members (' ' :: '\x7d' :: rest))
      obtain ⟨bound, rfl⟩ : ∃ n, bound = n + 1 := ⟨bound - 1, by omega⟩
      have hfirst := scanValue_writeInline hvalue 0 (endsValue_writeMembers members _)
        (show (writeInline 0 value (writeMembers members (' ' :: '\x7d' :: rest))).length ≤ bound
          by omega) hfirst
      refine .inr ⟨_, rfl, ?_⟩
      have hblanks : skipBlanks (' ' :: writeKey name (writeInline 0 value
          (writeMembers members (' ' :: '\x7d' :: rest)))) = writeKey name (writeInline 0 value
          (writeMembers members (' ' :: '\x7d' :: rest))) := skipBlanks_keyText name _
      rw [hblanks]
      refine scanInline_writeKey (startsValue_writeInline hvalue 0 _) hfirst
        (Members.not_mem_of_nodup hnames) hclosed fun closed' hclosed' => ?_
      have hothers := continues_writeMembers hmembers (table ++ [(name, value)])
        (by rw [List.append_assoc]; exact hnames) closed' hclosed' rest
        (show (writeMembers members (' ' :: '\x7d' :: rest)).length ≤ bound by omega) hothers
      rw [List.append_assoc] at hothers
      exact hothers

end

end Rulebook.Toml
