import Rulebook.Proofs.JsonText

/-!
A written value is the only one with its text.

Under one layout, different readable values have different texts, however deeply they
nest (`text_injective`). That does not follow from reading them back, since the reader
refuses what nests too deeply; so it is shown of the writer. The first lexeme of a text
tells what kind of value was written (`scanLexeme_write`), and what stands behind it is
told apart item by item, up to the end of the value (`write_injective`).
-/

namespace Rulebook.Json

variable {layout : Layout} {level : Nat} {rest rest' : List Char}

/-! ### First lexemes -/

/-- The first lexeme of a written value. -/
def firstLexeme : Data → Lexeme
  | .string s => .string s
  | .array _ => .arrayOpen
  | .object _ => .objectOpen
  | value => .scalar value

/-- What is written behind the first lexeme of a value. -/
def writeBehind (layout : Layout) (level : Nat) (value : Data) (rest : List Char) : List Char :=
  match value with
  | .array [] => ']' :: rest
  | .array (item :: items) =>
    layout.newline (level + 1)
      (write layout (level + 1) item
        (writeItems layout (level + 1) items (layout.newline level (']' :: rest))))
  | .object [] => '\x7d' :: rest
  | .object ((name, value) :: members) =>
    layout.newline (level + 1)
      (writeString name (':' :: ' ' :: write layout (level + 1) value
        (writeMembers layout (level + 1) members (layout.newline level ('\x7d' :: rest)))))
  | _ => rest

/-- A written value starts with its first lexeme. -/
theorem scanLexeme_write {value : Data} (h : value.Readable) (hrest : Numeral.EndsBefore rest) :
    scanLexeme (write layout level value rest) =
      (firstLexeme value, writeBehind layout level value rest) := by
  cases value with
  | null => rfl
  | bool b => cases b <;> rfl
  | int n => exact scanLexeme_intText h hrest
  | float x => exact scanLexeme_numberText x hrest
  | string s => exact scanLexeme_writeString s
  | moment m => exact h.elim
  | array items => cases items <;> rfl
  | object members => cases members <;> rfl

theorem firstLexeme_eq_arrayOpen {value : Data} (h : firstLexeme value = .arrayOpen) :
    ∃ items, value = .array items := by
  cases value with
  | array items => exact ⟨items, rfl⟩
  | _ => cases h

theorem firstLexeme_eq_objectOpen {value : Data} (h : firstLexeme value = .objectOpen) :
    ∃ members, value = .object members := by
  cases value with
  | object members => exact ⟨members, rfl⟩
  | _ => cases h

/-- A scalar is all of its text, so that its first lexeme settles what it is. -/
theorem eq_of_firstLexeme_eq {value value' : Data} (harray : firstLexeme value ≠ .arrayOpen)
    (hobject : firstLexeme value ≠ .objectOpen) (hfirst : firstLexeme value = firstLexeme value')
    (hbehind : writeBehind layout level value rest = writeBehind layout level value' rest') :
    value = value' ∧ rest = rest' := by
  cases value with
  | array items => exact absurd rfl harray
  | object members => exact absurd rfl hobject
  | null | bool b | int n | float x | string s | moment m =>
      cases value' <;> cases hfirst
      exact ⟨rfl, hbehind⟩

theorem scanLexeme_eq_of_write_eq {value value' : Data} (h : value.Readable)
    (h' : value'.Readable) (hrest : Numeral.EndsBefore rest) (hrest' : Numeral.EndsBefore rest')
    (heq : write layout level value rest = write layout level value' rest') :
    firstLexeme value = firstLexeme value' ∧
      writeBehind layout level value rest = writeBehind layout level value' rest' := by
  have hscan : scanLexeme (write layout level value rest) = _ := scanLexeme_write h hrest
  rw [heq, scanLexeme_write h' hrest'] at hscan
  exact Prod.mk.inj hscan.symm

theorem firstLexeme_ne_arrayClose (value : Data) : firstLexeme value ≠ .arrayClose := by
  cases value <;> nofun

/-! ### Blanks -/

theorem newline_injective {cs cs' : List Char}
    (h : layout.newline level cs = layout.newline level cs') : cs = cs' := by
  cases layout with
  | line => exact h
  | indented width => exact List.append_cancel_left (List.cons.inj h).2

theorem separator_injective {cs cs' : List Char}
    (h : layout.separator level cs = layout.separator level cs') : cs = cs' := by
  cases layout with
  | line => exact (List.cons.inj (List.cons.inj h).2).2
  | indented width => exact newline_injective (List.cons.inj h).2

/-- What stands on a new line starts no separator, unless it starts with a comma. -/
theorem newline_ne_separator {level' : Nat} {c : Char} {cs cs' : List Char} (hc : c ≠ ',') :
    layout.newline level (c :: cs) ≠ layout.separator level' cs' := by
  cases layout with
  | line =>
      intro h
      exact hc (List.cons.inj h).1
  | indented width => nofun

/-- A mark that starts a text is not put on a new line, unless the text on the new line
starts with it. -/
theorem cons_ne_newline {c : Char} {cs cs' : List Char} (hc : c ≠ '\n') (h : c :: cs ≠ cs') :
    c :: cs ≠ layout.newline level cs' := by
  cases layout with
  | line => exact h
  | indented width =>
      intro heq
      exact hc (List.cons.inj heq).1

theorem writeString_injective {name name' : String}
    (h : writeString name rest = writeString name' rest') : name = name' ∧ rest = rest' := by
  have hscan : scanLexeme (writeString name rest) = _ := scanLexeme_writeString name
  rw [h, scanLexeme_writeString name'] at hscan
  obtain ⟨hname, hrest⟩ := Prod.mk.inj hscan.symm
  exact ⟨Lexeme.string.inj hname, hrest⟩

/-! ### Values -/

/-- An array that ends at once has no first item. -/
theorem arrayClose_ne_newline {value : Data} (h : value.Readable) {level' : Nat}
    {behind : List Char} (hbehind : Numeral.EndsBefore behind) :
    ']' :: rest ≠ layout.newline level (write layout level' value behind) := by
  apply cons_ne_newline (by decide)
  intro heq
  have hscan : scanLexeme (write layout level' value behind) = _ := scanLexeme_write h hbehind
  rw [← heq] at hscan
  exact firstLexeme_ne_arrayClose value (Prod.mk.inj hscan).1.symm

/-- An object that ends at once has no first member. -/
theorem objectClose_ne_newline {name : String} {behind : List Char} :
    '\x7d' :: rest ≠ layout.newline level (writeString name behind) :=
  cons_ne_newline (by decide) (by simp [writeString])

mutual

/-- Texts that start with written values are the same only if the values are, and what
follows them. -/
theorem write_injective {value value' : Data} (h : value.Readable) (h' : value'.Readable)
    {level : Nat} {rest rest' : List Char} (hrest : Numeral.EndsBefore rest)
    (hrest' : Numeral.EndsBefore rest')
    (heq : write layout level value rest = write layout level value' rest') :
    value = value' ∧ rest = rest' := by
  obtain ⟨hfirst, hbehind⟩ := scanLexeme_eq_of_write_eq h h' hrest hrest' heq
  match value with
  | .null | .bool _ | .int _ | .float _ | .string _ =>
      exact eq_of_firstLexeme_eq nofun nofun hfirst hbehind
  | .array [] =>
      obtain ⟨items', rfl⟩ := firstLexeme_eq_arrayOpen hfirst.symm
      cases items' with
      | nil => exact ⟨rfl, (List.cons.inj hbehind).2⟩
      | cons item' items' =>
          have hends := endsBefore_writeItems layout level items' rest'
          exact absurd hbehind (arrayClose_ne_newline h'.1 hends)
  | .array (item :: items) =>
      obtain ⟨items', rfl⟩ := firstLexeme_eq_arrayOpen hfirst.symm
      cases items' with
      | nil =>
          have hends := endsBefore_writeItems layout level items rest
          exact absurd hbehind.symm (arrayClose_ne_newline h.1 hends)
      | cons item' items' =>
          obtain ⟨rfl, hothers⟩ := write_injective h.1 h'.1
            (endsBefore_writeItems layout level items rest)
            (endsBefore_writeItems layout level items' rest') (newline_injective hbehind)
          obtain ⟨rfl, hrest⟩ := writeItems_injective h.2 h'.2 hothers
          exact ⟨rfl, hrest⟩
  | .object [] =>
      obtain ⟨members', rfl⟩ := firstLexeme_eq_objectOpen hfirst.symm
      cases members' with
      | nil => exact ⟨rfl, (List.cons.inj hbehind).2⟩
      | cons member' members' => exact absurd hbehind objectClose_ne_newline
  | .object ((name, member) :: members) =>
      obtain ⟨members', rfl⟩ := firstLexeme_eq_objectOpen hfirst.symm
      cases members' with
      | nil => exact absurd hbehind.symm objectClose_ne_newline
      | cons member' members' =>
          obtain ⟨rfl, htext⟩ := writeString_injective (newline_injective hbehind)
          obtain ⟨rfl, hothers⟩ := write_injective h.2.1 h'.2.1
            (endsBefore_writeMembers layout level members rest)
            (endsBefore_writeMembers layout level members' rest')
            (List.cons.inj (List.cons.inj htext).2).2
          obtain ⟨rfl, hrest⟩ := writeMembers_injective h.2.2 h'.2.2 hothers
          exact ⟨rfl, hrest⟩

/-- Further items are told apart up to the end of their array. -/
theorem writeItems_injective {items items' : List Data} (h : Data.ItemsReadable items)
    (h' : Data.ItemsReadable items') {level : Nat} {rest rest' : List Char}
    (heq : writeItems layout (level + 1) items (layout.newline level (']' :: rest)) =
      writeItems layout (level + 1) items' (layout.newline level (']' :: rest'))) :
    items = items' ∧ rest = rest' := by
  match items, items' with
  | [], [] => exact ⟨rfl, (List.cons.inj (newline_injective heq)).2⟩
  | [], _ :: _ => exact absurd heq (newline_ne_separator (by decide))
  | _ :: _, [] => exact absurd heq.symm (newline_ne_separator (by decide))
  | item :: items, item' :: items' =>
      obtain ⟨rfl, hothers⟩ := write_injective h.1 h'.1
        (endsBefore_writeItems layout level items rest)
        (endsBefore_writeItems layout level items' rest') (separator_injective heq)
      obtain ⟨rfl, hrest⟩ := writeItems_injective h.2 h'.2 hothers
      exact ⟨rfl, hrest⟩

/-- Further members are told apart up to the end of their object. -/
theorem writeMembers_injective {members members' : List (String × Data)}
    (h : Data.MembersReadable members) (h' : Data.MembersReadable members') {level : Nat}
    {rest rest' : List Char}
    (heq : writeMembers layout (level + 1) members (layout.newline level ('\x7d' :: rest)) =
      writeMembers layout (level + 1) members' (layout.newline level ('\x7d' :: rest'))) :
    members = members' ∧ rest = rest' := by
  match members, members' with
  | [], [] => exact ⟨rfl, (List.cons.inj (newline_injective heq)).2⟩
  | [], _ :: _ => exact absurd heq (newline_ne_separator (by decide))
  | _ :: _, [] => exact absurd heq.symm (newline_ne_separator (by decide))
  | (name, member) :: members, (name', member') :: members' =>
      obtain ⟨rfl, htext⟩ := writeString_injective (separator_injective heq)
      obtain ⟨rfl, hothers⟩ := write_injective h.1 h'.1
        (endsBefore_writeMembers layout level members rest)
        (endsBefore_writeMembers layout level members' rest')
        (List.cons.inj (List.cons.inj htext).2).2
      obtain ⟨rfl, hrest⟩ := writeMembers_injective h.2 h'.2 hothers
      exact ⟨rfl, hrest⟩

end

/-- Readable values of one text are the same. -/
theorem text_injective {value value' : Data} (h : value.Readable) (h' : value'.Readable)
    (heq : text layout value = text layout value') : value = value' :=
  (write_injective h h' endsBefore_nil endsBefore_nil (String.ofList_injective heq)).1

end Rulebook.Json
