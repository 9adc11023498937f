import Rulebook.Json.Writing
import Rulebook.Proofs.JsonText
import Rulebook.Proofs.Utf8Text

/-!
What writers put in front of a text.

A writer puts the same characters in front of every text, and no carriage return among
them (`Text.InFront`); writers are composed of such writers. So a JSON text that is
stored in a file, with a line feed at its end, is read back from it (`parse_line`).
-/

namespace Rulebook

namespace Text

/-- The same characters are put in front of every text, no carriage return among them. -/
def InFront (write : List Char → List Char) : Prop :=
  ∃ front, '\r' ∉ front ∧ ∀ rest, write rest = front ++ rest

theorem inFront_id : InFront fun rest => rest :=
  ⟨[], List.not_mem_nil, fun _ => rfl⟩

theorem inFront_append {front : List Char} (h : '\r' ∉ front) : InFront fun rest => front ++ rest :=
  ⟨front, h, fun _ => rfl⟩

theorem inFront_cons {c : Char} (h : c ≠ '\r') : InFront fun rest => c :: rest :=
  inFront_append fun mem => h (List.mem_singleton.mp mem).symm

section InFront

variable {write write' : List Char → List Char}

theorem InFront.comp (h : InFront write) (h' : InFront write') :
    InFront fun rest => write (write' rest) := by
  obtain ⟨front, hfront, hwrite⟩ := h
  obtain ⟨front', hfront', hwrite'⟩ := h'
  refine ⟨front ++ front', ?_, fun rest => ?_⟩
  · rw [List.mem_append, not_or]
    exact ⟨hfront, hfront'⟩
  · simp only [hwrite, hwrite', List.append_assoc]

theorem InFront.append (h : InFront write) (text rest : List Char) :
    write (text ++ rest) = write text ++ rest := by
  obtain ⟨front, _, hwrite⟩ := h
  rw [hwrite, hwrite, List.append_assoc]

theorem InFront.eq_append (h : InFront write) (rest : List Char) : write rest = write [] ++ rest :=
  h.append [] rest

theorem InFront.no_return (h : InFront write) {rest : List Char} (hrest : '\r' ∉ rest) :
    '\r' ∉ write rest := by
  obtain ⟨front, hfront, hwrite⟩ := h
  rw [hwrite, List.mem_append, not_or]
  exact ⟨hfront, hrest⟩

theorem InFront.length (h : InFront write) (rest : List Char) :
    (write rest).length = (write []).length + rest.length := by
  rw [h.eq_append rest, List.length_append]

end InFront

end Text

/-! ### Numerals -/

namespace Numeral

theorem no_return_text {n : Numeral} (h : n.WellFormed) : '\r' ∉ n.text := by
  intro mem
  rcases mem_text h mem with hdigit | hmark
  · cases hdigit
  · revert hmark
    decide

theorem no_return_intText (n : Int) : '\r' ∉ intText n := by
  rw [← text_ofInt]
  exact no_return_text (wellFormed_ofInt n)

end Numeral

/-! ### JSON -/

namespace Json

open Text

theorem no_return_unitEscape (unit : Nat) : '\r' ∉ unitEscape unit := by
  have hdigit : ∀ n < 16, '\r' ≠ hexDigit n := by decide
  have hmod : ∀ n, '\r' ≠ hexDigit (n % 16) := fun n => hdigit _ (Nat.mod_lt n (by decide))
  simp [unitEscape, hmod]

theorem no_return_charText (c : Char) : '\r' ∉ charText c := by
  unfold charText
  iterate 7
    split
    · decide
  split
  · next hprintable =>
      rw [List.mem_singleton]
      rintro rfl
      exact absurd hprintable.1 (by decide)
  split
  · exact no_return_unitEscape _
  · simp only [List.mem_append, not_or]
    exact ⟨no_return_unitEscape _, no_return_unitEscape _⟩

theorem inFront_writeChars (cs : List Char) : InFront (writeChars cs) := by
  induction cs with
  | nil => exact inFront_id
  | cons c cs ih => exact (inFront_append (no_return_charText c)).comp ih

theorem inFront_writeString (s : String) : InFront (writeString s) :=
  (inFront_cons (by decide)).comp ((inFront_writeChars _).comp (inFront_cons (by decide)))

theorem no_return_numberText (x : Number) : '\r' ∉ numberText x := by
  cases x with
  | nan => decide
  | infinite negative => cases negative <;> decide
  | finite negative rank => exact Numeral.no_return_text (Number.numeralAt_spec negative rank).1

theorem inFront_newline (layout : Layout) (level : Nat) : InFront (layout.newline level) := by
  cases layout with
  | line => exact inFront_id
  | indented width =>
      refine (inFront_cons (by decide)).comp (inFront_append ?_)
      intro mem
      cases List.eq_of_mem_replicate mem

theorem inFront_separator (layout : Layout) (level : Nat) : InFront (layout.separator level) := by
  cases layout with
  | line => exact (inFront_cons (by decide)).comp (inFront_cons (by decide))
  | indented width => exact (inFront_cons (by decide)).comp (inFront_newline _ _)

mutual

theorem inFront_write (layout : Layout) (level : Nat) (value : Data) :
    InFront (write layout level value) := by
  match value with
  | .null => exact inFront_append (by decide)
  | .bool true => exact inFront_append (by decide)
  | .bool false => exact inFront_append (by decide)
  | .int n => exact inFront_append (Numeral.no_return_intText n)
  | .float x => exact inFront_append (no_return_numberText x)
  | .string s => exact inFront_writeString s
  | .moment m => exact inFront_id
  | .array [] => exact (inFront_cons (by decide)).comp (inFront_cons (by decide))
  | .array (item :: items) =>
      exact (inFront_cons (by decide)).comp ((inFront_newline _ _).comp
        ((inFront_write layout _ item).comp ((inFront_writeItems layout _ items).comp
          ((inFront_newline _ _).comp (inFront_cons (by decide))))))
  | .object [] => exact (inFront_cons (by decide)).comp (inFront_cons (by decide))
  | .object ((name, member) :: members) =>
      exact (inFront_cons (by decide)).comp ((inFront_newline _ _).comp
        ((inFront_writeString name).comp ((inFront_cons (by decide)).comp
          ((inFront_cons (by decide)).comp ((inFront_write layout _ member).comp
            ((inFront_writeMembers layout _ members).comp
              ((inFront_newline _ _).comp (inFront_cons (by decide)))))))))

theorem inFront_writeItems (layout : Layout) (level : Nat) (items : List Data) :
    InFront (writeItems layout level items) := by
  match items with
  | [] => exact inFront_id
  | item :: items =>
      exact (inFront_separator _ _).comp ((inFront_write layout level item).comp
        (inFront_writeItems layout level items))

theorem inFront_writeMembers (layout : Layout) (level : Nat) (members : List (String × Data)) :
    InFront (writeMembers layout level members) := by
  match members with
  | [] => exact inFront_id
  | (name, member) :: members =>
      exact (inFront_separator _ _).comp ((inFront_writeString name).comp
        ((inFront_cons (by decide)).comp ((inFront_cons (by decide)).comp
          ((inFront_write layout level member).comp (inFront_writeMembers layout level members)))))

end

/-- A JSON file has no carriage returns. -/
theorem no_return_line (layout : Layout) (value : Data) :
    '\r' ∉ (text layout value ++ "\n").toList := by
  rw [String.toList_append, text, String.toList_ofList, List.mem_append, not_or]
  exact ⟨(inFront_write layout 0 value).no_return List.not_mem_nil, by decide⟩

/-- A value is read from its text with a line feed behind it. -/
theorem parse_line {room : Nat} (layout : Layout) {value : Data} (h : value.Readable)
    (hdepth : value.depth ≤ room) : parse room (text layout value ++ "\n") = .ok value := by
  have hend : Numeral.EndsBefore ['\n'] := endsBefore_cons (by decide)
  have hreads := reads_write h (expects_value []) (Nat.zero_le room) layout 0 hend
  rw [List.length_nil, Nat.zero_add] at hreads
  have htext : (text layout value ++ "\n").toList = write layout 0 value ['\n'] := by
    rw [String.toList_append, text, String.toList_ofList,
      (inFront_write layout 0 value).eq_append ['\n']]
    rfl
  have hread := read_of_startsLexeme room (startsLexeme_write layout 0 h ['\n'])
  rcases hreads with ⟨_, hleads⟩ | ⟨hdeep, _⟩
  · obtain ⟨bound, _, hrun⟩ := (hleads.trans (leads_blank rfl)) _ (Nat.le_refl _)
    rw [hrun, lexemesUpTo_nil] at hread
    simp only [parse, htext, hread]
    rfl
  · exact absurd hdepth (Nat.not_le.mpr hdeep)

end Json

end Rulebook
