import Rulebook.Json.Lexeme
import Rulebook.Json.Writing
import Rulebook.Proofs.NumberText

/-!
Written strings, numbers and words are lexemes.

Whatever is written for a string or a scalar is read as one lexeme, in front of any
text in which no numeral goes on (`scanLexeme_writeString`, `scanLexeme_numberText`).
-/

namespace Rulebook.Json

variable {opening read rest : List Char}

/-! ### Escapes -/

theorem hexValue_hexDigit : ∀ n < 16, hexValue? (hexDigit n) = some n := by decide

/-- The four digits of a unit name it. -/
theorem unit_hexDigits {unit : Nat} (h : unit < 0x10000) :
    unit? (hexDigit (unit / 4096 % 16)) (hexDigit (unit / 256 % 16)) (hexDigit (unit / 16 % 16))
      (hexDigit (unit % 16)) = some unit := by
  have hdigit : ∀ n, hexValue? (hexDigit (n % 16)) = some (n % 16) :=
    fun n => hexValue_hexDigit _ (Nat.mod_lt n (by decide))
  simp only [unit?, hdigit]
  exact congrArg some (by omega)

theorem scanString_escape {cs : List Char} {c : Char} {width : Nat}
    (h : scanEscape opening cs = .ok (c, width)) :
    scanString opening 0 read ('\\' :: cs) = scanString opening width (c :: read) cs := by
  simp [scanString, h]

/-- A character keeps clear of the halves of surrogate pairs. -/
theorem toNat_cases (c : Char) : c.toNat < 0xD800 ∨ 0xE000 ≤ c.toNat ∧ c.toNat < 0x110000 := by
  have hvalid : c.toNat < 0xD800 ∨ 0xDFFF < c.toNat ∧ c.toNat < 0x110000 := c.valid
  omega

theorem isHighUnit_toNat (c : Char) : isHighUnit c.toNat = false := by
  have := toNat_cases c
  simp only [isHighUnit, Bool.and_eq_false_iff, decide_eq_false_iff_not]
  omega

theorem unitChar_toNat (c : Char) : unitChar c.toNat = c := by
  have hlow : isLowUnit c.toNat = false := by
    have := toNat_cases c
    simp only [isLowUnit, Bool.and_eq_false_iff, decide_eq_false_iff_not]
    omega
  simp [unitChar, isHighUnit_toNat, hlow]

/-- The escape of one unit. The text has to go on behind it. -/
theorem scanString_unitEscape {c : Char} (h : c.toNat < 0x10000) (hrest : rest ≠ []) :
    scanString opening 0 read (unitEscape c.toNat ++ rest) =
      scanString opening 0 (c :: read) rest := by
  obtain ⟨next, rest, rfl⟩ := List.exists_cons_of_ne_nil hrest
  have hescape : scanEscape opening ((unitEscape c.toNat).tail ++ next :: rest) = .ok (c, 5) := by
    simp [unitEscape, scanEscape, scanUnicodeEscape, unit_hexDigits h, isHighUnit_toNat,
      unitChar_toNat]
  exact scanString_escape hescape

theorem escapedLowUnit_unitEscape {low : Nat} (h : isLowUnit low = true) (next : Char)
    (rest : List Char) :
    escapedLowUnit? (unitEscape low ++ next :: rest) = some low := by
  have hbound : low < 0x10000 := by
    simp only [isLowUnit, Bool.and_eq_true, decide_eq_true_eq] at h
    omega
  have hfilter : (some low).filter isLowUnit = some low := Option.filter_eq_some_iff.mpr ⟨rfl, h⟩
  rw [← hfilter, ← unit_hexDigits hbound]
  rfl

/-- The escapes of a surrogate pair. The text has to go on behind them. -/
theorem scanString_unitEscapes {high low : Nat} (hhigh : isHighUnit high = true)
    (hlow : isLowUnit low = true) (hrest : rest ≠ []) :
    scanString opening 0 read (unitEscape high ++ (unitEscape low ++ rest)) =
      scanString opening 0 (joinUnits high low :: read) rest := by
  obtain ⟨next, rest, rfl⟩ := List.exists_cons_of_ne_nil hrest
  have hbound : high < 0x10000 := by
    simp only [isHighUnit, Bool.and_eq_true, decide_eq_true_eq] at hhigh
    omega
  have hescape : scanEscape opening ((unitEscape high).tail ++ (unitEscape low ++ next :: rest)) =
      .ok (joinUnits high low, 11) := by
    have hdigits := unit_hexDigits hbound
    have hescaped := escapedLowUnit_unitEscape hlow next rest
    simp only [unitEscape, List.tail_cons, List.cons_append, List.nil_append] at hescaped ⊢
    simp [scanEscape, scanUnicodeEscape, hdigits, hescaped, hhigh]
  exact scanString_escape hescape

/-- A character beyond the basic plane is the character of its surrogate pair. -/
theorem joinUnits_toNat {c : Char} (h : 0x10000 ≤ c.toNat) :
    isHighUnit (0xD800 + (c.toNat - 0x10000) / 0x400) = true ∧
      isLowUnit (0xDC00 + (c.toNat - 0x10000) % 0x400) = true ∧
      joinUnits (0xD800 + (c.toNat - 0x10000) / 0x400) (0xDC00 + (c.toNat - 0x10000) % 0x400) =
        c := by
  have hbound := toNat_cases c
  refine ⟨?_, ?_, ?_⟩
  · simp only [isHighUnit, Bool.and_eq_true, decide_eq_true_eq]
    omega
  · simp only [isLowUnit, Bool.and_eq_true, decide_eq_true_eq]
    omega
  · have hvalue : 0x10000 + (0xD800 + (c.toNat - 0x10000) / 0x400 - 0xD800) * 0x400 +
        (0xDC00 + (c.toNat - 0x10000) % 0x400 - 0xDC00) = c.toNat := by omega
    unfold joinUnits
    rw [hvalue, Char.ofNat_toNat]

/-! ### Strings -/

theorem scanString_plain {c : Char} (hquote : c ≠ '"') (hbackslash : c ≠ '\\')
    (hcontrol : 0x20 ≤ c.toNat) :
    scanString opening 0 read (c :: rest) = scanString opening 0 (c :: read) rest := by
  simp [scanString, hquote, hbackslash, Nat.not_lt.mpr hcontrol]

/-- A character is read as it was written. -/
theorem scanString_charText (c : Char) (hrest : rest ≠ []) :
    scanString opening 0 read (charText c ++ rest) = scanString opening 0 (c :: read) rest := by
  unfold charText
  split
  · next h => subst h; rfl
  split
  · next h => subst h; rfl
  split
  · next h => subst h; rfl
  split
  · next h => subst h; rfl
  split
  · next h => subst h; rfl
  split
  · next h => subst h; rfl
  split
  · next h => subst h; rfl
  split
  · next hquote hbackslash _ _ _ _ _ h => exact scanString_plain hquote hbackslash h.1
  split
  · next h => exact scanString_unitEscape h hrest
  · next h =>
      obtain ⟨hhigh, hlow, hjoin⟩ := joinUnits_toNat (Nat.le_of_not_lt h)
      rw [List.append_assoc, scanString_unitEscapes hhigh hlow hrest, hjoin]

theorem writeChars_ne_nil (cs : List Char) (hrest : rest ≠ []) : writeChars cs rest ≠ [] := by
  cases cs with
  | nil => exact hrest
  | cons c cs =>
      unfold writeChars charText
      repeat' split
      all_goals exact List.cons_ne_nil _ _

theorem scanString_writeChars (cs : List Char) :
    scanString opening 0 read (writeChars cs ('"' :: rest)) =
      .ok (String.ofList (read.reverse ++ cs), rest) := by
  induction cs generalizing read with
  | nil => simp [writeChars, scanString]
  | cons c cs ih =>
      rw [writeChars, scanString_charText c (writeChars_ne_nil cs (List.cons_ne_nil _ _)), ih,
        List.reverse_cons, List.append_assoc]
      rfl

/-- A string is read as it was written. -/
theorem scanLexeme_writeString (s : String) :
    scanLexeme (writeString s rest) = (.string s, rest) := by
  simp only [writeString, scanLexeme, scanString_writeChars]
  simp

/-! ### Scalars -/

/-- No word is read at the front of a numeral. -/
theorem scanWord_of_numeral {n : Numeral} (h : n.WellFormed) :
    scanWord? (n.text ++ rest) = none := by
  obtain ⟨d, ds, hwhole, hd⟩ := Numeral.exists_head_whole h
  have hletters : ∀ c ∈ ['n', 't', 'f', 'N', 'I', '-'], c.isDigit = false := by simp
  have hne : ∀ c ∈ ['n', 't', 'f', 'N', 'I', '-'], ¬ c = d := by
    intro c mem
    exact (Numeral.ne_of_isDigit hd hletters mem).symm
  simp only [List.forall_mem_cons] at hne
  cases hneg : n.negative with
  | false => simp [scanWord?, words, Numeral.text, hwhole, hneg, hne]
  | true => simp [scanWord?, words, Numeral.text, hwhole, hneg, hne]

/-- A numeral is one lexeme in front of any text that it cannot go on into. -/
theorem scanLexeme_numeral {n : Numeral} (h : n.WellFormed) (hrest : Numeral.EndsBefore rest) :
    scanLexeme (n.text ++ rest) = (numeralLexeme n, rest) := by
  have hscalar : scanScalar (n.text ++ rest) = (numeralLexeme n, rest) := by
    simp only [scanScalar, scanWord_of_numeral h, Numeral.scan_text h hrest]
  rw [← hscalar]
  obtain ⟨d, ds, hwhole, hd⟩ := Numeral.exists_head_whole h
  have hmarks : ∀ c ∈ ['[', ']', '\x7b', '\x7d', ',', ':', '"'], c.isDigit = false := by simp
  have hne : ∀ c ∈ ['[', ']', '\x7b', '\x7d', ',', ':', '"'], ¬ d = c := by
    intro c mem
    exact Numeral.ne_of_isDigit hd hmarks mem
  simp only [List.forall_mem_cons] at hne
  cases hneg : n.negative with
  | false => simp [scanLexeme, Numeral.text_of_nonneg hneg, hwhole, hne]
  | true => simp [scanLexeme, Numeral.text_of_negative hneg]

/-- An integer that can be written is read as it was written. -/
theorem scanLexeme_intText {n : Int} (h : n.natAbs < Nat.pow 10 Data.maxDigits)
    (hrest : Numeral.EndsBefore rest) :
    scanLexeme (Numeral.intText n ++ rest) = (.scalar (.int n), rest) := by
  have hlength : ¬ Data.maxDigits < (Numeral.ofInt n).whole.length :=
    Nat.not_lt.mpr (Numeral.length_whole_ofInt (by decide) h)
  have hlexeme : numeralLexeme (Numeral.ofInt n) = .scalar (.int n) := by
    have hinteger : (Numeral.ofInt n).isInteger = true := rfl
    unfold numeralLexeme
    rw [if_pos hinteger, if_neg hlength, Numeral.toInt_ofInt]
  rw [← Numeral.text_ofInt, scanLexeme_numeral (Numeral.wellFormed_ofInt n) hrest, hlexeme]

/-- A floating-point number is read as it was written, finite or not. -/
theorem scanLexeme_numberText (x : Number) (hrest : Numeral.EndsBefore rest) :
    scanLexeme (numberText x ++ rest) = (.scalar (.float x), rest) := by
  cases x with
  | nan => rfl
  | infinite negative => cases negative <;> rfl
  | finite negative rank =>
      obtain ⟨hformed, hinteger, hvalue⟩ := Number.numeralAt_spec negative rank
      have hlexeme : numeralLexeme (Number.numeralAt negative rank) =
          .scalar (.float (.finite negative rank)) := by
        unfold numeralLexeme
        rw [hinteger, hvalue]
        rfl
      have htext : numberText (.finite negative rank) = (Number.numeralAt negative rank).text := rfl
      rw [htext, scanLexeme_numeral hformed hrest, hlexeme]

end Rulebook.Json
