import Rulebook.Proofs.JsonLexeme
import Rulebook.Proofs.Readings
import Rulebook.Proofs.WrittenText
import Rulebook.Toml.Writing

/-!
Written strings, keys and numbers of TOML.

Each is read whole in front of what may follow it: a string in front of anything but a
quote (`scanQuoted_writeChars`), a key in front of anything that no bare key goes on into
(`scanKey_dotted`), a number in front of the end of a value (`scanPlain_text`), since no
numeral starts with a date or a time (`noMoment_numeral`).
-/

namespace Rulebook.Toml

open Text

variable {read rest : List Char}

/-! ### Strings -/

theorem scanBasic_of_next (state : StringState) {state' : StringState} {c : Char}
    (more : List Char) (hquote : c ≠ '"' ∨ state.mayEnd = false)
    (h : state.next false c rest = .ok (state', more)) :
    scanBasic false state read (c :: rest) =
      scanBasic false state' (more.reverse ++ read) rest := by
  have hend : (c = '"' && state.mayEnd && (!false || rest.take 2 == ['"', '"'])) = false := by
    rcases hquote with hquote | hquote
    · simp [hquote]
    · simp [hquote]
  rw [scanBasic, if_neg (by rw [hend]; exact Bool.false_ne_true), h]

/-- The digits of a unit are read one by one. -/
theorem scanBasic_unitEscape {c : Char} (h : c.toNat < 0xd800) :
    scanBasic false .text read (Json.unitEscape c.toNat ++ rest) =
      scanBasic false .text (c :: read) rest := by
  have hdigit : ∀ n, Json.hexValue? (Json.hexDigit (n % 16)) = some (n % 16) :=
    fun n => Json.hexValue_hexDigit _ (Nat.mod_lt n (by decide))
  have hmore : ∀ start owed value n read rest, 1 < owed →
      scanBasic false (.digits start owed value) read (Json.hexDigit (n % 16) :: rest) =
        scanBasic false (.digits start (owed - 1) (value * 16 + n % 16)) read rest := by
    intro start owed value n read rest howed
    refine scanBasic_of_next (.digits start owed value) [] (.inr rfl) ?_
    simp only [StringState.next, afterDigit, hdigit, if_pos howed]
  have hvalue : (((0 * 16 + c.toNat / 4096 % 16) * 16 + c.toNat / 256 % 16) * 16 +
      c.toNat / 16 % 16) * 16 + c.toNat % 16 = c.toNat := by omega
  have hlast : ∀ start read rest, scanBasic false
      (.digits start 1 (((0 * 16 + c.toNat / 4096 % 16) * 16 + c.toNat / 256 % 16) * 16 +
        c.toNat / 16 % 16)) read (Json.hexDigit (c.toNat % 16) :: rest) =
      scanBasic false .text (c :: read) rest := by
    intro start read rest
    refine scanBasic_of_next (.digits start 1 _) [c] (.inr rfl) ?_
    simp only [StringState.next, afterDigit, hdigit, hvalue, h, true_or, if_true,
      Char.ofNat_toNat]
    rfl
  have hmark : ∀ read rest, scanBasic false .text read ('\\' :: 'u' :: rest) =
      scanBasic false (.digits rest 4 0) read rest := fun _ _ => rfl
  simp only [Json.unitEscape, List.cons_append, List.nil_append]
  rw [hmark, hmore _ _ _ _ _ _ (by decide), hmore _ _ _ _ _ _ (by decide),
    hmore _ _ _ _ _ _ (by decide), hlast]

/-- A character is read as it was written. -/
theorem scanBasic_charText (c : Char) :
    scanBasic false .text read (charText c ++ rest) = scanBasic false .text (c :: read) rest := by
  unfold charText
  split
  · next h => subst h; rfl
  split
  · next h => subst h; rfl
  split
  · next h => subst h; rfl
  split
  · next h => subst h; rfl
  split
  · next h => subst h; rfl
  split
  · next h => subst h; rfl
  split
  · next hcontrol =>
      refine scanBasic_unitEscape ?_
      simp only [isControl, Bool.or_eq_true, Bool.and_eq_true, decide_eq_true_eq, beq_iff_eq]
        at hcontrol
      omega
  · next hquote hbackslash _ _ _ _ hcontrol =>
      refine scanBasic_of_next .text [c] (.inl hquote) ?_
      simp [StringState.next, afterText, hbackslash, hcontrol]

theorem scanBasic_writeChars (cs : List Char) :
    scanBasic false .text read (writeChars cs ('"' :: rest)) = .ok (read.reverse ++ cs, rest) := by
  induction cs generalizing read with
  | nil => simp [writeChars, scanBasic, StringState.mayEnd]
  | cons c cs ih =>
      rw [writeChars, scanBasic_charText, ih, List.reverse_cons, List.append_assoc]
      rfl

theorem scanOneLine_writeChars (s : String) :
    scanOneLine '"' (writeChars s.toList ('"' :: rest)) = .ok (s, rest) := by
  simp only [scanOneLine, if_true, scanBasic_writeChars]
  simp

/-- No character is written with a quote in front. -/
theorem exists_charText (c : Char) : ∃ first more, charText c = first :: more ∧ first ≠ '"' := by
  unfold charText
  iterate 6
    split
    · exact ⟨_, _, rfl, by decide⟩
  split
  · exact ⟨_, _, rfl, by decide⟩
  · next hquote _ _ _ _ _ _ => exact ⟨_, _, rfl, hquote⟩

/-- A string is read as it was written, unless a quote follows. -/
theorem scanQuoted_writeChars (s : String) (h : rest.head? ≠ some '"') :
    scanQuoted '"' (writeChars s.toList ('"' :: rest)) = .ok (s, rest) := by
  have htwo : (writeChars s.toList ('"' :: rest)).take 2 ≠ ['"', '"'] := by
    cases s.toList with
    | nil =>
        intro htake
        cases rest with
        | nil => cases htake
        | cons c rest =>
            apply h
            cases htake
            rfl
    | cons c cs =>
        obtain ⟨first, more, hfirst, hquote⟩ := exists_charText c
        intro htake
        rw [writeChars, hfirst] at htake
        exact hquote (List.cons.inj htake).1
  rw [scanQuoted, if_neg htwo, scanOneLine_writeChars]

theorem no_return_charText (c : Char) : '\r' ∉ charText c := by
  unfold charText
  iterate 5
    split
    · decide
  split
  · decide
  split
  · exact Json.no_return_unitEscape _
  · next hreturn _ =>
      rw [List.mem_singleton]
      exact fun heq => hreturn heq.symm

theorem inFront_writeChars (cs : List Char) : InFront (writeChars cs) := by
  induction cs with
  | nil => exact inFront_id
  | cons c cs ih => exact (inFront_append (no_return_charText c)).comp ih

theorem inFront_writeString (s : String) : InFront (writeString s) :=
  (inFront_cons (by decide)).comp ((inFront_writeChars _).comp (inFront_cons (by decide)))

/-! ### Keys -/

/-- A text that no bare key goes on into. -/
def EndsBare (rest : List Char) : Prop :=
  ∀ c, rest.head? = some c → isBare c = false

theorem endsBare_cons {c : Char} {cs : List Char} (h : isBare c = false) : EndsBare (c :: cs) := by
  rintro _ ⟨⟩
  exact h

/-- A key is written bare, or as a string. -/
theorem keyText_cases (name : String) :
    (∃ c cs, name.toList = c :: cs ∧ (∀ d ∈ c :: cs, isBare d = true) ∧ keyText name = c :: cs) ∨
      keyText name = writeString name [] := by
  unfold keyText
  split
  · next h =>
      obtain ⟨hne, hbare⟩ := Bool.and_eq_true_iff.mp h
      have hne : name.toList ≠ [] := by
        intro hnil
        rw [String.toList_eq_nil_iff] at hnil
        subst hnil
        cases hne
      obtain ⟨c, cs, hcs⟩ := List.exists_cons_of_ne_nil hne
      rw [hcs] at hbare ⊢
      exact .inl ⟨c, cs, rfl, List.all_eq_true.mp hbare, rfl⟩
  · exact .inr rfl

/-- A key starts with a bare character or a quote. -/
theorem exists_keyText (name : String) :
    ∃ c cs, keyText name = c :: cs ∧ (isBare c = true ∨ c = '"') := by
  rcases keyText_cases name with ⟨c, cs, _, hbare, htext⟩ | htext
  · exact ⟨c, cs, htext, .inl (hbare c List.mem_cons_self)⟩
  · exact ⟨'"', _, htext, .inr rfl⟩

/-- A key starts with no mark that is neither bare nor a quote. -/
theorem ne_of_startsKey {c mark : Char} (hc : isBare c = true ∨ c = '"')
    (hbare : isBare mark = false) (hquote : mark ≠ '"') : c ≠ mark := by
  rintro rfl
  rcases hc with hc | hc
  · rw [hbare] at hc
    cases hc
  · exact hquote hc

/-- A part of a key is read as it was written. -/
theorem scanKeyPart_keyText (name : String) (h : EndsBare rest) :
    scanKeyPart (keyText name ++ rest) = .ok (name, rest) := by
  rcases keyText_cases name with ⟨c, cs, hname, hbare, htext⟩ | htext
  · have htake := Numeral.takeWhile_front hbare h
    have hdrop := Numeral.dropWhile_front hbare h
    have hc := hbare c List.mem_cons_self
    rw [List.cons_append] at htake hdrop
    rw [htext, List.cons_append]
    unfold scanKeyPart
    split
    · next heq =>
        cases heq
        cases hc
    · next heq =>
        cases heq
        cases hc
    · simp only [htake, hdrop, List.isEmpty_cons, Bool.false_eq_true, if_false]
      rw [← hname, String.ofList_toList]
  · rw [htext, ← (inFront_writeString name).eq_append]
    exact scanOneLine_writeChars name

/-- The name of a table whose keys lead to it from the root. -/
def dotted (path : List String) : List Char := path.foldl nameBelow []

theorem dotted_concat (path : List String) (key : String) :
    dotted (path ++ [key]) = nameBelow (dotted path) key := by
  rw [dotted, List.foldl_append]
  rfl

/-- Further parts of a key, each behind a point. -/
def furtherParts (path : List String) : List Char := path.flatMap fun key => '.' :: keyText key

theorem dotted_cons (key : String) (path : List String) :
    dotted (key :: path) = keyText key ++ furtherParts path := by
  have hfold : ∀ name : List Char, name ≠ [] →
      path.foldl nameBelow name = name ++ furtherParts path := by
    induction path with
    | nil => simp [furtherParts]
    | cons other path ih =>
        intro name hne
        have hbelow : nameBelow name other = name ++ ('.' :: keyText other) :=
          if_neg (by simp [hne])
        rw [List.foldl_cons, hbelow, ih _ (by simp), furtherParts, furtherParts, List.flatMap_cons,
          List.append_assoc]
  obtain ⟨c, cs, htext, _⟩ := exists_keyText key
  refine hfold (keyText key) ?_
  rw [htext]
  exact List.cons_ne_nil _ _

theorem skipBlanks_keyText (name : String) (rest : List Char) :
    skipBlanks (keyText name ++ rest) = keyText name ++ rest := by
  obtain ⟨c, cs, htext, hc⟩ := exists_keyText name
  have hspace : c ≠ ' ' := ne_of_startsKey hc rfl (by decide)
  have htab : c ≠ '\t' := ne_of_startsKey hc rfl (by decide)
  have hblank : isBlank c = false := by simp [isBlank, hspace, htab]
  rw [htext, List.cons_append, skipBlanks, List.dropWhile_cons, if_neg (by simp [hblank])]

theorem endsBare_furtherParts (path : List String) (h : EndsBare rest) :
    EndsBare (furtherParts path ++ rest) := by
  cases path with
  | nil => exact h
  | cons key path => exact endsBare_cons rfl

theorem scanKeyParts_furtherParts {path : List String} {bound : Nat} (hbound : path.length ≤ bound)
    (hbare : EndsBare rest) (hpoint : (skipBlanks rest).head? ≠ some '.') :
    scanKeyParts bound (skipBlanks (furtherParts path ++ rest)) = .ok (path, skipBlanks rest) := by
  induction path generalizing bound with
  | nil =>
      unfold scanKeyParts
      split
      · next heq => exact absurd (congrArg List.head? heq) hpoint
      · rfl
  | cons key path ih =>
      obtain ⟨bound, rfl⟩ : ∃ n, bound = n + 1 := ⟨bound - 1, by simp at hbound; omega⟩
      have hends := endsBare_furtherParts path hbare
      have htext : skipBlanks (furtherParts (key :: path) ++ rest) =
          '.' :: (keyText key ++ (furtherParts path ++ rest)) := by
        simp [furtherParts, skipBlanks, isBlank]
      rw [htext, scanKeyParts, skipBlanks_keyText, scanKeyPart_keyText key hends]
      simp only [ok_bind, ih (Nat.le_of_succ_le_succ hbound)]
      rfl

theorem length_furtherParts (path : List String) : path.length ≤ (furtherParts path).length := by
  induction path with
  | nil => exact Nat.le_refl 0
  | cons key path ih =>
      simp only [furtherParts, List.flatMap_cons, List.length_append, List.length_cons] at ih ⊢
      omega

/-- A key is read as it was written, and the blanks behind it are left out. -/
theorem scanKey_dotted {key : String} {path : List String} (hbare : EndsBare rest)
    (hpoint : (skipBlanks rest).head? ≠ some '.') :
    scanKey (dotted (key :: path) ++ rest) = .ok (key :: path, skipBlanks rest) := by
  have hends := endsBare_furtherParts path hbare
  have hlength : path.length ≤ (dotted (key :: path) ++ rest).length := by
    have hparts := length_furtherParts path
    rw [dotted_cons, List.length_append, List.length_append]
    omega
  have hparts := scanKeyParts_furtherParts hlength hbare hpoint
  rw [dotted_cons, List.append_assoc] at hparts ⊢
  rw [scanKey, scanKeyPart_keyText key hends]
  simp only [ok_bind, hparts]
  rfl

/-! ### Numbers -/

/-- A text at which a value ends: a separator, a blank or a line end. -/
def EndsValue (rest : List Char) : Prop :=
  ∃ c cs, rest = c :: cs ∧ (c = ',' ∨ c = ' ' ∨ c = '\n')

/-- A text that no digits go on into, with an underscore or without one. -/
def EndsDigits (rest : List Char) : Prop :=
  ∀ c, rest.head? = some c → c.isDigit = false ∧ c ≠ '_'

theorem EndsValue.endsDigits (h : EndsValue rest) : EndsDigits rest := by
  obtain ⟨c, cs, rfl, rfl | rfl | rfl⟩ := h <;> (rintro _ ⟨⟩; decide)

theorem moreDigits_append {ds : List Char} (hds : ∀ c ∈ ds, c.isDigit = true)
    (hrest : EndsDigits rest) : moreDigits Char.isDigit (ds ++ rest) = (ds, rest) := by
  induction ds with
  | nil =>
      rw [List.nil_append]
      unfold moreDigits
      split
      · exact absurd rfl (hrest '_' rfl).2
      · rw [if_neg (by rw [(hrest _ rfl).1]; exact Bool.false_ne_true)]
      · rfl
  | cons d ds ih =>
      have hd := hds d List.mem_cons_self
      rw [List.cons_append]
      unfold moreDigits
      split
      · next heq =>
          rw [(List.cons.inj heq).1] at hd
          cases hd
      · next heq =>
          obtain ⟨rfl, rfl⟩ := List.cons.inj heq
          rw [if_pos hd, ih fun c mem => hds c (List.mem_cons_of_mem _ mem)]
      · next heq => cases heq

theorem digits?_append {ds : List Char} (hne : ds ≠ []) (hds : ∀ c ∈ ds, c.isDigit = true)
    (hrest : EndsDigits rest) : digits? Char.isDigit (ds ++ rest) = some (ds, rest) := by
  obtain ⟨d, ds, rfl⟩ := List.exists_cons_of_ne_nil hne
  rw [List.cons_append, digits?, if_pos (hds d List.mem_cons_self),
    moreDigits_append (fun c mem => hds c (List.mem_cons_of_mem _ mem)) hrest]

section Numerals

variable {n : Numeral}

theorem endsDigits_exponentTail (exponent : Option Int) (h : EndsValue rest) :
    EndsDigits (Numeral.exponentTail exponent ++ rest) := by
  cases exponent with
  | none => exact h.endsDigits
  | some exponent =>
      rintro _ ⟨⟩
      decide

theorem endsDigits_tailText (n : Numeral) (h : EndsValue rest) :
    EndsDigits (n.tailText ++ rest) := by
  rw [Numeral.tailText, List.append_assoc]
  cases n.fraction with
  | none => exact endsDigits_exponentTail n.exponent h
  | some ds =>
      rintro _ ⟨⟩
      decide

theorem scanFraction_tailText (hn : n.WellFormed) (h : EndsValue rest) :
    scanFraction (n.tailText ++ rest) =
      (n.fraction, Numeral.exponentTail n.exponent ++ rest) := by
  rw [Numeral.tailText, List.append_assoc]
  cases hfraction : n.fraction with
  | none =>
      have hpoint : ∀ cs, Numeral.exponentTail n.exponent ++ rest ≠ '.' :: cs := by
        intro cs heq
        cases hexponent : n.exponent with
        | none =>
            obtain ⟨c, cs', rfl, rfl | rfl | rfl⟩ := h <;>
              (rw [hexponent] at heq; cases heq)
        | some exponent =>
            rw [hexponent] at heq
            cases heq
      rw [Numeral.fractionTail, List.nil_append]
      unfold scanFraction
      split
      · next heq => exact absurd heq (hpoint _)
      · rfl
  | some ds =>
      obtain ⟨hne, hds⟩ := hn.fraction_digits ds hfraction
      rw [Numeral.fractionTail, List.cons_append, scanFraction,
        digits?_append hne hds (endsDigits_exponentTail n.exponent h)]

theorem scanExponent_exponentTail (exponent : Option Int) (h : EndsValue rest) :
    scanExponent (Numeral.exponentTail exponent ++ rest) = (exponent, rest) := by
  cases exponent with
  | none => obtain ⟨c, cs, rfl, rfl | rfl | rfl⟩ := h <;> rfl
  | some exponent =>
      have hdigits := digits?_append (Numeral.paddedDigits_ne_nil exponent.natAbs)
        (fun _ => Numeral.isDigit_of_mem_paddedDigits) h.endsDigits
      rw [Numeral.exponentTail, Numeral.exponentText]
      by_cases hneg : exponent < 0
      · have heq : -Int.ofNat exponent.natAbs = exponent := by rw [Int.ofNat_eq_natCast]; omega
        simp only [scanExponent, scanSign, hneg, hdigits, Numeral.ofDigitChars_paddedDigits, heq,
          List.cons_append, true_or, if_true]
      · have heq : Int.ofNat exponent.natAbs = exponent := by rw [Int.ofNat_eq_natCast]; omega
        simp only [scanExponent, scanSign, hneg, hdigits, Numeral.ofDigitChars_paddedDigits, heq,
          List.cons_append, true_or, if_true, if_false, Bool.false_eq_true]

theorem scanWhole?_append (hn : n.WellFormed) (h : EndsValue rest) :
    scanWhole? (n.whole ++ (n.tailText ++ rest)) = some (n.whole, n.tailText ++ rest) := by
  rcases hn.whole_leading with hzero | ⟨d, ds, hwhole, hd⟩
  · rw [hzero]
    rfl
  · have hne : n.whole ≠ [] := by
      rw [hwhole]
      exact List.cons_ne_nil _ _
    have hdigits := digits?_append hne hn.whole_digits (endsDigits_tailText n h)
    rw [hwhole, List.cons_append] at hdigits ⊢
    unfold scanWhole?
    split
    · next heq =>
        cases heq
        exact absurd rfl hd
    · exact hdigits

/-- A numeral is read as it was written. -/
theorem scanDecimal?_text (hn : n.WellFormed) (h : EndsValue rest) :
    scanDecimal? (n.text ++ rest) = some (n, rest) := by
  have hsign : scanSign (n.text ++ rest) = (n.negative, n.whole ++ (n.tailText ++ rest)) := by
    obtain ⟨d, ds, hwhole, hd⟩ := Numeral.exists_head_whole hn
    cases hneg : n.negative with
    | true => simp [Numeral.text_of_negative hneg, scanSign]
    | false =>
        rw [Numeral.text_of_nonneg hneg, hwhole, List.append_assoc, List.cons_append]
        unfold scanSign
        split
        · next heq =>
            cases heq
            cases hd
        · next heq =>
            cases heq
            cases hd
        · rfl
  rw [scanDecimal?, hsign]
  simp only [scanWhole?_append hn h, Option.bind_eq_bind, Option.bind_some,
    scanFraction_tailText hn h, scanExponent_exponentTail n.exponent h]
  rfl

/-- What may stand right behind the whole part of a numeral. -/
def tailMarks : List Char := ['.', 'e', ',', ' ', '\n']

theorem mem_tailMarks (n : Numeral) (h : EndsValue rest) {mark : Char} {cs : List Char}
    (heq : n.tailText ++ rest = mark :: cs) : mark ∈ tailMarks := by
  rw [Numeral.tailText] at heq
  cases hfraction : n.fraction with
  | some ds =>
      rw [hfraction] at heq
      cases heq
      decide
  | none =>
      cases hexponent : n.exponent with
      | some exponent =>
          rw [hfraction, hexponent] at heq
          cases heq
          decide
      | none =>
          rw [hfraction, hexponent] at heq
          obtain ⟨c, cs', rfl, rfl | rfl | rfl⟩ := h <;> (cases heq; decide)

/-- No numeral is taken for an integer of another base. -/
theorem scanBased?_text (hn : n.WellFormed) (h : EndsValue rest) :
    scanBased? (n.text ++ rest) = none := by
  have hmarks : ∀ mark ∈ tailMarks, mark ≠ 'x' ∧ mark ≠ 'o' ∧ mark ≠ 'b' := by
    simp [tailMarks]
  unfold scanBased?
  split
  · next mark cs heq =>
      cases hneg : n.negative with
      | true =>
          rw [Numeral.text_of_negative hneg] at heq
          cases heq
      | false =>
          rw [Numeral.text_of_nonneg hneg, List.append_assoc] at heq
          rcases hn.whole_leading with hzero | ⟨d, ds, hwhole, hd⟩
          · rw [hzero] at heq
            obtain ⟨hx, ho, hb⟩ := hmarks mark (mem_tailMarks n h (List.cons.inj heq).2)
            simp [hx, ho, hb]
          · rw [hwhole] at heq
            exact absurd (List.cons.inj heq).1 hd
  · rfl

theorem scanNumber_numeral (hn : n.WellFormed) (h : EndsValue rest) :
    scanNumber (n.text ++ rest) = (numeralData n).map (·, rest) := by
  simp only [scanNumber, scanBased?_text hn h, scanDecimal?_text hn h]

end Numerals

/-! ### Numbers and moments -/

/-- A text that starts with no date and no time of day: neither mark of one stands right
behind the digits at its front. -/
def NoMoment (cs : List Char) : Prop :=
  ∀ d ds, cs = d :: ds → d.isDigit = true →
    (ds.dropWhile Char.isDigit).head? ≠ some '-' ∧ (ds.dropWhile Char.isDigit).head? ≠ some ':'

theorem mark?_eq_none {mark : Char} {cs : List Char} (hmark : mark.isDigit = false)
    (h : (cs.dropWhile Char.isDigit).head? ≠ some mark) : mark? mark cs = none := by
  cases cs with
  | nil => rfl
  | cons c cs =>
      rw [mark?, if_neg]
      rintro rfl
      apply h
      rw [List.dropWhile_cons, if_neg (by rw [hmark]; exact Bool.false_ne_true)]
      rfl

theorem twoDigits?_eq_some {least most n : Nat} {cs : List Char}
    (h : twoDigits? least most cs = some (n, rest)) :
    ∃ tens ones, cs = tens :: ones :: rest ∧ tens.isDigit = true ∧ ones.isDigit = true := by
  unfold twoDigits? at h
  split at h
  · obtain ⟨hdigits, heq⟩ := Option.ite_none_right_eq_some.mp h
    simp only [Bool.and_eq_true] at hdigits
    cases heq
    exact ⟨_, _, rfl, hdigits.1.1, hdigits.1.2⟩
  · cases h

theorem scanClock?_eq_none {cs : List Char} (h : NoMoment cs) : scanClock? cs = none := by
  rw [scanClock?]
  cases hhour : twoDigits? 0 23 cs with
  | none => rfl
  | some hour =>
      obtain ⟨tens, ones, rfl, htens, hones⟩ := twoDigits?_eq_some hhour
      have hcolon := (h tens _ rfl htens).2
      rw [List.dropWhile_cons, if_pos hones] at hcolon
      simp only [Option.bind_eq_bind, Option.bind_some, mark?_eq_none rfl hcolon, Option.bind_none]

theorem scanDate?_eq_none {cs : List Char} (h : NoMoment cs) : scanDate? cs = none := by
  unfold scanDate?
  split
  · next a b c d rest =>
      split
      · next hdigits =>
          simp only [List.all_cons, List.all_nil, Bool.and_true, Bool.and_eq_true] at hdigits
          obtain ⟨ha, hb, hc, hd⟩ := hdigits
          have hdash := (h a _ rfl ha).1
          simp only [List.dropWhile_cons, hb, hc, hd, if_true] at hdash
          simp only [mark?_eq_none rfl hdash, Option.bind_eq_bind, Option.bind_none]
      · rfl
  · rfl

theorem scanPlain_of_noMoment {cs : List Char} (h : NoMoment cs) :
    scanPlain cs = scanNumber cs := by
  rw [scanPlain, scanMoment?, scanDate?_eq_none h, scanClock?_eq_none h]
  rfl

/-- A numeral is not taken for a date or a time. -/
theorem noMoment_numeral {n : Numeral} (hn : n.WellFormed) (h : EndsValue rest) :
    NoMoment (n.text ++ rest) := by
  have htail : ∀ mark, (n.tailText ++ rest).head? = some mark → mark ∈ tailMarks := by
    intro mark hmark
    obtain ⟨cs, hcs⟩ := List.head?_eq_some_iff.mp hmark
    exact mem_tailMarks n h hcs
  intro d ds heq hd
  cases hneg : n.negative with
  | true =>
      rw [Numeral.text_of_negative hneg] at heq
      cases heq
      cases hd
  | false =>
      obtain ⟨first, more, hwhole, _⟩ := Numeral.exists_head_whole hn
      rw [Numeral.text_of_nonneg hneg, hwhole, List.append_assoc, List.cons_append] at heq
      obtain ⟨rfl, rfl⟩ := List.cons.inj heq
      have hmore : ∀ c ∈ more, c.isDigit = true := fun c mem =>
        hn.whole_digits c (by rw [hwhole]; exact List.mem_cons_of_mem _ mem)
      rw [Numeral.dropWhile_front hmore fun c hc => (endsDigits_tailText n h c hc).1]
      exact ⟨fun hdash => absurd (htail _ hdash) (by decide),
        fun hcolon => absurd (htail _ hcolon) (by decide)⟩

/-- An integer of not too many digits is read as it was written. -/
theorem scanPlain_intText {n : Int} (hn : n.natAbs < Nat.pow 10 Data.maxDigits)
    (h : EndsValue rest) : scanPlain (Numeral.intText n ++ rest) = .ok (.int n, rest) := by
  have hlength : ¬ Data.maxDigits < (Numeral.ofInt n).whole.length :=
    Nat.not_lt.mpr (Numeral.length_whole_ofInt (by decide) hn)
  have hdata : numeralData (Numeral.ofInt n) = .ok (.int n) := by
    have hinteger : (Numeral.ofInt n).isInteger = true := rfl
    rw [numeralData, if_pos hinteger, if_neg hlength, Numeral.toInt_ofInt]
  have hformed := Numeral.wellFormed_ofInt n
  rw [← Numeral.text_ofInt, scanPlain_of_noMoment (noMoment_numeral hformed h),
    scanNumber_numeral hformed h, hdata]
  rfl

/-- A number is read as it was written, finite or not. -/
theorem scanPlain_text (x : Number) (h : EndsValue rest) :
    scanPlain (x.text ++ rest) = .ok (.float x, rest) := by
  cases x with
  | nan =>
      rw [scanPlain_of_noMoment (by rintro _ _ ⟨⟩ ⟨⟩)]
      rfl
  | infinite negative =>
      rw [scanPlain_of_noMoment (by cases negative <;> rintro _ _ ⟨⟩ ⟨⟩)]
      cases negative <;> rfl
  | finite negative rank =>
      obtain ⟨hformed, hinteger, hvalue⟩ := Number.numeralAt_spec negative rank
      have hdata : numeralData (Number.numeralAt negative rank) =
          .ok (.float (.finite negative rank)) := by
        rw [numeralData, if_neg (by rw [hinteger]; exact Bool.false_ne_true), hvalue]
      rw [Number.text, scanPlain_of_noMoment (noMoment_numeral hformed h),
        scanNumber_numeral hformed h, hdata]
      rfl

end Rulebook.Toml
