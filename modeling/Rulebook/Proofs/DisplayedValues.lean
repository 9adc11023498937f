import Rulebook.Input
import Rulebook.Proofs.Equality
import Rulebook.Proofs.ExprDocument

/-!
Values that are shown can be typed back in.

A number is shown by a numeral: that of an integer with all its digits, or the shortest
one (`exists_numeral_numberText`). What is typed as a number is read after the blanks
around it are taken away, with digits of any script. A numeral has no blanks and no
other digits, and it starts with a sign or a digit, so it is no word; what is read is its
value (`number?_padded`).
-/

namespace Rulebook

/-! ### Blanks around a text -/

namespace Text

/-- Blanks around a text that has none are taken away. -/
theorem strip_padded {blank : Char → Bool} {before core after : List Char}
    (hbefore : ∀ c ∈ before, blank c = true) (hafter : ∀ c ∈ after, blank c = true)
    (hcore : ∀ c ∈ core, blank c = false) (hne : core ≠ []) :
    strip blank (before ++ (core ++ after)) = core := by
  have hhead : ∀ c, (core ++ after).head? = some c → blank c = false := by
    intro c hc
    obtain ⟨first, rest, rfl⟩ := List.exists_cons_of_ne_nil hne
    cases hc
    exact hcore _ List.mem_cons_self
  have hlast : ∀ c, core.reverse.head? = some c → blank c = false :=
    fun c hc => hcore c (List.mem_reverse.mp (List.mem_of_head? hc))
  have hend : ∀ c ∈ after.reverse, blank c = true := fun c mem => hafter c (List.mem_reverse.mp mem)
  rw [strip, Numeral.dropWhile_front hbefore hhead, List.reverse_append,
    Numeral.dropWhile_front hend hlast, List.reverse_reverse]

end Text

/-! ### Numerals -/

/-- A decimal digit is one of ten characters. -/
theorem of_isDigit {holds : Char → Prop} (h : ∀ n < 10, holds (Char.ofNat (48 + n))) {c : Char}
    (hc : c.isDigit = true) : holds c := by
  have hrange : 48 ≤ c.toNat ∧ c.toNat ≤ 57 := by
    simpa [Char.isDigit, UInt32.le_iff_toNat_le] using hc
  have hchar := h (c.toNat - 48) (by omega)
  rwa [Nat.add_sub_cancel' hrange.1, Char.ofNat_toNat] at hchar

namespace Input

/-- A character that is read as it stands in a number. -/
structure Plain (c : Char) : Prop where
  not_blank : Text.isNumberBlank c = false
  not_underscore : c ≠ '_'
  ascii : Text.toAsciiDigit c = c

theorem plain_of_mem_text {n : Numeral} (h : n.WellFormed) {c : Char} (mem : c ∈ n.text) :
    Plain c := by
  rcases Numeral.mem_text h mem with hdigit | hmark
  · refine of_isDigit (fun n hn => ?_) hdigit
    have hall : ∀ n < 10, Text.isNumberBlank (Char.ofNat (48 + n)) = false ∧
        Char.ofNat (48 + n) ≠ '_' ∧
        Text.toAsciiDigit (Char.ofNat (48 + n)) = Char.ofNat (48 + n) := by decide
    obtain ⟨hblank, hunderscore, hascii⟩ := hall n hn
    exact ⟨hblank, hunderscore, hascii⟩
  · simp only [List.mem_cons, List.not_mem_nil, or_false] at hmark
    rcases hmark with rfl | rfl | rfl | rfl
    · exact ⟨by decide, by decide, by decide⟩
    · exact ⟨by decide, by decide, by decide⟩
    · exact ⟨by decide, by decide, by decide⟩
    · exact ⟨by decide, by decide, by decide⟩

theorem exponentToEnd?_exponentTail (exponent : Option Int) :
    exponentToEnd? (Numeral.exponentTail exponent) = some (exponent.getD 0) := by
  cases exponent with
  | none => rfl
  | some exponent =>
      have hscan := Numeral.scanExponent_exponentText exponent Json.endsBefore_nil
      rw [List.append_nil] at hscan
      simp only [exponentToEnd?, Numeral.exponentTail]
      split
      · next heq => cases heq
      · rw [hscan]
        rfl

theorem spanDigits_append {ds rest : List Char} (hds : ∀ c ∈ ds, c.isDigit = true)
    (hrest : ∀ c, rest.head? = some c → c.isDigit = false) :
    spanDigits (ds ++ rest) = (ds, rest) := by
  rw [spanDigits, Numeral.takeWhile_front hds hrest, Numeral.dropWhile_front hds hrest]

/-- A numeral without its sign is read as its value. -/
theorem decimal?_text {n : Numeral} (h : n.WellFormed) :
    decimal? n.negative (n.whole ++ n.tailText) = some n.toNumber := by
  have hwhole : spanDigits (n.whole ++ n.tailText) = (n.whole, n.tailText) := by
    refine spanDigits_append h.whole_digits fun c hc => ?_
    exact Numeral.head_tailText n Json.endsBefore_nil (by rwa [List.append_nil])
  have hsome : n.whole.isEmpty = false := by
    obtain ⟨d, ds, hdigits, _⟩ := Numeral.exists_head_whole h
    rw [hdigits]
    rfl
  have hexponent : ∀ c, (Numeral.exponentTail n.exponent).head? = some c →
      c.isDigit = false ∧ c ≠ '.' := by
    intro c hc
    exact Numeral.head_exponentTail Json.endsBefore_nil (by rwa [List.append_nil])
  simp only [decimal?, hwhole, hsome, Bool.false_and, Bool.false_eq_true, if_false]
  cases hfraction : n.fraction with
  | none =>
      have htail : n.tailText = Numeral.exponentTail n.exponent := by
        rw [Numeral.tailText, hfraction, Numeral.fractionTail, List.nil_append]
      rw [htail]
      split
      · next heq => exact absurd rfl (hexponent '.' (by rw [heq]; rfl)).2
      · simp [exponentToEnd?_exponentTail, Numeral.toNumber, hfraction]
  | some ds =>
      have htail : n.tailText = '.' :: (ds ++ Numeral.exponentTail n.exponent) := by
        rw [Numeral.tailText, hfraction, Numeral.fractionTail, List.cons_append]
      have hspan := spanDigits_append (h.fraction_digits ds hfraction).2
        fun c hc => (hexponent c hc).1
      rw [htail]
      simp [hspan, exponentToEnd?_exponentTail, Numeral.toNumber, hfraction]

/-- What starts with a digit is no word. -/
theorem unsigned?_of_isDigit (negative : Bool) {d : Char} {ds : List Char} (hd : d.isDigit = true) :
    unsigned? negative (d :: ds) = decimal? negative (d :: ds) := by
  have hlower : d.toLower ≠ 'i' ∧ d.toLower ≠ 'n' :=
    @of_isDigit (fun c => c.toLower ≠ 'i' ∧ c.toLower ≠ 'n') (by decide) d hd
  have hword : ∀ c cs, d.toLower ≠ c →
      String.ofList ((d :: ds).map Char.toLower) ≠ String.ofList (c :: cs) := by
    intro c cs hne heq
    exact hne (List.cons.inj (String.ofList_injective heq)).1
  have hinf := hword 'i' ['n', 'f'] hlower.1
  have hinfinity := hword 'i' ['n', 'f', 'i', 'n', 'i', 't', 'y'] hlower.1
  have hnan := hword 'n' ['a', 'n'] hlower.2
  rw [unsigned?, if_neg (not_or.mpr ⟨hinf, hinfinity⟩), if_neg hnan]

/-- A numeral with blanks around it is read as its value. -/
theorem number?_padded {n : Numeral} (h : n.WellFormed) {before after : String}
    (hbefore : ∀ c ∈ before.toList, Text.isNumberBlank c = true)
    (hafter : ∀ c ∈ after.toList, Text.isNumberBlank c = true) :
    number? (before ++ String.ofList n.text ++ after) = some n.toNumber := by
  obtain ⟨d, ds, hwhole, hd⟩ := Numeral.exists_head_whole h
  have hne : n.text ≠ [] := by
    simp [Numeral.text, hwhole]
  have hstrip : Text.strip Text.isNumberBlank (before ++ String.ofList n.text ++ after).toList =
      n.text := by
    rw [String.toList_append, String.toList_append, String.toList_ofList, List.append_assoc]
    exact Text.strip_padded hbefore hafter (fun c mem => (plain_of_mem_text h mem).not_blank) hne
  have hascii : n.text.map Text.toAsciiDigit = n.text :=
    (List.map_congr_left fun c mem => (plain_of_mem_text h mem).ascii).trans n.text.map_id
  have hvalue := decimal?_text h
  rw [number?, hstrip, hascii]
  cases hneg : n.negative with
  | true =>
      rw [hneg] at hvalue
      rw [hwhole, List.cons_append] at hvalue
      rw [Numeral.text_of_negative hneg, hwhole, List.cons_append]
      simp only [unsigned?_of_isDigit true hd, hvalue]
  | false =>
      rw [hneg] at hvalue
      rw [Numeral.text_of_nonneg hneg]
      rw [hwhole, List.cons_append] at hvalue ⊢
      split
      · next heq => cases heq; cases hd
      · next heq => cases heq; cases hd
      · rw [unsigned?_of_isDigit false hd, hvalue]

/-- A numeral of a finite number, with blanks around it, is taken as a number. -/
theorem finiteNumber?_padded {n : Numeral} (h : n.WellFormed) (hfinite : n.toNumber.isFinite = true)
    {before after : String} (hbefore : ∀ c ∈ before.toList, Text.isNumberBlank c = true)
    (hafter : ∀ c ∈ after.toList, Text.isNumberBlank c = true) :
    finiteNumber? (before ++ String.ofList n.text ++ after) = some n.toNumber := by
  have hplain : '_' ∉ (before ++ String.ofList n.text ++ after).toList := by
    simp only [String.toList_append, String.toList_ofList, List.mem_append, not_or]
    refine ⟨⟨?_, ?_⟩, ?_⟩
    · exact fun mem => absurd (hbefore '_' mem) (by decide)
    · exact fun mem => (plain_of_mem_text h mem).not_underscore rfl
    · exact fun mem => absurd (hafter '_' mem) (by decide)
  rw [finiteNumber?, if_neg (by rwa [List.contains_iff_mem]), number?_padded h hbefore hafter,
    Option.filter_some, if_pos hfinite]

/-- A word with blanks around it is taken as the truth value that it says. -/
theorem bool?_padded (b : Bool) {before after : String}
    (hbefore : ∀ c ∈ before.toList, Text.isBlank c = true)
    (hafter : ∀ c ∈ after.toList, Text.isBlank c = true) :
    bool? (before ++ (Literal.bool b).text ++ after) = some b := by
  have hstrip : Text.strip Text.isBlank (before ++ (Literal.bool b).text ++ after).toList =
      (Literal.bool b).text.toList := by
    rw [String.toList_append, String.toList_append, List.append_assoc]
    have hword : (Literal.bool b).text.toList.all (fun c => !Text.isBlank c) = true := by
      cases b <;> decide
    refine Text.strip_padded hbefore hafter (fun c mem => ?_) ?_
    · exact Bool.eq_false_of_not_eq_true' (List.all_eq_true.mp hword c mem)
    · cases b <;> decide
  rw [bool?, hstrip]
  cases b <;> rfl

end Input

/-! ### What is shown -/

namespace Number

/-- Digits without an exponent are read as the integer that they name. -/
theorem ofDecimal_whole (negative : Bool) (digits : Nat) :
    ofDecimal negative digits 0 = ofRatio negative digits 1 := by
  by_cases hzero : digits = 0
  · have hrank := nearestRank_unitsAt 0 Nat.one_pos
    rw [unitsAt_zero, Nat.zero_mul] at hrank
    rw [hzero, ofDecimal_zero, ofRatio, Nat.zero_mul, hrank]
  · have hten : digits * Nat.pow 10 0 = digits := Nat.mul_one digits
    exact (if_neg hzero).trans (by rw [if_neg (by decide), hten])

theorem isFinite_canonical {x : Number} (h : x.isFinite = true) : x.canonical.isFinite = true := by
  cases x with
  | infinite negative => cases h
  | nan => cases h
  | finite negative rank =>
      simp only [canonical]
      split <;> rfl

theorem eq_of_bounded? {x y : Number} (h : x.bounded? = some y) : x = y := by
  cases x with
  | infinite negative => cases h
  | finite negative rank => exact Option.some.inj h
  | nan => exact Option.some.inj h

end Number

/-- The numeral of an integer has the number nearest to the integer as its value. -/
theorem Numeral.toNumber_ofInt (n : Int) :
    (ofInt n).toNumber = Number.ofRatio (decide (n < 0)) n.natAbs 1 := by
  rw [← Number.ofDecimal_whole, ← @Nat.ofDigitChars_ten_toDigits n.natAbs]
  simp [toNumber, ofInt]

namespace Literal

/-- A finite number is shown by a numeral, whose value is the number or, of a zero, the
one without a sign. -/
theorem exists_numeral_numberText {x : Number} (h : x.isFinite = true) :
    ∃ n : Numeral, n.WellFormed ∧ numberText x = n.text ∧ n.toNumber = x.canonical := by
  cases hint : x.toInt? with
  | some k =>
      refine ⟨.ofInt k, Numeral.wellFormed_ofInt k, ?_, ?_⟩
      · rw [numberText, hint, Numeral.text_ofInt]
      · rw [Numeral.toNumber_ofInt]
        exact Number.eq_of_bounded? (Number.ofInt_of_toInt hint)
  | none =>
      cases x with
      | infinite negative => cases h
      | nan => cases h
      | finite negative rank =>
          obtain ⟨hformed, _, hvalue⟩ := Number.numeralAt_spec negative rank
          refine ⟨_, hformed, ?_, ?_⟩
          · rw [numberText, hint]
            rfl
          · rw [hvalue, Number.canonical_of_toInt_ne_zero (by simp [hint])]

end Literal

/-! ### Typing back in -/

/-- White space that may stand around a value: spaces, tabs and line ends. -/
def Input.IsPadding (text : String) : Prop :=
  ∀ c ∈ text.toList, c ∈ [' ', '\t', '\n', '\r']

instance (text : String) : Decidable (Input.IsPadding text) :=
  List.decidableBAll _ text.toList

/-- White space is blank around numbers, and so around words. -/
theorem Input.IsPadding.blank {text : String} (h : IsPadding text) :
    (∀ c ∈ text.toList, Text.isNumberBlank c = true) ∧
      ∀ c ∈ text.toList, Text.isBlank c = true := by
  have hall : [' ', '\t', '\n', '\r'].all (fun c => Text.isNumberBlank c && Text.isBlank c) =
      true := by decide
  have hboth : ∀ c ∈ text.toList, Text.isNumberBlank c = true ∧ Text.isBlank c = true :=
    fun c mem => (Bool.and_eq_true _ _).mp (List.all_eq_true.mp hall c (h c mem))
  exact ⟨fun c mem => (hboth c mem).1, fun c mem => (hboth c mem).2⟩

/-- **A value that is shown can be typed back in.** The text of a truth value or of a finite
number, with white space around it, is read as an input of its kind, and what is read is
the value; only the sign of a zero is lost. -/
theorem shown_values_typed_back (name : String) (v : Literal) (before after : String)
    (hkind : v.kind ≠ .string) (hfinite : v.IsFinite) (hbefore : Input.IsPadding before)
    (hafter : Input.IsPadding after) :
    Input.parse name (before ++ v.text ++ after) v.kind = .ok v.canonical ∧
      v.canonical.same v = true := by
  refine ⟨?_, Literal.same_symm (Literal.same_canonical hfinite)⟩
  cases v with
  | string s => exact absurd rfl hkind
  | number x =>
      obtain ⟨n, hformed, htext, hvalue⟩ := Literal.exists_numeral_numberText (hfinite x rfl)
      have hread : Input.finiteNumber? (before ++ (Literal.number x).text ++ after) =
          some x.canonical := by
        rw [Literal.text, htext, ← hvalue]
        refine Input.finiteNumber?_padded hformed ?_ hbefore.blank.1 hafter.blank.1
        rw [hvalue]
        exact Number.isFinite_canonical (hfinite x rfl)
      simp only [Input.parse, Literal.kind, Input.literal?, hread]
      rfl
  | bool b =>
      have hread := Input.bool?_padded b hbefore.blank.2 hafter.blank.2
      simp only [Input.parse, Literal.kind, Input.literal?, hread]
      rfl

/-- The number next to zero is shown in scientific form and a zero without its sign; each
is taken as it is shown. -/
theorem numbers_at_zero_typed_back :
    (Literal.number (.finite true ⟨1, by decide⟩)).text = "-5e-324" ∧
    Input.parse "rate" " \t-5e-324\r\n" .number = .ok (.number (.finite true ⟨1, by decide⟩)) ∧
    (Literal.number (.zero true)).text = "0" ∧
    Input.parse "rate" "0\n" .number = .ok (.number (.zero false)) ∧
    (Literal.number (.zero false)).same (.number (.zero true)) = true := by
  have htext : (Literal.number (.finite true ⟨1, by decide⟩)).text = "-5e-324" := by
    decide +kernel
  have hzero : (Literal.number (.zero true)).text = "0" := by
    decide +kernel
  have hspaces : Input.IsPadding " \t" ∧ Input.IsPadding "\r\n" ∧ Input.IsPadding "" ∧
      Input.IsPadding "\n" := by
    decide
  have htiny := shown_values_typed_back "rate" (.number (.finite true ⟨1, by decide⟩)) " \t" "\r\n"
    (by decide) (by rintro _ ⟨⟩; rfl) hspaces.1 hspaces.2.1
  have hsigned := shown_values_typed_back "rate" (.number (.zero true)) "" "\n"
    (by decide) (by rintro _ ⟨⟩; rfl) hspaces.2.2.1 hspaces.2.2.2
  rw [htext] at htiny
  rw [hzero] at hsigned
  exact ⟨htext, htiny.1, hzero, hsigned.1, hsigned.2⟩

end Rulebook
