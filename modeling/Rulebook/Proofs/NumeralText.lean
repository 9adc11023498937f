import Rulebook.Proofs.Rounding
import Rulebook.Number.Numeral

/-!
Numerals are read as they were written.

A well-formed numeral is found whole in front of any text that it cannot go on into
(`scan_text`), and the numeral of digits and an exponent has the value that they name
(`toNumber_ofDigits`).
-/

namespace Rulebook

namespace Numeral

/-- A text that no numeral goes on into. -/
def EndsBefore (rest : List Char) : Prop :=
  ∀ c, rest.head? = some c → c.isDigit = false ∧ c ≠ '.' ∧ c ≠ 'e' ∧ c ≠ 'E'

/-- A numeral as it may be written: digits without superfluous zeros in front, and a
digit behind the point. -/
structure WellFormed (n : Numeral) : Prop where
  whole_digits : ∀ c ∈ n.whole, c.isDigit = true
  whole_leading : n.whole = ['0'] ∨ ∃ d ds, n.whole = d :: ds ∧ d ≠ '0'
  fraction_digits : ∀ ds, n.fraction = some ds → ds ≠ [] ∧ ∀ c ∈ ds, c.isDigit = true

/-! ### Digits -/

theorem takeWhile_front {holds : Char → Bool} {front rest : List Char}
    (hfront : ∀ c ∈ front, holds c = true) (hrest : ∀ c, rest.head? = some c → holds c = false) :
    (front ++ rest).takeWhile holds = front := by
  rw [List.takeWhile_append_of_pos hfront]
  cases rest with
  | nil => simp
  | cons c rest => simp [hrest c rfl]

theorem dropWhile_front {holds : Char → Bool} {front rest : List Char}
    (hfront : ∀ c ∈ front, holds c = true) (hrest : ∀ c, rest.head? = some c → holds c = false) :
    (front ++ rest).dropWhile holds = rest := by
  rw [List.dropWhile_append_of_pos hfront]
  cases rest with
  | nil => rfl
  | cons c rest => simp [hrest c rfl]

theorem isDigit_of_mem_toDigits {n : Nat} {c : Char} (mem : c ∈ Nat.toDigits 10 n) :
    c.isDigit = true :=
  Nat.isDigit_of_mem_toDigits (by decide) (by decide) mem

/-- The decimal digits of a positive number do not start with a zero. -/
theorem toDigits_leading {n : Nat} (h : 0 < n) :
    ∃ d ds, Nat.toDigits 10 n = d :: ds ∧ d ≠ '0' := by
  induction n using Nat.strongRecOn with
  | ind n ih =>
      by_cases hlt : n < 10
      · refine ⟨n.digitChar, [], Nat.toDigits_of_lt_base hlt, ?_⟩
        have hchar : ∀ m < 10, 0 < m → m.digitChar ≠ '0' := by decide
        exact hchar n hlt h
      · obtain ⟨d, ds, hds, hd⟩ := ih (n / 10) (by omega) (by omega)
        refine ⟨d, ds ++ [(n % 10).digitChar], ?_, hd⟩
        rw [Nat.toDigits_of_base_le (by decide) (by omega), hds, List.cons_append]

/-! ### Exponents -/

theorem scanExponentDigits_append {negative : Bool} {ds rest : List Char} (hne : ds ≠ [])
    (hds : ∀ c ∈ ds, c.isDigit = true) (hrest : EndsBefore rest) :
    scanExponentDigits negative (ds ++ rest) =
      some (if negative then -Int.ofNat (Nat.ofDigitChars 10 ds 0)
        else Int.ofNat (Nat.ofDigitChars 10 ds 0), rest) := by
  cases ds with
  | nil => exact absurd rfl hne
  | cons d ds =>
      have hhead : ∀ c, rest.head? = some c → c.isDigit = false := fun c hc => (hrest c hc).1
      have htake := takeWhile_front hds hhead
      have hdrop := dropWhile_front (fun c hc => hds c (List.mem_cons_of_mem _ hc)) hhead
      simp only [List.cons_append] at htake ⊢
      simp only [scanExponentDigits, hds d List.mem_cons_self, if_true, htake, hdrop]

theorem paddedDigits_ne_nil (n : Nat) : paddedDigits n ≠ [] := by
  simp only [paddedDigits]
  split
  · exact List.cons_ne_nil _ _
  · exact Nat.toDigits_ne_nil

theorem isDigit_of_mem_paddedDigits {n : Nat} {c : Char} (mem : c ∈ paddedDigits n) :
    c.isDigit = true := by
  simp only [paddedDigits] at mem
  split at mem
  · rcases List.mem_cons.mp mem with rfl | mem
    · decide
    · exact isDigit_of_mem_toDigits mem
  · exact isDigit_of_mem_toDigits mem

theorem ofDigitChars_paddedDigits (n : Nat) : Nat.ofDigitChars 10 (paddedDigits n) 0 = n := by
  simp only [paddedDigits]
  split
  · exact Nat.ofDigitChars_cons.trans Nat.ofDigitChars_ten_toDigits
  · exact Nat.ofDigitChars_ten_toDigits

/-- An exponent is read as it was written. -/
theorem scanExponent_exponentText (exponent : Int) {rest : List Char} (hrest : EndsBefore rest) :
    scanExponent (exponentText exponent ++ rest) = (some exponent, rest) := by
  have hdigits : ∀ negative, scanExponentDigits negative (paddedDigits exponent.natAbs ++ rest) =
      some (if negative then -Int.ofNat exponent.natAbs else Int.ofNat exponent.natAbs, rest) := by
    intro negative
    rw [scanExponentDigits_append (paddedDigits_ne_nil _)
      (fun _ => isDigit_of_mem_paddedDigits) hrest, ofDigitChars_paddedDigits]
  unfold exponentText
  by_cases hneg : exponent < 0
  · have heq : -Int.ofNat exponent.natAbs = exponent := by rw [Int.ofNat_eq_natCast]; omega
    have hread := hdigits true
    rw [if_pos rfl, heq] at hread
    simp [scanExponent, scanSignedExponent, hneg, hread]
  · have heq : Int.ofNat exponent.natAbs = exponent := by rw [Int.ofNat_eq_natCast]; omega
    have hread := hdigits false
    rw [if_neg Bool.false_ne_true, heq] at hread
    simp [scanExponent, scanSignedExponent, hneg, hread]

/-! ### Numerals -/

theorem scanExponent_of_endsBefore {rest : List Char} (hrest : EndsBefore rest) :
    scanExponent rest = (none, rest) := by
  cases rest with
  | nil => rfl
  | cons c rest =>
      obtain ⟨_, _, he, hE⟩ := hrest c rfl
      simp [scanExponent, he, hE]

theorem scanFraction_of_no_point {rest : List Char} (h : ∀ c, rest.head? = some c → c ≠ '.') :
    scanFraction rest = (none, rest) := by
  unfold scanFraction
  split
  · exact absurd rfl (h '.' rfl)
  · rfl

theorem scanFraction_append {ds rest : List Char} (hne : ds ≠ [])
    (hds : ∀ c ∈ ds, c.isDigit = true) (hrest : ∀ c, rest.head? = some c → c.isDigit = false) :
    scanFraction ('.' :: (ds ++ rest)) = (some ds, rest) := by
  cases ds with
  | nil => exact absurd rfl hne
  | cons d ds =>
      have htake := takeWhile_front hds hrest
      have hdrop := dropWhile_front (fun c hc => hds c (List.mem_cons_of_mem _ hc)) hrest
      simp only [List.cons_append] at htake ⊢
      simp only [scanFraction, hds d List.mem_cons_self, if_true, htake, hdrop]

/-- An exponent, or what follows a numeral, starts with neither a digit nor a point. -/
theorem head_exponentTail {exponent : Option Int} {rest : List Char} (hrest : EndsBefore rest)
    {c : Char} (hc : (exponentTail exponent ++ rest).head? = some c) :
    c.isDigit = false ∧ c ≠ '.' := by
  cases exponent with
  | some e => cases hc; decide
  | none => exact ⟨(hrest c hc).1, (hrest c hc).2.1⟩

/-- What stands behind a whole part does not start with a digit. -/
theorem head_tailText (n : Numeral) {rest : List Char} (hrest : EndsBefore rest) {c : Char}
    (hc : (n.tailText ++ rest).head? = some c) : c.isDigit = false := by
  unfold tailText at hc
  cases hfraction : n.fraction with
  | some ds =>
      rw [hfraction] at hc
      cases hc
      decide
  | none =>
      rw [hfraction] at hc
      exact (head_exponentTail hrest hc).1

theorem scanExponent_exponentTail (exponent : Option Int) {rest : List Char}
    (hrest : EndsBefore rest) :
    scanExponent (exponentTail exponent ++ rest) = (exponent, rest) := by
  cases exponent with
  | some e => exact scanExponent_exponentText e hrest
  | none => exact scanExponent_of_endsBefore hrest

theorem scanFraction_tailText {n : Numeral} (h : n.WellFormed) {rest : List Char}
    (hrest : EndsBefore rest) :
    scanFraction (n.tailText ++ rest) = (n.fraction, exponentTail n.exponent ++ rest) := by
  unfold tailText
  rw [List.append_assoc]
  cases hfraction : n.fraction with
  | none => exact scanFraction_of_no_point fun c hc => (head_exponentTail hrest hc).2
  | some ds =>
      obtain ⟨hne, hds⟩ := h.fraction_digits ds hfraction
      exact scanFraction_append hne hds fun c hc => (head_exponentTail hrest hc).1

/-- What stands behind the whole part is read as it was written. -/
theorem scanTail_tailText {n : Numeral} (h : n.WellFormed) {rest : List Char}
    (hrest : EndsBefore rest) :
    scanTail n.negative n.whole (n.tailText ++ rest) = (n, rest) := by
  simp only [scanTail, scanFraction_tailText h hrest, scanExponent_exponentTail n.exponent hrest]

theorem scanUnsigned_append {n : Numeral} (h : n.WellFormed) {rest : List Char}
    (hrest : EndsBefore rest) :
    scanUnsigned? n.negative (n.whole ++ (n.tailText ++ rest)) = some (n, rest) := by
  have htail := scanTail_tailText h hrest
  rcases h.whole_leading with hzero | ⟨d, ds, hwhole, hd⟩
  · rw [hzero] at htail ⊢
    exact congrArg some htail
  · have htake := takeWhile_front h.whole_digits fun _ => head_tailText n hrest
    have hdrop := dropWhile_front h.whole_digits fun _ => head_tailText n hrest
    have hdigit : d.isDigit = true := h.whole_digits d (by simp [hwhole])
    rw [hwhole, List.cons_append] at htake hdrop ⊢
    unfold scanUnsigned?
    split
    · next heq => exact absurd (List.cons.inj heq).1 hd
    · next heq =>
        obtain ⟨rfl, rfl⟩ := List.cons.inj heq
        rw [if_pos hdigit, htake, hdrop, ← hwhole, htail]
    · next heq => cases heq

theorem text_of_negative {n : Numeral} (h : n.negative = true) :
    n.text = '-' :: (n.whole ++ n.tailText) := by
  simp [text, h]

theorem text_of_nonneg {n : Numeral} (h : n.negative = false) :
    n.text = n.whole ++ n.tailText := by
  simp [text, h]

/-- The text of a numeral starts with a minus sign or a digit. -/
theorem exists_head_whole {n : Numeral} (h : n.WellFormed) :
    ∃ d ds, n.whole = d :: ds ∧ d.isDigit = true := by
  rcases h.whole_leading with hzero | ⟨d, ds, hwhole, _⟩
  · exact ⟨'0', [], hzero, by decide⟩
  · exact ⟨d, ds, hwhole, h.whole_digits d (by simp [hwhole])⟩

/-- The text of a numeral consists of digits and marks. -/
theorem mem_text {n : Numeral} (h : n.WellFormed) {c : Char} (mem : c ∈ n.text) :
    c.isDigit = true ∨ c ∈ ['-', '+', '.', 'e'] := by
  rcases List.mem_append.mp mem with hsign | mem
  · split at hsign
    · exact .inr (by rw [List.mem_singleton.mp hsign]; decide)
    · cases hsign
  rcases List.mem_append.mp mem with hwhole | mem
  · exact .inl (h.whole_digits c hwhole)
  rcases List.mem_append.mp mem with hfraction | hexponent
  · cases hn : n.fraction with
    | none =>
        rw [hn] at hfraction
        cases hfraction
    | some ds =>
        rw [hn] at hfraction
        rcases List.mem_cons.mp hfraction with rfl | mem
        · exact .inr (by decide)
        · exact .inl ((h.fraction_digits ds hn).2 c mem)
  · cases hn : n.exponent with
    | none =>
        rw [hn] at hexponent
        cases hexponent
    | some exponent =>
        rw [hn] at hexponent
        rcases List.mem_cons.mp hexponent with rfl | mem
        · exact .inr (by decide)
        rcases List.mem_cons.mp mem with rfl | mem
        · exact .inr (by split <;> decide)
        · exact .inl (isDigit_of_mem_paddedDigits mem)

/-- A digit is none of the marks that are no digits. -/
theorem ne_of_isDigit {d : Char} (hd : d.isDigit = true) {marks : List Char}
    (hmarks : ∀ c ∈ marks, c.isDigit = false) {c : Char} (mem : c ∈ marks) : d ≠ c := by
  rintro rfl
  rw [hmarks d mem] at hd
  cases hd

/-- A numeral is read as it was written. -/
theorem scan_text {n : Numeral} (h : n.WellFormed) {rest : List Char} (hrest : EndsBefore rest) :
    scan? (n.text ++ rest) = some (n, rest) := by
  have hunsigned := scanUnsigned_append h hrest
  cases hneg : n.negative with
  | true =>
      rw [hneg] at hunsigned
      simpa [text_of_negative hneg, scan?] using hunsigned
  | false =>
      rw [hneg] at hunsigned
      obtain ⟨d, ds, hwhole, hd⟩ := exists_head_whole h
      rw [text_of_nonneg hneg, List.append_assoc]
      rw [hwhole, List.cons_append] at hunsigned ⊢
      unfold scan?
      split
      · next heq =>
          have hminus : ∀ c ∈ ['-'], c.isDigit = false := by simp
          exact absurd (List.cons.inj heq).1 (ne_of_isDigit hd hminus List.mem_cons_self)
      · exact hunsigned

/-! ### The numeral of a decimal -/

section OfDigits

variable {negative : Bool} {digits : Nat} {exponent : Int}

theorem mem_digits_of_mem_replicate {n : Nat} {c : Char} (mem : c ∈ List.replicate n '0') :
    c.isDigit = true := by
  rw [(List.mem_replicate.mp mem).2]
  decide

/-- The first digits of a positive number are a whole part. -/
theorem take_leading (h : 0 < digits) {n : Nat} (hn : 0 < n) :
    ∃ d ds, (Nat.toDigits 10 digits).take n = d :: ds ∧ d ≠ '0' := by
  obtain ⟨d, ds, hds, hd⟩ := toDigits_leading h
  obtain ⟨n, rfl⟩ : ∃ m, n = m + 1 := ⟨n - 1, by omega⟩
  exact ⟨d, ds.take n, by rw [hds, List.take_succ_cons], hd⟩

theorem wellFormed_positional (h : 0 < digits) :
    (positional negative (Nat.toDigits 10 digits) exponent).WellFormed := by
  obtain ⟨d, ds, hds, hd⟩ := toDigits_leading h
  unfold positional
  cases exponent with
  | ofNat n =>
      refine ⟨fun c mem => ?_, .inr ⟨d, ds ++ List.replicate n '0', ?_, hd⟩, ?_⟩
      · rcases List.mem_append.mp mem with mem | mem
        · exact isDigit_of_mem_toDigits mem
        · exact mem_digits_of_mem_replicate mem
      · simp [hds]
      · rintro _ ⟨⟩
        exact ⟨List.cons_ne_nil _ _, by simp⟩
  | negSucc n =>
      simp only
      split
      · refine ⟨fun c mem => by rw [List.mem_singleton.mp mem]; decide, .inl rfl, ?_⟩
        rintro _ ⟨⟩
        refine ⟨fun hnil => Nat.toDigits_ne_nil (List.append_eq_nil_iff.mp hnil).2, fun c mem => ?_⟩
        rcases List.mem_append.mp mem with mem | mem
        · exact mem_digits_of_mem_replicate mem
        · exact isDigit_of_mem_toDigits mem
      · next hlength =>
          refine ⟨fun c mem => isDigit_of_mem_toDigits (List.mem_of_mem_take mem),
            .inr (take_leading h (by omega)), ?_⟩
          rintro _ ⟨⟩
          refine ⟨fun hnil => ?_, fun c mem => isDigit_of_mem_toDigits (List.mem_of_mem_drop mem)⟩
          have hle := List.drop_eq_nil_iff.mp hnil
          omega

theorem wellFormed_scientific (h : 0 < digits) :
    (scientific negative (Nat.toDigits 10 digits) exponent).WellFormed := by
  refine ⟨fun c mem => isDigit_of_mem_toDigits (List.mem_of_mem_take mem),
    .inr (take_leading h Nat.one_pos), fun ds hds => ?_⟩
  simp only [scientific] at hds
  split at hds
  · cases hds
  · next hlength =>
      cases hds
      refine ⟨fun hnil => hlength (List.drop_eq_nil_iff.mp hnil), fun c mem => ?_⟩
      exact isDigit_of_mem_toDigits (List.mem_of_mem_drop mem)

theorem wellFormed_ofDigits (h : 0 < digits) :
    (ofDigits negative (Nat.toDigits 10 digits) exponent).WellFormed := by
  simp only [ofDigits]
  split
  · exact wellFormed_positional h
  · exact wellFormed_scientific h

/-- A numeral of a decimal always has a fraction or an exponent. -/
theorem isInteger_ofDigits (ds : List Char) :
    (ofDigits negative ds exponent).isInteger = false := by
  simp only [ofDigits]
  split
  · unfold positional
    cases exponent with
    | ofNat n => rfl
    | negSucc n =>
        simp only
        split <;> rfl
  · simp [scientific, isInteger]

/-! ### The value of the numeral -/

theorem ofDigitChars_zeros_append (n : Nat) (ds : List Char) :
    Nat.ofDigitChars 10 (List.replicate n '0' ++ ds) 0 = Nat.ofDigitChars 10 ds 0 := by
  rw [Nat.ofDigitChars_append, Nat.ofDigitChars_replicate_zero, Nat.mul_zero]

/-- Writing zeros behind a whole number and a zero behind its point keeps its value. -/
theorem ofDecimal_trailing_zeros (h : 0 < digits) {n : Nat} (hn : n < 16) :
    Number.ofDecimal negative (10 * (Nat.pow 10 n * digits)) (-1) =
      Number.ofDecimal negative digits (.ofNat n) := by
  have hleft : Number.ofDecimal negative (10 * (Nat.pow 10 n * digits)) (-1) =
      Number.ofRatio negative (10 * (Nat.pow 10 n * digits)) (Nat.pow 10 1) :=
    Number.ofDecimal_negSucc negative
      (show 3 * (0 + 1) ≤ (10 * (Nat.pow 10 n * digits)).log2 + 1081 by omega)
  have hright : Number.ofDecimal negative digits (.ofNat n) =
      Number.ofRatio negative (digits * Nat.pow 10 n) 1 := by
    simp only [Number.ofDecimal]
    rw [if_neg (by omega), if_neg (by omega)]
  rw [hleft, hright]
  refine congrArg (Number.ofRank negative) ?_
  have hscale := Number.nearestRank_scale (digits * Nat.pow 10 n * Number.unitsPerOne) 1
    (show 0 < 10 by decide)
  have hten : 10 * (Nat.pow 10 n * digits) * Number.unitsPerOne =
      digits * Nat.pow 10 n * Number.unitsPerOne * 10 := by ac_rfl
  rw [hten]
  exact hscale

theorem toNumber_positional (h : 0 < digits)
    (hleading : exponent + (Nat.toDigits 10 digits).length - 1 < 16) :
    (positional negative (Nat.toDigits 10 digits) exponent).toNumber =
      Number.ofDecimal negative digits exponent := by
  have hlength : 0 < (Nat.toDigits 10 digits).length := Nat.length_toDigits_pos
  unfold positional
  cases exponent with
  | ofNat n =>
      have hn : n < 16 := by
        have : (Int.ofNat n) = (n : Int) := rfl
        omega
      simp only [toNumber, Option.getD_some, Option.getD_none]
      rw [Nat.ofDigitChars_append, Nat.ofDigitChars_append, Nat.ofDigitChars_ten_toDigits,
        Nat.ofDigitChars_replicate_zero]
      exact ofDecimal_trailing_zeros h hn
  | negSucc n =>
      simp only
      split
      · next hle =>
          simp only [toNumber, Option.getD_some, Option.getD_none]
          have hzeros : Nat.ofDigitChars 10 (['0'] ++ (List.replicate
              (n + 1 - (Nat.toDigits 10 digits).length) '0' ++ Nat.toDigits 10 digits)) 0 =
              digits := by
            rw [List.singleton_append, Nat.ofDigitChars_cons]
            exact (ofDigitChars_zeros_append _ _).trans Nat.ofDigitChars_ten_toDigits
          have hplaces : 0 - ((List.replicate (n + 1 - (Nat.toDigits 10 digits).length) '0' ++
              Nat.toDigits 10 digits).length : Int) = Int.negSucc n := by
            rw [List.length_append, List.length_replicate, Int.negSucc_eq]
            omega
          rw [hzeros, hplaces]
      · next hlt =>
          simp only [toNumber, Option.getD_some, Option.getD_none]
          have hplaces : 0 - (((Nat.toDigits 10 digits).drop
              ((Nat.toDigits 10 digits).length - (n + 1))).length : Int) = Int.negSucc n := by
            rw [List.length_drop, Int.negSucc_eq]
            omega
          rw [List.take_append_drop, hplaces, Nat.ofDigitChars_ten_toDigits]

theorem toNumber_scientific :
    (scientific negative (Nat.toDigits 10 digits) exponent).toNumber =
      Number.ofDecimal negative digits exponent := by
  have hlength : 0 < (Nat.toDigits 10 digits).length := Nat.length_toDigits_pos
  have hvalue : Nat.ofDigitChars 10 (Nat.toDigits 10 digits) 0 = digits :=
    Nat.ofDigitChars_ten_toDigits
  generalize Nat.toDigits 10 digits = ds at hlength hvalue ⊢
  simp only [scientific, toNumber, Option.getD_some]
  split
  · next hle =>
      have hplaces :
          exponent + (ds.length : Int) - 1 - (([] : List Char).length : Int) = exponent := by
        simp only [List.length_nil]
        omega
      rw [Option.getD_none, hplaces, List.append_nil, List.take_of_length_le hle, hvalue]
  · next hlt =>
      have hplaces : exponent + (ds.length : Int) - 1 - ((ds.drop 1).length : Int) = exponent := by
        rw [List.length_drop]
        omega
      rw [Option.getD_some, hplaces, List.take_append_drop, hvalue]

/-- The numeral of a decimal has its value. -/
theorem toNumber_ofDigits (h : 0 < digits) :
    (ofDigits negative (Nat.toDigits 10 digits) exponent).toNumber =
      Number.ofDecimal negative digits exponent := by
  simp only [ofDigits]
  split
  · next hplace =>
      simp only [Bool.and_eq_true, decide_eq_true_eq] at hplace
      exact toNumber_positional h hplace.2
  · exact toNumber_scientific

end OfDigits

end Numeral

end Rulebook
