import Rulebook.Data.Digits
import Rulebook.Proofs.NumeralText

/-!
The numerals of integers and of floating-point numbers.

Each is well formed and has the value it shows (`toInt_ofInt`, `numeralAt_spec`). The
integer that a number is names that number again, up to the sign of a zero
(`ofInt_of_toInt`).
-/

namespace Rulebook

namespace Numeral

/-! ### The numeral of an integer -/

/-- The numeral of an integer. -/
def ofInt (n : Int) : Numeral :=
  ⟨decide (n < 0), Nat.toDigits 10 n.natAbs, none, none⟩

theorem text_ofInt (n : Int) : (ofInt n).text = intText n := by
  by_cases hneg : n < 0
  · simp [text, ofInt, intText, tailText, fractionTail, exponentTail, hneg]
  · simp [text, ofInt, intText, tailText, fractionTail, exponentTail, hneg]

theorem wellFormed_ofInt (n : Int) : (ofInt n).WellFormed := by
  refine ⟨?_, ?_, ?_⟩
  · intro c mem
    exact isDigit_of_mem_toDigits mem
  · rcases Nat.eq_zero_or_pos n.natAbs with hzero | hpos
    · exact .inl (show Nat.toDigits 10 n.natAbs = ['0'] by rw [hzero]; rfl)
    · exact .inr (toDigits_leading hpos)
  · intro ds hds
    cases hds

theorem toInt_ofInt (n : Int) : (ofInt n).toInt = n := by
  simp only [toInt, ofInt, Nat.ofDigitChars_ten_toDigits, decide_eq_true_eq]
  have hcast : Int.ofNat n.natAbs = (n.natAbs : Int) := rfl
  split <;> omega

theorem length_whole_ofInt {n : Int} {k : Nat} (hk : 0 < k) (h : n.natAbs < Nat.pow 10 k) :
    (ofInt n).whole.length ≤ k :=
  (Nat.length_toDigits_le_iff (by decide) hk).mpr h

end Numeral

namespace Number

/-! ### The numeral of a number -/

theorem rankBound_pos : 0 < rankBound := by decide

theorem unitsPerOne_ne_zero : unitsPerOne ≠ 0 :=
  Nat.pos_iff_ne_zero.mp (Nat.pow_pos (by decide))

theorem unitsAt_zero : unitsAt 0 = 0 := by decide

theorem unitsAt_ne_zero {rank : Nat} (h : rank ≠ 0) : unitsAt rank ≠ 0 := by
  intro hunits
  have hrank := nearestRank_unitsAt rank Nat.one_pos
  rw [hunits, ← unitsAt_zero, nearestRank_unitsAt 0 Nat.one_pos] at hrank
  exact h hrank.symm

/-- Zero digits name zero at every exponent. -/
theorem ofDecimal_zero (negative : Bool) (exponent : Int) :
    ofDecimal negative 0 exponent = ofRank negative 0 := by
  have hratio : ∀ den, 0 < den → ofRatio negative 0 den = ofRank negative 0 := by
    intro den hden
    have hrank := nearestRank_unitsAt 0 hden
    rw [unitsAt_zero, Nat.zero_mul] at hrank
    unfold ofRatio
    rw [Nat.zero_mul, hrank]
  cases exponent with
  | ofNat n =>
      simp only [ofDecimal]
      rfl
  | negSucc n =>
      simp only [ofDecimal]
      split
      · rfl
      · exact hratio _ (Nat.pow_pos (by decide))

theorem pos_of_readsBack {rank digits : Nat} {exponent : Int} (hrank : rank < rankBound)
    (hne : rank ≠ 0) (h : readsBack rank digits exponent = true) : 0 < digits := by
  apply Nat.pos_of_ne_zero
  intro hzero
  apply hne
  rw [hzero] at h
  have heq : ofRank false 0 = ofRank false rank :=
    (ofDecimal_zero false exponent).symm.trans (eq_of_beq h)
  exact ((ofRank_eq_iff hrank).mp heq).symm

theorem ofRank_of_lt (negative : Bool) (rank : Fin rankBound) :
    ofRank negative rank = .finite negative rank :=
  dif_pos rank.isLt

/-- The numeral that shows a number is well formed, is no integer, and has that
number as its value. -/
theorem numeralAt_spec (negative : Bool) (rank : Fin rankBound) :
    (numeralAt negative rank).WellFormed ∧ (numeralAt negative rank).isInteger = false ∧
      (numeralAt negative rank).toNumber = .finite negative rank := by
  by_cases hzero : rank.val = 0
  · have hnumeral : numeralAt negative rank = ⟨negative, ['0'], some ['0'], none⟩ := if_pos hzero
    rw [hnumeral]
    have hdigit : ∀ c ∈ ['0'], c.isDigit = true := by simp
    refine ⟨⟨hdigit, .inl rfl, ?_⟩, rfl, ?_⟩
    · rintro _ ⟨⟩
      exact ⟨List.cons_ne_nil _ _, hdigit⟩
    · rw [← ofRank_of_lt, hzero]
      exact ofDecimal_zero negative (-1)
  · have hnumeral : numeralAt negative rank = Numeral.ofDigits negative
        (Nat.toDigits 10 (shortest rank).1) (shortest rank).2 := if_neg hzero
    have hback := readsBack_shortest (unitsAt_ne_zero hzero)
    have hpos := pos_of_readsBack rank.isLt hzero hback
    rw [hnumeral]
    refine ⟨Numeral.wellFormed_ofDigits hpos, Numeral.isInteger_ofDigits _, ?_⟩
    rw [Numeral.toNumber_ofDigits hpos, ofDecimal_of_readsBack rank.isLt hback, ofRank_of_lt]

/-! ### Integers -/

/-- The number that stands for all numbers of its value: the zeros have one. -/
def canonical : Number → Number
  | .finite negative rank => if rank.val = 0 then zero false else .finite negative rank
  | x => x

theorem same_canonical {x : Number} (h : x.isFinite = true) : x.same x.canonical = true := by
  cases x with
  | finite negative rank =>
      simp only [canonical]
      split
      · next hzero =>
          have hrank : rank = ⟨0, by decide⟩ := Fin.ext hzero
          simp [same, zero, hrank]
      · simp [same]
  | infinite negative => cases h
  | nan => cases h

theorem canonical_of_ne_zero {negative : Bool} {rank : Fin rankBound} (h : rank.val ≠ 0) :
    (finite negative rank).canonical = .finite negative rank :=
  if_neg h

theorem toInt_zero (negative : Bool) : (zero negative).toInt? = some 0 := by
  have hunits : (0 : Nat) % unitsPerOne = 0 := Nat.zero_mod _
  simp only [toInt?, zero, unitsAt_zero, hunits, if_true, Nat.zero_div]
  cases negative <;> rfl

/-- Only a zero stands for another number. -/
theorem canonical_of_toInt_ne_zero {x : Number} (h : x.toInt? ≠ some 0) : x.canonical = x := by
  cases x with
  | infinite negative => rfl
  | nan => rfl
  | finite negative rank =>
      apply canonical_of_ne_zero
      intro hzero
      apply h
      have hrank : rank = ⟨0, rankBound_pos⟩ := Fin.ext hzero
      rw [hrank]
      exact toInt_zero negative

theorem isFinite_of_toInt {x : Number} {n : Int} (h : x.toInt? = some n) : x.isFinite = true := by
  cases x with
  | finite negative rank => rfl
  | infinite negative => cases h
  | nan => cases h

/-- The magnitude of an integer, in whole units. -/
theorem toInt?_finite {negative : Bool} {rank : Fin rankBound} {n : Int}
    (h : (finite negative rank).toInt? = some n) :
    n.natAbs * unitsPerOne = unitsAt rank ∧
      (n.natAbs ≠ 0 → decide (n < 0) = negative) := by
  simp only [toInt?] at h
  split at h
  · next hdvd =>
      have hunits : unitsAt rank / unitsPerOne * unitsPerOne = unitsAt rank :=
        Nat.div_mul_cancel (Nat.dvd_of_mod_eq_zero hdvd)
      have hn := Option.some.inj h
      generalize unitsAt rank / unitsPerOne = magnitude at hn hunits
      have hcast : Int.ofNat magnitude = (magnitude : Int) := rfl
      cases negative with
      | true =>
          simp only [if_true] at hn
          have habs : n.natAbs = magnitude := by omega
          exact ⟨habs ▸ hunits, fun hne => decide_eq_true (by omega)⟩
      | false =>
          simp only [Bool.false_eq_true, if_false] at hn
          have habs : n.natAbs = magnitude := by omega
          exact ⟨habs ▸ hunits, fun hne => decide_eq_false (by omega)⟩
  · cases h

theorem ofInt?_of_ofRatio {n : Int} {negative : Bool} {rank : Fin rankBound}
    (h : ofRatio (decide (n < 0)) n.natAbs 1 = .finite negative rank) :
    ofInt? n = some (.finite negative rank) := by
  unfold ofInt?
  rw [h]
  rfl

theorem nearestRank_self (rank : Nat) : nearestRank (unitsAt rank) 1 = rank := by
  rw [← Nat.mul_one (unitsAt rank)]
  exact nearestRank_unitsAt rank Nat.one_pos

theorem ofRatio_of_units {negative : Bool} {rank : Fin rankBound} {num : Nat}
    (h : num * unitsPerOne = unitsAt rank) :
    ofRatio negative num 1 = .finite negative rank := by
  have hrank : nearestRank (num * unitsPerOne) 1 = rank := by rw [h, nearestRank_self]
  unfold ofRatio
  rw [hrank, ofRank_of_lt]

/-- The integer that a number is names the number, up to the sign of a zero. -/
theorem ofInt_of_toInt {x : Number} {n : Int} (h : x.toInt? = some n) :
    ofInt? n = some x.canonical := by
  cases x with
  | infinite negative => cases h
  | nan => cases h
  | finite negative rank =>
      obtain ⟨hunits, hsign⟩ := toInt?_finite h
      rw [ofInt?_of_ofRatio (ofRatio_of_units hunits)]
      refine congrArg some ?_
      by_cases hzero : rank.val = 0
      · have habs : n.natAbs = 0 := by
          rw [hzero, unitsAt_zero] at hunits
          exact (Nat.mul_eq_zero.mp hunits).resolve_right unitsPerOne_ne_zero
        have hn : n = 0 := Int.natAbs_eq_zero.mp habs
        have hrank : rank = ⟨0, rankBound_pos⟩ := Fin.ext hzero
        subst hn hrank
        rfl
      · have habs : n.natAbs ≠ 0 := by
          intro habs
          rw [habs, Nat.zero_mul] at hunits
          exact unitsAt_ne_zero hzero hunits.symm
        rw [canonical_of_ne_zero hzero, hsign habs]

end Number
end Rulebook
