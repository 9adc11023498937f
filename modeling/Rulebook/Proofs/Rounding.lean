import Rulebook.Number.Shortest

/-!
Rounding: the magnitude of a number is nearest to itself, and its shortest decimal
reads back.

The rank nearest to a ratio depends on the ratio only (`nearestRank_scale`), and a
ratio that is a magnitude has its own rank (`nearestRank_unitsAt`). From the second
fact the search for the shortest decimal always ends with one that reads back
(`readsBack_shortest`): the finest grid holds the number itself.
-/

namespace Rulebook.Number

/-! ### Rounding a ratio -/

theorem roundHalfEven_exact (quotient : Nat) {den : Nat} (h : 0 < den) :
    roundHalfEven (quotient * den) den = quotient := by
  simp [roundHalfEven, h]

theorem roundHalfEven_scale (num den : Nat) {factor : Nat} (h : 0 < factor) :
    roundHalfEven (num * factor) (den * factor) = roundHalfEven num den := by
  unfold roundHalfEven
  rw [Nat.mul_div_mul_right _ _ h, Nat.mul_mod_mul_right]
  have hless : ∀ a b, a * factor < b * factor ↔ a < b := fun a b => Nat.mul_lt_mul_right h
  simp only [← Nat.mul_assoc, hless]

theorem roundHalfEven_eq_or (num den : Nat) :
    roundHalfEven num den = num / den ∨ roundHalfEven num den = num / den + 1 := by
  unfold roundHalfEven
  simp only
  split
  · exact .inl rfl
  · split
    · exact .inr rfl
    · rcases Nat.mod_two_eq_zero_or_one (num / den) with h | h
      · exact .inl (by rw [h]; rfl)
      · exact .inr (by rw [h])

/-- The nearest rank depends on the ratio only. -/
theorem nearestRank_scale (num den : Nat) {factor : Nat} (h : 0 < factor) :
    nearestRank (num * factor) (den * factor) = nearestRank num den := by
  simp only [nearestRank, Nat.mul_div_mul_right _ _ h]
  rw [Nat.mul_right_comm den, roundHalfEven_scale _ _ h]

theorem log2_unitsAt_of_binade {binade offset : Nat} (hoffset : offset < ranksPerBinade) :
    ((ranksPerBinade + offset) * Nat.pow 2 binade).log2 = 52 + binade := by
  have hsize : ranksPerBinade = 2 ^ 52 := rfl
  rw [hsize] at hoffset ⊢
  refine (Nat.log2_eq_iff ?_).mpr ⟨?_, ?_⟩
  · exact Nat.mul_ne_zero (by omega) (Nat.pos_iff_ne_zero.mp (Nat.pow_pos (by decide)))
  · rw [Nat.pow_add]
    exact Nat.mul_le_mul_right _ (by omega)
  · rw [Nat.add_right_comm, Nat.pow_add]
    exact Nat.mul_lt_mul_of_pos_right (by omega) (Nat.pow_pos (by decide))

theorem roundHalfEven_multiple (mantissa : Nat) {scale den : Nat} (hscale : 0 < scale)
    (hden : 0 < den) : roundHalfEven (mantissa * scale * den) (den * scale) = mantissa := by
  rw [Nat.mul_assoc, Nat.mul_comm scale]
  exact roundHalfEven_exact _ (Nat.mul_pos hden hscale)

theorem add_mantissa {rank size binade : Nat} (h : rank / size = binade + 1) :
    binade * size + (size + rank % size) = rank := by
  have hrank := Nat.div_add_mod rank size
  rw [h, Nat.mul_comm, Nat.succ_mul] at hrank
  omega

/-- A magnitude is nearest to itself. -/
theorem nearestRank_unitsAt (rank : Nat) {den : Nat} (h : 0 < den) :
    nearestRank (unitsAt rank * den) den = rank := by
  have hpos : 0 < ranksPerBinade := by decide
  simp only [nearestRank, Nat.mul_div_cancel _ h]
  by_cases hbinade : rank / ranksPerBinade = 0
  · have hunits : unitsAt rank = rank := by simp only [unitsAt, hbinade, if_true]
    have hlt : rank < ranksPerBinade := (Nat.div_eq_zero_iff_lt hpos).mp hbinade
    have hlog : rank.log2 - 52 = 0 := by
      by_cases hzero : rank = 0
      · subst hzero; rfl
      · have := (Nat.log2_lt hzero).mpr hlt
        omega
    rw [hunits, hlog]
    simp [roundHalfEven_exact rank h]
  · obtain ⟨binade, hb⟩ : ∃ b, rank / ranksPerBinade = b + 1 :=
      Nat.exists_eq_succ_of_ne_zero hbinade
    have hunits : unitsAt rank =
        (ranksPerBinade + rank % ranksPerBinade) * Nat.pow 2 binade := by
      simp only [unitsAt, hb, Nat.add_sub_cancel]
      rfl
    have hshift : 52 + binade - 52 = binade := by omega
    have hscale : 0 < Nat.pow 2 binade := Nat.pow_pos (by decide)
    rw [hunits, log2_unitsAt_of_binade (Nat.mod_lt _ hpos), hshift,
      roundHalfEven_multiple _ hscale h]
    exact add_mantissa hb

/-! ### Decimals -/

theorem ofRank_eq_iff {negative : Bool} {rank rank' : Nat} (h : rank' < rankBound) :
    ofRank negative rank = ofRank negative rank' ↔ rank = rank' := by
  unfold ofRank
  rw [dif_pos h]
  split
  · simp
  · simp only [reduceCtorEq, false_iff]
    omega

theorem ofDecimal_negSucc (negative : Bool) {digits places : Nat}
    (h : 3 * (places + 1) ≤ digits.log2 + 1081) :
    ofDecimal negative digits (.negSucc places) =
      ofRatio negative digits (Nat.pow 10 (places + 1)) :=
  if_neg (Nat.not_lt.mpr h)

/-- The rank of a decimal does not depend on its sign. -/
theorem exists_rank_ofDecimal (digits : Nat) (exponent : Int) :
    ∃ rank, ∀ negative, ofDecimal negative digits exponent = ofRank negative rank := by
  have hzero : ∀ negative, zero negative = ofRank negative 0 := fun _ => rfl
  have hinfinite : ∀ negative, infinite negative = ofRank negative rankBound := by
    intro negative
    unfold ofRank
    rw [dif_neg (Nat.lt_irrefl _)]
  cases exponent with
  | ofNat n =>
      by_cases hdigits : digits = 0
      · exact ⟨0, fun negative => (if_pos hdigits).trans (hzero negative)⟩
      by_cases hbig : 1030 < 3 * n
      · refine ⟨rankBound, fun negative => ?_⟩
        simp only [ofDecimal, if_neg hdigits, if_pos hbig, hinfinite]
      · refine ⟨nearestRank (digits * Nat.pow 10 n * unitsPerOne) 1, fun negative => ?_⟩
        simp only [ofDecimal, if_neg hdigits, if_neg hbig]
        rfl
  | negSucc n =>
      by_cases hsmall : digits.log2 + 1081 < 3 * (n + 1)
      · exact ⟨0, fun negative => (if_pos hsmall).trans (hzero negative)⟩
      · exact ⟨_, fun negative => if_neg hsmall⟩

/-- A decimal that reads back as a positive number reads back under either sign. -/
theorem ofDecimal_of_readsBack {rank digits : Nat} {exponent : Int} (hrank : rank < rankBound)
    (h : readsBack rank digits exponent = true) (negative : Bool) :
    ofDecimal negative digits exponent = ofRank negative rank := by
  obtain ⟨rank', hrank'⟩ := exists_rank_ofDecimal digits exponent
  have heq : ofRank false rank' = ofRank false rank := (hrank' false).symm.trans (eq_of_beq h)
  rw [hrank', (ofRank_eq_iff hrank).mp heq]

theorem readsBack_gridPoint {rank digits : Nat} {exponent : Int}
    (h : gridPoint? rank exponent = some digits) : readsBack rank digits exponent = true := by
  simp only [gridPoint?] at h
  generalize onGrid rank exponent = ratio at h
  obtain ⟨num, den⟩ := ratio
  split at h
  · next hbelow habove =>
      cases h
      rcases roundHalfEven_eq_or num den with heq | heq
      · rw [heq]; exact hbelow
      · rw [heq]; exact habove
  · next hbelow _ => cases h; exact hbelow
  · next _ habove => cases h; exact habove
  · cases h

theorem le_log2_mul_five_pow {units : Nat} (h : units ≠ 0) (places : Nat) :
    2 * places ≤ (units * Nat.pow 5 places).log2 := by
  have hpos : 0 < Nat.pow 5 places := Nat.pow_pos (by decide)
  refine (Nat.le_log2 (Nat.mul_ne_zero h (by omega))).mpr ?_
  calc 2 ^ (2 * places) = 4 ^ places := Nat.pow_mul 2 2 places
    _ ≤ 5 ^ places := Nat.pow_le_pow_left (by decide) places
    _ ≤ units * Nat.pow 5 places := Nat.le_mul_of_pos_left _ (Nat.pos_of_ne_zero h)

theorem mul_five_pow_mul_two_pow (units places : Nat) :
    units * Nat.pow 5 places * Nat.pow 2 places = units * Nat.pow 10 places := by
  rw [Nat.mul_assoc]
  exact congrArg (units * ·) (Nat.mul_pow 5 2 places).symm

theorem ofRatio_expansion (rank : Nat) :
    ofRatio false (unitsAt rank * Nat.pow 5 finestPlace) (Nat.pow 10 finestPlace) =
      ofRank false rank := by
  unfold ofRatio unitsPerOne
  rw [mul_five_pow_mul_two_pow]
  exact congrArg (ofRank false) (nearestRank_unitsAt rank (Nat.pow_pos (by decide)))

/-- The exact decimal expansion of a number reads back. -/
theorem readsBack_expansion {rank : Nat} (h : unitsAt rank ≠ 0) :
    readsBack rank (unitsAt rank * Nat.pow 5 finestPlace) (-Int.ofNat finestPlace) = true := by
  have hlog := le_log2_mul_five_pow h finestPlace
  have hratio := ofRatio_expansion rank
  have hplaces : 0 < finestPlace ∧ finestPlace ≤ 1081 := by decide +kernel
  generalize finestPlace = places at *
  obtain ⟨last, rfl⟩ : ∃ n, places = n + 1 := ⟨places - 1, by omega⟩
  have hdecimal : ofDecimal false (unitsAt rank * Nat.pow 5 (last + 1)) (-Int.ofNat (last + 1)) =
      ofRatio false (unitsAt rank * Nat.pow 5 (last + 1)) (Nat.pow 10 (last + 1)) :=
    ofDecimal_negSucc false (by omega)
  exact beq_iff_eq.mpr (hdecimal.trans hratio)

theorem readsBack_searchGrids {rank : Nat} (h : unitsAt rank ≠ 0) (steps : Nat) (exponent : Int) :
    readsBack rank (searchGrids rank steps exponent).1 (searchGrids rank steps exponent).2 =
      true := by
  induction steps generalizing exponent with
  | zero => exact readsBack_expansion h
  | succ steps ih =>
      unfold searchGrids
      split
      · next hgrid => exact readsBack_gridPoint hgrid
      · exact ih _

/-- The shortest decimal of a number reads back. -/
theorem readsBack_shortest {rank : Nat} (h : unitsAt rank ≠ 0) :
    readsBack rank (shortest rank).1 (shortest rank).2 = true :=
  readsBack_searchGrids h _ _

end Rulebook.Number
