import Mathlib.Order.Monotone.Basic
import Rulebook.Proofs.NumberText

/-!
Rounding goes to the nearest number, and half way between two numbers to the even one.

A magnitude is a mantissa scaled by a power of two, and the mantissa may reach the next
binade (`unitsAt_scaled`); so magnitudes grow with the rank (`strictMono_unitsAt`). What
is to be rounded lies between the magnitudes of two neighbouring ranks, and goes to the
nearer one (`exists_roundsFrom`). From this follow that no other rank is nearer
(`rankDistance_nearestRank_le`), that one as near is odd and the rank rounded to is even
(`parity_of_rankDistance_eq`), and from where on a rank is passed (`lt_nearestRank_iff`).

For integers this is said of numbers: an integer is read as a number nearest to it
(`isNearest_of_ofInt?`), and no number of another value is (`IsNearest.same_of_ofInt?`).
-/

namespace Rulebook.Number

/-! ### Magnitudes -/

theorem ranksPerBinade_pos : 0 < ranksPerBinade := by decide

theorem unitsAt_of_lt {rank : Nat} (h : rank < ranksPerBinade) : unitsAt rank = rank := by
  simp only [unitsAt, (Nat.div_eq_zero_iff_lt ranksPerBinade_pos).mpr h, if_true]

theorem unitsAt_of_binade (binade : Nat) {offset : Nat} (h : offset < ranksPerBinade) :
    unitsAt ((binade + 1) * ranksPerBinade + offset) =
      (ranksPerBinade + offset) * Nat.pow 2 binade := by
  have hdiv : ((binade + 1) * ranksPerBinade + offset) / ranksPerBinade = binade + 1 := by
    rw [Nat.add_comm, Nat.add_mul_div_right _ _ ranksPerBinade_pos, Nat.div_eq_of_lt h,
      Nat.zero_add]
  have hmod : ((binade + 1) * ranksPerBinade + offset) % ranksPerBinade = offset := by
    rw [Nat.add_comm, Nat.add_mul_mod_self_right, Nat.mod_eq_of_lt h]
  simp only [unitsAt, hdiv, hmod, Nat.add_sub_cancel]
  rfl

/-- A mantissa and its scale: below the first full binade there is no scale. -/
def IsScaled (scale mantissa : Nat) : Prop :=
  mantissa ≤ 2 * ranksPerBinade ∧ (ranksPerBinade ≤ mantissa ∨ scale = 0)

/-- The magnitude of a mantissa under its scale, also of the one that is the first of the
next binade. -/
theorem unitsAt_scaled {scale mantissa : Nat} (h : IsScaled scale mantissa) :
    unitsAt (scale * ranksPerBinade + mantissa) = mantissa * Nat.pow 2 scale := by
  obtain ⟨hle, hnormal⟩ := h
  rcases Nat.lt_or_ge mantissa ranksPerBinade with hsmall | hlarge
  · rw [hnormal.resolve_left (Nat.not_le.mpr hsmall), Nat.zero_mul, Nat.zero_add,
      unitsAt_of_lt hsmall]
    exact (Nat.mul_one mantissa).symm
  obtain ⟨offset, rfl⟩ := Nat.exists_eq_add_of_le hlarge
  rcases Nat.lt_or_ge offset ranksPerBinade with hinside | hnext
  · rw [← unitsAt_of_binade scale hinside, Nat.succ_mul, Nat.add_assoc]
  · have hoffset : offset = ranksPerBinade := by omega
    have hunits := unitsAt_of_binade (scale + 1) ranksPerBinade_pos
    have hrank : scale * ranksPerBinade + (ranksPerBinade + ranksPerBinade) =
        (scale + 1 + 1) * ranksPerBinade + 0 := by
      rw [Nat.succ_mul, Nat.succ_mul, Nat.add_assoc, Nat.add_assoc]
    have hpow : Nat.pow 2 (scale + 1) = 2 * Nat.pow 2 scale := Nat.pow_succ'
    rw [hoffset, hrank, hunits, hpow, Nat.add_zero, ← Nat.mul_assoc, Nat.mul_two]

/-- Every rank is a mantissa under a scale, with room for the next one. -/
theorem exists_scaled (rank : Nat) : ∃ scale mantissa,
    rank = scale * ranksPerBinade + mantissa ∧ mantissa < 2 * ranksPerBinade ∧
      IsScaled scale mantissa := by
  rcases Nat.lt_or_ge rank ranksPerBinade with hsmall | hlarge
  · exact ⟨0, rank, by rw [Nat.zero_mul, Nat.zero_add], by omega, by omega, .inr rfl⟩
  · obtain ⟨binade, hbinade⟩ : ∃ b, rank / ranksPerBinade = b + 1 :=
      Nat.exists_eq_succ_of_ne_zero
        (Nat.pos_iff_ne_zero.mp (Nat.div_pos hlarge ranksPerBinade_pos))
    have hoffset := Nat.mod_lt rank ranksPerBinade_pos
    exact ⟨binade, _, (add_mantissa hbinade).symm, by omega, by omega, .inl (Nat.le_add_right _ _)⟩

theorem unitsAt_lt_succ (rank : Nat) : unitsAt rank < unitsAt (rank + 1) := by
  obtain ⟨scale, mantissa, rfl, hlt, hscaled⟩ := exists_scaled rank
  have hnext : IsScaled scale (mantissa + 1) := ⟨hlt, hscaled.2.imp_left Nat.le_succ_of_le⟩
  rw [unitsAt_scaled hscaled, Nat.add_assoc, unitsAt_scaled hnext]
  exact Nat.mul_lt_mul_of_pos_right (Nat.lt_succ_self mantissa) (Nat.pow_pos (by decide))

/-- Magnitudes grow with the rank. -/
theorem strictMono_unitsAt : StrictMono unitsAt :=
  strictMono_nat_of_lt_succ unitsAt_lt_succ

/-! ### Between two neighbours -/

/-- The ranks around a magnitude, and that it goes to the nearer one of them, or half way
to the even one. -/
structure RoundsFrom (units floor : Nat) : Prop where
  le : unitsAt floor ≤ units
  lt : units < unitsAt (floor + 1)
  nearer : (nearestRank units 1 = floor ∧ 2 * units ≤ unitsAt floor + unitsAt (floor + 1)) ∨
    (nearestRank units 1 = floor + 1 ∧ unitsAt floor + unitsAt (floor + 1) ≤ 2 * units)
  even : 2 * units = unitsAt floor + unitsAt (floor + 1) → nearestRank units 1 % 2 = 0

/-- Under its scale a magnitude has a mantissa of 53 bits. -/
theorem mantissa_of_log2 (units : Nat) :
    units / Nat.pow 2 (units.log2 - 52) < 2 * ranksPerBinade ∧
      IsScaled (units.log2 - 52) (units / Nat.pow 2 (units.log2 - 52)) := by
  have hlt : units / Nat.pow 2 (units.log2 - 52) < 2 * ranksPerBinade := by
    refine (Nat.div_lt_iff_lt_mul (Nat.pow_pos (by decide))).mpr ?_
    calc units < 2 ^ (units.log2 + 1) := Nat.lt_log2_self
      _ ≤ 2 ^ (53 + (units.log2 - 52)) := Nat.pow_le_pow_right (by decide) (by omega)
      _ = 2 * ranksPerBinade * Nat.pow 2 (units.log2 - 52) := Nat.pow_add 2 53 _
  refine ⟨hlt, Nat.le_of_lt hlt, ?_⟩
  rcases Nat.lt_or_ge units.log2 52 with hsmall | hlarge
  · exact .inr (by omega)
  · refine .inl ((Nat.le_div_iff_mul_le (Nat.pow_pos (by decide))).mpr ?_)
    have hne : units ≠ 0 := by
      rintro rfl
      exact absurd hlarge (by decide)
    calc ranksPerBinade * Nat.pow 2 (units.log2 - 52)
        = 2 ^ (52 + (units.log2 - 52)) := (Nat.pow_add 2 52 _).symm
      _ = 2 ^ units.log2 := by rw [Nat.add_sub_cancel' hlarge]
      _ ≤ units := Nat.log2_self_le hne

/-- A ratio is rounded to a nearer integer, and half way to the even one. -/
theorem roundHalfEven_spec (num den : Nat) :
    ((roundHalfEven num den = num / den ∧ 2 * (num % den) ≤ den) ∨
      (roundHalfEven num den = num / den + 1 ∧ den ≤ 2 * (num % den))) ∧
    (2 * (num % den) = den → roundHalfEven num den % 2 = 0) := by
  unfold roundHalfEven
  simp only
  split
  · exact ⟨.inl ⟨rfl, by omega⟩, by omega⟩
  · split
    · exact ⟨.inr ⟨rfl, by omega⟩, by omega⟩
    · refine ⟨?_, by omega⟩
      rcases Nat.mod_two_eq_zero_or_one (num / den) with heven | hodd
      · exact .inl ⟨by omega, by omega⟩
      · exact .inr ⟨by omega, by omega⟩

/-- Every magnitude lies between two neighbours. -/
theorem exists_roundsFrom (units : Nat) : ∃ floor, RoundsFrom units floor := by
  obtain ⟨hlt, hscaled⟩ := mantissa_of_log2 units
  have hrank : nearestRank units 1 = (units.log2 - 52) * ranksPerBinade +
      roundHalfEven units (Nat.pow 2 (units.log2 - 52)) := by
    simp only [nearestRank, Nat.div_one, Nat.one_mul]
  generalize units.log2 - 52 = scale at *
  have hwidth : 0 < Nat.pow 2 scale := Nat.pow_pos (by decide)
  obtain ⟨hnearer, heven⟩ := roundHalfEven_spec units (Nat.pow 2 scale)
  have hnext : IsScaled scale (units / Nat.pow 2 scale + 1) :=
    ⟨hlt, hscaled.2.imp_left Nat.le_succ_of_le⟩
  have hunits := unitsAt_scaled hscaled
  have hunits' := unitsAt_scaled hnext
  rw [← Nat.add_assoc] at hunits'
  have hdiv := Nat.div_add_mod' units (Nat.pow 2 scale)
  have hmod := Nat.mod_lt units hwidth
  have hparity : scale * ranksPerBinade % 2 = 0 := by
    have hsize : ranksPerBinade % 2 = 0 := rfl
    rw [Nat.mul_mod, hsize, Nat.mul_zero, Nat.zero_mod]
  rw [Nat.succ_mul] at hunits'
  -- What is left is linear in the first rank of the scale, the mantissa and their widths.
  clear hlt hscaled hnext
  generalize scale * ranksPerBinade = base at *
  generalize Nat.pow 2 scale = width at *
  generalize units / width = mantissa at *
  generalize mantissa * width = low at *
  refine ⟨base + mantissa, ?_, ?_, ?_, ?_⟩
  · omega
  · omega
  · omega
  · omega

/-! ### The nearest rank -/

/-- How far the magnitude of a rank is from another magnitude. -/
def rankDistance (rank units : Nat) : Nat :=
  ((unitsAt rank : Int) - units).natAbs

/-- A rank lies at one side of two neighbours. -/
theorem unitsAt_le_or (rank floor : Nat) :
    (rank ≤ floor ∧ unitsAt rank ≤ unitsAt floor) ∨
      (floor + 1 ≤ rank ∧ unitsAt (floor + 1) ≤ unitsAt rank) := by
  rcases Nat.lt_or_ge floor rank with h | h
  · exact .inr ⟨h, strictMono_unitsAt.monotone h⟩
  · exact .inl ⟨h, strictMono_unitsAt.monotone h⟩

/-- **No rank is nearer.** -/
theorem rankDistance_nearestRank_le (units rank : Nat) :
    rankDistance (nearestRank units 1) units ≤ rankDistance rank units := by
  obtain ⟨floor, hle, hlt, hnearer, _⟩ := exists_roundsFrom units
  have hside := unitsAt_le_or rank floor
  unfold rankDistance
  rcases hnearer with ⟨hrank, hmiddle⟩ | ⟨hrank, hmiddle⟩
  · rw [hrank]
    omega
  · rw [hrank]
    omega

/-- Of two ranks that are as near, the even one is preferred, and the other is odd. -/
theorem parity_of_rankDistance_eq {units rank : Nat} (hne : rank ≠ nearestRank units 1)
    (h : rankDistance rank units = rankDistance (nearestRank units 1) units) :
    nearestRank units 1 % 2 = 0 ∧ rank % 2 = 1 := by
  obtain ⟨floor, hle, hlt, hnearer, heven⟩ := exists_roundsFrom units
  have hbelow := strictMono_unitsAt.lt_iff_lt (a := rank) (b := floor)
  have habove := strictMono_unitsAt.lt_iff_lt (a := floor + 1) (b := rank)
  -- Only half way are both neighbours as near, and one of them is even.
  have hmiddle : 2 * units = unitsAt floor + unitsAt (floor + 1) ∧
      (rank = floor ∨ rank = floor + 1) := by
    unfold rankDistance at h
    have hside := unitsAt_le_or rank floor
    rcases hnearer with ⟨hrank, hnear⟩ | ⟨hrank, hnear⟩
    · rw [hrank] at h hne
      omega
    · rw [hrank] at h hne
      omega
  have hparity := heven hmiddle.1
  omega

/-- Rounding passes an odd rank from the middle between it and the next one on. -/
theorem lt_nearestRank_iff {units rank : Nat} (hodd : rank % 2 = 1) :
    rank < nearestRank units 1 ↔ unitsAt rank + unitsAt (rank + 1) ≤ 2 * units := by
  obtain ⟨floor, hle, hlt, hnearer, heven⟩ := exists_roundsFrom units
  rcases Nat.lt_trichotomy rank floor with h | rfl | h
  · have hrank : unitsAt rank ≤ unitsAt floor := strictMono_unitsAt.monotone (Nat.le_of_lt h)
    have hnext : unitsAt (rank + 1) ≤ unitsAt floor := strictMono_unitsAt.monotone h
    constructor
    · omega
    · omega
  · constructor
    · omega
    · omega
  · have hrank : unitsAt (floor + 1) ≤ unitsAt rank := strictMono_unitsAt.monotone h
    have hnext := unitsAt_lt_succ rank
    constructor
    · omega
    · omega

/-- Rounding does not go below a magnitude that is reached. -/
theorem le_nearestRank {units rank : Nat} (h : unitsAt rank ≤ units) :
    rank ≤ nearestRank units 1 := by
  obtain ⟨floor, _, hlt, hnearer, _⟩ := exists_roundsFrom units
  have hrank : rank < floor + 1 := strictMono_unitsAt.lt_iff_lt.mp (Nat.lt_of_le_of_lt h hlt)
  omega

/-! ### The nearest number -/

/-- The value of a finite number, in multiples of the smallest positive number. -/
def value : Number → Int
  | .finite negative rank =>
    if negative then -Int.ofNat (unitsAt rank) else Int.ofNat (unitsAt rank)
  | _ => 0

/-- How far a number is from an integer, in multiples of the smallest positive number. -/
def distance (x : Number) (n : Int) : Nat :=
  (x.value - n * unitsPerOne).natAbs

/-- The last bit of the mantissa is zero. As the size of a binade is even, this is the
last bit of the rank. -/
def IsEven : Number → Prop
  | .finite _ rank => rank.val % 2 = 0
  | _ => False

/-- A finite number that is nearest to an integer, the even one if there are two. -/
structure IsNearest (x : Number) (n : Int) : Prop where
  isFinite : x.isFinite = true
  distance_le : ∀ y : Number, y.isFinite = true → x.distance n ≤ y.distance n
  same_or_even : ∀ y : Number, y.isFinite = true → y.distance n = x.distance n →
    y.same x = true ∨ x.IsEven

theorem mul_unitsPerOne (n : Int) : n * unitsPerOne =
    if n < 0 then -Int.ofNat (n.natAbs * unitsPerOne) else Int.ofNat (n.natAbs * unitsPerOne) := by
  generalize unitsPerOne = scale
  split
  · next h =>
      obtain ⟨k, rfl⟩ : ∃ k : Nat, n = -k := ⟨n.natAbs, by omega⟩
      rw [Int.natAbs_neg, Int.natAbs_natCast, Int.neg_mul]
      rfl
  · next h =>
      obtain ⟨k, rfl⟩ : ∃ k : Nat, n = k := ⟨n.natAbs, by omega⟩
      simp

/-- On the side of the integer the distance is that of the magnitudes; on the other side
both magnitudes add up. -/
theorem distance_finite (negative : Bool) (rank : Fin rankBound) (n : Int) :
    (finite negative rank).distance n =
      if decide (n < 0) = negative then rankDistance rank (n.natAbs * unitsPerOne)
      else unitsAt rank + n.natAbs * unitsPerOne := by
  unfold distance rankDistance value
  rw [mul_unitsPerOne]
  generalize n.natAbs * unitsPerOne = units
  have hcast : ∀ k : Nat, Int.ofNat k = k := fun _ => rfl
  simp only [hcast]
  cases negative with
  | true =>
      simp only [decide_eq_true_eq, if_true]
      split <;> omega
  | false =>
      simp only [decide_eq_false_iff_not, Bool.false_eq_true, if_false]
      split <;> omega

theorem rankDistance_le_distance (negative : Bool) (rank : Fin rankBound) (n : Int) :
    rankDistance rank (n.natAbs * unitsPerOne) ≤ (finite negative rank).distance n := by
  rw [distance_finite]
  split
  · exact Nat.le_refl _
  · unfold rankDistance
    omega

/-- The rank nearest to an integer. -/
def integerRank (n : Int) : Nat :=
  nearestRank (n.natAbs * unitsPerOne) 1

theorem ofInt?_eq_some_iff {n : Int} {x : Number} : ofInt? n = some x ↔
    ∃ h : integerRank n < rankBound, x = .finite (decide (n < 0)) ⟨integerRank n, h⟩ := by
  unfold ofInt? ofRatio ofRank
  split
  · next h =>
      constructor
      · intro heq
        exact ⟨h, (Option.some.inj heq).symm⟩
      · rintro ⟨_, rfl⟩
        rfl
  · next h =>
      constructor
      · intro heq
        cases heq
      · rintro ⟨hlt, _⟩
        exact absurd hlt h

theorem integerRank_zero : integerRank 0 = 0 := by
  have hrank := nearestRank_self 0
  rw [unitsAt_zero] at hrank
  rw [integerRank, Int.natAbs_zero, Nat.zero_mul, hrank]

theorem distance_rounded {n : Int} (h : integerRank n < rankBound) :
    (finite (decide (n < 0)) ⟨integerRank n, h⟩).distance n =
      rankDistance (integerRank n) (n.natAbs * unitsPerOne) := by
  rw [distance_finite, if_pos rfl]

/-- A number that is as near to an integer as the rank it is rounded to has that rank, and
the other sign only if it is zero, or it has an odd rank and the other one is even. -/
theorem same_or_odd {n : Int} {negative : Bool} {rank : Fin rankBound}
    (h : (finite negative rank).distance n =
      rankDistance (integerRank n) (n.natAbs * unitsPerOne)) :
    (rank.val = integerRank n ∧ (negative = decide (n < 0) ∨ rank.val = 0)) ∨
      (integerRank n % 2 = 0 ∧ rank.val % 2 = 1) := by
  by_cases hrank : rank.val = integerRank n
  · refine .inl ⟨hrank, ?_⟩
    by_cases hsign : decide (n < 0) = negative
    · exact .inl hsign.symm
    · rw [distance_finite, if_neg hsign, ← hrank] at h
      have hzero : unitsAt rank = 0 ∨ n.natAbs * unitsPerOne = 0 := by
        unfold rankDistance at h
        omega
      rcases hzero with hunits | hunits
      · exact .inr (Decidable.byContradiction fun hne => unitsAt_ne_zero hne hunits)
      · have habs : n.natAbs = 0 := (Nat.mul_eq_zero.mp hunits).resolve_right unitsPerOne_ne_zero
        rw [Int.natAbs_eq_zero.mp habs, integerRank_zero] at hrank
        exact .inr hrank
  · refine .inr (parity_of_rankDistance_eq hrank ?_)
    refine Nat.le_antisymm ?_ (rankDistance_nearestRank_le _ _)
    exact Nat.le_trans (rankDistance_le_distance negative rank n) (Nat.le_of_eq h)

theorem same_finite_iff {s t : Bool} {rank other : Fin rankBound} :
    (finite s rank).same (finite t other) = true ↔
      rank.val = other.val ∧ (s = t ∨ rank.val = 0) := by
  simp only [same, Bool.and_eq_true, Bool.or_eq_true, beq_iff_eq, Fin.ext_iff]

section Rounded

variable {n : Int} {x y : Number}

/-- **An integer is read as the number nearest to it.** -/
theorem isNearest_of_ofInt? (h : ofInt? n = some x) : x.IsNearest n := by
  obtain ⟨hlt, rfl⟩ := ofInt?_eq_some_iff.mp h
  have hdistance := distance_rounded hlt
  refine ⟨rfl, ?_, ?_⟩
  · intro y hy
    cases y with
    | infinite negative => cases hy
    | nan => cases hy
    | finite negative rank =>
        rw [hdistance]
        exact Nat.le_trans (rankDistance_nearestRank_le _ rank)
          (rankDistance_le_distance negative rank n)
  · intro y hy heq
    cases y with
    | infinite negative => cases hy
    | nan => cases hy
    | finite negative rank =>
        rcases same_or_odd (heq.trans hdistance) with hsame | ⟨heven, _⟩
        · exact .inl (same_finite_iff.mpr hsame)
        · exact .inr heven

/-- No number of another value is nearest to the integer. -/
theorem IsNearest.same_of_ofInt? (hy : y.IsNearest n) (h : ofInt? n = some x) :
    y.same x = true := by
  have hx := isNearest_of_ofInt? h
  have hle := hy.distance_le x hx.isFinite
  have hge := hx.distance_le y hy.isFinite
  have hback := hy.same_or_even x hx.isFinite (Nat.le_antisymm hge hle)
  obtain ⟨hlt, rfl⟩ := ofInt?_eq_some_iff.mp h
  have hfinite := hy.isFinite
  cases y with
  | infinite negative => cases hfinite
  | nan => cases hfinite
  | finite negative rank =>
      have hdistance := (Nat.le_antisymm hle hge).trans (distance_rounded hlt)
      rcases same_or_odd hdistance with hsame | ⟨heven, hodd⟩
      · exact same_finite_iff.mpr hsame
      · -- Each of two different numbers would have to be even.
        rcases hback with hsame | heven'
        · have hrank : integerRank n = rank.val := (same_finite_iff.mp hsame).1
          omega
        · have hrank : rank.val % 2 = 0 := heven'
          omega

end Rounded

end Rulebook.Number
