import Rulebook.Proofs.Equality
import Rulebook.Proofs.ExprDocument
import Rulebook.Proofs.NearestNumber

/-!
Integers are exact up to `2^53` and stable beyond.

An integer in a document is read as the number nearest to it. It is out of range from the
middle between the greatest finite number and the next power of two on
(`ofInt?_eq_none_iff`). Up to `2^53` the number is the integer itself (`toInt?_of_le`), and
an integer beyond is read as a number that is not smaller (`le_natAbs_value`). So a number
is written as an integer only if it is that integer, and every other one as it is.
-/

namespace Rulebook

/-! ### Range -/

/-- The least magnitude of an integer that is out of range: the middle between the
greatest finite number and `2^1024`. -/
def overflowFrom : Nat := Nat.pow 2 1024 - Nat.pow 2 970

namespace Number

theorem unitsAt_overflow : unitsAt (rankBound - 1) + unitsAt rankBound =
    2 * (overflowFrom * unitsPerOne) := by
  decide +kernel

/-- **From which integer on there is no finite number.** The greatest finite rank is odd, so
the middle between it and the next one is rounded up. -/
theorem ofInt?_eq_none_iff {n : Int} : ofInt? n = none ↔ overflowFrom ≤ n.natAbs := by
  have hrange : ofInt? n = none ↔ rankBound - 1 < integerRank n := by
    rw [Option.eq_none_iff_forall_ne_some]
    constructor
    · intro h
      refine Decidable.byContradiction fun hle => ?_
      have hlt := Nat.lt_of_le_pred rankBound_pos (Nat.not_lt.mp hle)
      exact h _ (ofInt?_eq_some_iff.mpr ⟨hlt, rfl⟩)
    · intro h x hx
      obtain ⟨hlt, _⟩ := ofInt?_eq_some_iff.mp hx
      omega
  have hodd : (rankBound - 1) % 2 = 1 := by decide
  have hnext : rankBound - 1 + 1 = rankBound := rfl
  rw [hrange]
  refine (lt_nearestRank_iff hodd).trans ?_
  rw [hnext, unitsAt_overflow, Nat.mul_le_mul_left_iff (by decide),
    Nat.mul_le_mul_right_iff (Nat.pos_of_ne_zero unitsPerOne_ne_zero)]

theorem exists_ofInt?_of_lt {n : Int} (h : n.natAbs < overflowFrom) :
    ∃ x, ofInt? n = some x := by
  refine Option.ne_none_iff_exists'.mp fun hnone => ?_
  exact Nat.not_le.mpr h (ofInt?_eq_none_iff.mp hnone)

/-! ### Exactness -/

/-- Every integer up to `2^53` is a magnitude. -/
theorem exists_unitsAt_eq {magnitude : Nat} (h : magnitude ≤ maxExactInt) :
    ∃ rank, unitsAt rank = magnitude * unitsPerOne := by
  rcases Nat.eq_zero_or_pos magnitude with rfl | hpos
  · exact ⟨0, by rw [unitsAt_zero, Nat.zero_mul]⟩
  -- The places that the mantissa has after the point.
  obtain ⟨places, hplaces⟩ : ∃ places, places = 52 - magnitude.log2 := ⟨_, rfl⟩
  have hfull : ranksPerBinade ≤ magnitude * 2 ^ places :=
    calc ranksPerBinade ≤ 2 ^ (magnitude.log2 + places) :=
          Nat.pow_le_pow_right (by decide) (by omega)
      _ = 2 ^ magnitude.log2 * 2 ^ places := Nat.pow_add 2 _ _
      _ ≤ magnitude * 2 ^ places :=
          Nat.mul_le_mul_right _ (Nat.log2_self_le (Nat.pos_iff_ne_zero.mp hpos))
  have hbound : magnitude * 2 ^ places ≤ 2 * ranksPerBinade := by
    rcases Nat.lt_or_ge magnitude.log2 52 with hsmall | hlarge
    · calc magnitude * 2 ^ places ≤ 2 ^ (magnitude.log2 + 1) * 2 ^ places :=
            Nat.mul_le_mul_right _ (Nat.le_of_lt Nat.lt_log2_self)
        _ = 2 ^ (magnitude.log2 + 1 + places) := (Nat.pow_add 2 _ _).symm
        _ ≤ 2 ^ 53 := Nat.pow_le_pow_right (by decide) (by omega)
        _ = 2 * ranksPerBinade := rfl
    · have hzero : places = 0 := by omega
      rw [hzero, Nat.pow_zero, Nat.mul_one]
      exact h
  have hfinest : 52 ≤ finestPlace := by decide +kernel
  have hscale : places + (finestPlace - places) = finestPlace := by omega
  refine ⟨(finestPlace - places) * ranksPerBinade + magnitude * 2 ^ places, ?_⟩
  rw [unitsAt_scaled ⟨hbound, .inl hfull⟩, Nat.mul_assoc]
  calc magnitude * (2 ^ places * 2 ^ (finestPlace - places))
      = magnitude * 2 ^ (places + (finestPlace - places)) := by rw [Nat.pow_add]
    _ = magnitude * unitsPerOne := congrArg (magnitude * 2 ^ ·) hscale

theorem natAbs_value (negative : Bool) (rank : Fin rankBound) :
    (finite negative rank).value.natAbs = unitsAt rank := by
  cases negative with
  | true => exact Int.natAbs_neg _
  | false => rfl

/-- The value of a number that is an integer. -/
theorem value_of_toInt? {x : Number} {n : Int} (h : x.toInt? = some n) :
    x.value = n * unitsPerOne := by
  cases x with
  | infinite negative => cases h
  | nan => cases h
  | finite negative rank =>
      obtain ⟨hunits, hsign⟩ := toInt?_finite h
      rw [mul_unitsPerOne, hunits, value]
      by_cases hn : n.natAbs = 0
      · rw [← hunits, hn, Nat.zero_mul]
        split <;> split <;> rfl
      · rw [← hsign hn]
        simp only [decide_eq_true_eq]

theorem toInt?_of_unitsAt (negative : Bool) {rank : Fin rankBound} {magnitude : Nat}
    (h : unitsAt rank = magnitude * unitsPerOne) : (finite negative rank).toInt? =
      some (if negative then -Int.ofNat magnitude else Int.ofNat magnitude) := by
  have hpos := Nat.pos_of_ne_zero unitsPerOne_ne_zero
  simp only [toInt?, h, Nat.mul_mod_left, Nat.mul_div_cancel _ hpos, if_true]

section Rounded

variable {n : Int} {x : Number}

/-- **An integer up to `2^53` is read as itself.** -/
theorem toInt?_of_le (h : ofInt? n = some x) (hn : n.natAbs ≤ maxExactInt) :
    x.toInt? = some n := by
  obtain ⟨hlt, rfl⟩ := ofInt?_eq_some_iff.mp h
  obtain ⟨rank, hunits⟩ := exists_unitsAt_eq hn
  have hrank : unitsAt (integerRank n) = n.natAbs * unitsPerOne := by
    rw [integerRank, ← hunits, nearestRank_self]
  rw [toInt?_of_unitsAt _ hrank]
  refine congrArg some ?_
  simp only [decide_eq_true_eq, Int.ofNat_eq_natCast]
  split <;> omega

/-- A greater integer is not read as a smaller number. -/
theorem le_natAbs_value (h : ofInt? n = some x) (hn : maxExactInt ≤ n.natAbs) :
    maxExactInt * unitsPerOne ≤ x.value.natAbs := by
  obtain ⟨hlt, rfl⟩ := ofInt?_eq_some_iff.mp h
  obtain ⟨rank, hunits⟩ := exists_unitsAt_eq (Nat.le_refl maxExactInt)
  have hrank : rank ≤ integerRank n := by
    refine le_nearestRank ?_
    rw [hunits]
    exact Nat.mul_le_mul_right _ hn
  rw [natAbs_value, ← hunits]
  exact strictMono_unitsAt.monotone hrank

/-- A number up to `2^53` that an integer is read as is an integer. -/
theorem exists_toInt?_of_le (h : ofInt? n = some x)
    (hx : x.value.natAbs ≤ maxExactInt * unitsPerOne) :
    ∃ m, x.toInt? = some m ∧ m.natAbs ≤ maxExactInt := by
  rcases Nat.le_total n.natAbs maxExactInt with hn | hn
  · exact ⟨n, toInt?_of_le h hn, hn⟩
  · have hunits := Nat.le_antisymm hx (le_natAbs_value h hn)
    obtain ⟨hlt, rfl⟩ := ofInt?_eq_some_iff.mp h
    rw [natAbs_value] at hunits
    refine ⟨_, toInt?_of_unitsAt _ hunits, ?_⟩
    simp only [Int.ofNat_eq_natCast]
    split <;> omega

/-- **Integers up to `2^53` are told apart.** -/
theorem eq_of_same_ofInt? {m : Int} {y : Number} (hx : ofInt? n = some x) (hy : ofInt? m = some y)
    (hn : n.natAbs ≤ maxExactInt) (hm : m.natAbs ≤ maxExactInt) (h : x.same y = true) :
    n = m := by
  have hintx := toInt?_of_le hx hn
  have hinty := toInt?_of_le hy hm
  rcases same_iff.mp h with ⟨rfl, _⟩ | ⟨_, _, rfl, rfl⟩
  · exact Option.some.inj (hintx.symm.trans hinty)
  · rw [toInt_zero] at hintx hinty
    exact Option.some.inj (hintx.symm.trans hinty)

end Rounded

end Number

/-! ### Reading and writing -/

namespace Literal

theorem encode_eq_int_iff {x : Number} {m : Int} :
    (number x).encode = .int m ↔ x.toInt? = some m ∧ m.natAbs ≤ maxExactInt := by
  constructor
  · intro h
    rcases encode_number x with ⟨n, hint, hsmall, hencode⟩ | ⟨_, hencode⟩
    · cases hencode.symm.trans h
      exact ⟨hint, hsmall⟩
    · cases hencode.symm.trans h
  · rintro ⟨hint, hsmall⟩
    simp only [encode, hint, if_pos hsmall]

/-- An integer that a number is written as is its value. -/
theorem value_of_encode {x : Number} {m : Int} (h : (number x).encode = .int m) :
    x.value = m * Number.unitsPerOne ∧ x.value.natAbs ≤ maxExactInt * Number.unitsPerOne := by
  obtain ⟨hint, hsmall⟩ := encode_eq_int_iff.mp h
  have hvalue := Number.value_of_toInt? hint
  refine ⟨hvalue, ?_⟩
  rw [hvalue, Int.natAbs_mul, Int.natAbs_natCast]
  exact Nat.mul_le_mul_right _ hsmall

/-- **A number beyond `2^53` is written as it is.** -/
theorem encode_of_lt {x : Number} (h : maxExactInt * Number.unitsPerOne < x.value.natAbs) :
    (number x).encode = .float x := by
  rcases encode_number x with ⟨m, _, _, hencode⟩ | ⟨_, hencode⟩
  · exact absurd (value_of_encode hencode).2 (Nat.not_le.mpr h)
  · exact hencode

/-- **Which numbers that integers are read as are written as integers.** -/
theorem encode_int_iff {n : Int} {x : Number} (h : Number.ofInt? n = some x) :
    (∃ m, (number x).encode = .int m) ↔
      x.value.natAbs ≤ maxExactInt * Number.unitsPerOne := by
  constructor
  · rintro ⟨m, hencode⟩
    exact (value_of_encode hencode).2
  · intro hx
    obtain ⟨m, hint, hsmall⟩ := Number.exists_toInt?_of_le h hx
    exact ⟨m, encode_eq_int_iff.mpr ⟨hint, hsmall⟩⟩

end Literal

namespace Expr

variable {machine : Machine}

theorem encode?_literal (v : Literal) : (Expr.literal v).encode? machine = some v.encode :=
  if_pos (machine.encodes_leaf _ (Literal.isContainer_encode v))

/-- The stack gives out over no leaf. -/
theorem decode_leaf {value : Data} (h : value.isContainer = false) :
    decode machine value = decodeWithin (defaultMaxDepth + 1) [] value :=
  decodeAt_of_decodes (machine.decodes_leaf value h)

theorem decode_int_of_ofInt? {n : Int} {x : Number} (h : Number.ofInt? n = some x) :
    decode machine (.int n) = .ok (.literal (.number x)) := by
  rw [decode_leaf rfl]
  simp only [decodeWithin, integerLiteral, Literal.ofInt?, h]
  rfl

theorem eq_of_decode_int {n : Int} {x y : Number} (hread : Number.ofInt? n = some y)
    (h : decode machine (.int n) = .ok (.literal (.number x))) : x = y := by
  cases (decode_int_of_ofInt? hread).symm.trans h
  rfl

/-- **Which integers are refused.** -/
theorem decode_int_error_iff {n : Int} :
    (∃ error, decode machine (.int n) = .error error) ↔ overflowFrom ≤ n.natAbs := by
  rw [← Number.ofInt?_eq_none_iff]
  cases hread : Number.ofInt? n with
  | none =>
      have hdecode : decode machine (.int n) = .error ⟨.numberOutOfRange, []⟩ := by
        rw [decode_leaf rfl]
        simp only [decodeWithin, integerLiteral, Literal.ofInt?, hread]
        rfl
      exact ⟨fun _ => rfl, fun _ => ⟨_, hdecode⟩⟩
  | some x =>
      rw [decode_int_of_ofInt? hread]
      constructor
      · rintro ⟨_, ⟨⟩⟩
      · intro h
        cases h

theorem decode_float {x : Number} (h : x.isFinite = true) :
    decode machine (.float x) = .ok (.literal (.number x)) := by
  rw [decode_leaf rfl]
  simp only [decodeWithin, finiteLiteral, h]
  rfl

end Expr

/-- **Integers are exact up to `2^53` and stable beyond.** An integer is refused if and only
if its magnitude is `2^1024 - 2^970` or more. Any other one is read as the number nearest
to it, which is written as an integer exactly up to `2^53`: as the integer that it is, and
so as the one that was read if that is not beyond `2^53`. Beyond, the number is written as
it is, and that is read as an equal literal. So no two integers up to `2^53` are taken for
one another. -/
theorem integers_exact_then_stable (machine : Machine) :
    (∀ n : Int, (∃ error, Expr.decode machine (.int n) = .error error) ↔ overflowFrom ≤ n.natAbs) ∧
    (∀ n : Int, n.natAbs < overflowFrom → ∃ x : Number,
      x.IsNearest n ∧ (∀ y : Number, y.IsNearest n → y.same x = true) ∧
      Expr.decode machine (.int n) = .ok (.literal (.number x)) ∧
      ((∃ m, (Expr.literal (.number x)).encode? machine = some (.int m)) ↔
        x.value.natAbs ≤ maxExactInt * Number.unitsPerOne) ∧
      (∀ m, (Expr.literal (.number x)).encode? machine = some (.int m) →
        x.value = m * Number.unitsPerOne) ∧
      (n.natAbs ≤ maxExactInt → (Expr.literal (.number x)).encode? machine = some (.int n)) ∧
      (maxExactInt * Number.unitsPerOne < x.value.natAbs →
        (Expr.literal (.number x)).encode? machine = some (.float x) ∧
        ∃ e, Expr.decode machine (.float x) = .ok e ∧ e.same (.literal (.number x)) = true)) ∧
    (∀ n m : Int, n.natAbs ≤ maxExactInt → m.natAbs ≤ maxExactInt →
      ∃ e f, Expr.decode machine (.int n) = .ok e ∧ Expr.decode machine (.int m) = .ok f ∧
        (e.same f = true → n = m)) := by
  refine ⟨fun n => Expr.decode_int_error_iff, ?_, ?_⟩
  · intro n hn
    obtain ⟨x, hread⟩ := Number.exists_ofInt?_of_lt hn
    have hnearest := Number.isNearest_of_ofInt? hread
    simp only [Expr.encode?_literal, Option.some.injEq]
    refine ⟨x, hnearest, fun y hy => hy.same_of_ofInt? hread, Expr.decode_int_of_ofInt? hread,
      Literal.encode_int_iff hread, fun m hm => (Literal.value_of_encode hm).1, ?_, ?_⟩
    · intro hsmall
      exact Literal.encode_eq_int_iff.mpr ⟨Number.toInt?_of_le hread hsmall, hsmall⟩
    · intro hlarge
      have hne : Literal.number x ≠ .number .nan := by
        rintro ⟨⟩
        cases hnearest.isFinite
      exact ⟨Literal.encode_of_lt hlarge, _, Expr.decode_float hnearest.isFinite,
        Literal.same_self_iff.mpr hne⟩
  · intro n m hn hm
    have hrange : maxExactInt < overflowFrom := by decide +kernel
    obtain ⟨x, hx⟩ := Number.exists_ofInt?_of_lt (Nat.lt_of_le_of_lt hn hrange)
    obtain ⟨y, hy⟩ := Number.exists_ofInt?_of_lt (Nat.lt_of_le_of_lt hm hrange)
    exact ⟨_, _, Expr.decode_int_of_ofInt? hx, Expr.decode_int_of_ofInt? hy,
      Number.eq_of_same_ofInt? hx hy hn hm⟩

/-- The integer after `2^53` is read as that power of two and so written; the one after
`2^60` is read as a number that is written as it is; `2^1024 - 2^970` is refused. -/
theorem integers_at_the_limits :
    (∃ error, Expr.decode .standard (.int overflowFrom) = .error error) ∧
    (∃ x : Number, x.IsNearest 9007199254740993 ∧
      Expr.decode .standard (.int 9007199254740993) = .ok (.literal (.number x)) ∧
      (Expr.literal (.number x)).encode? .standard = some (.int 9007199254740992)) ∧
    (∃ x : Number, x.IsNearest 1152921504606846977 ∧
      Expr.decode .standard (.int 1152921504606846977) = .ok (.literal (.number x)) ∧
      (Expr.literal (.number x)).encode? .standard = some (.float x) ∧
      ∃ e, Expr.decode .standard (.float x) = .ok e ∧ e.same (.literal (.number x)) = true) ∧
    (∃ e f, Expr.decode .standard (.int 9007199254740992) = .ok e ∧
      Expr.decode .standard (.int (-9007199254740991)) = .ok f ∧ e.same f = false) := by
  obtain ⟨hrefused, hread, happart⟩ := integers_exact_then_stable .standard
  refine ⟨?_, ?_, ?_, ?_⟩
  · rw [hrefused, Int.natAbs_natCast]
  · obtain ⟨x, hnearest, _, hdecode, hint, hvalue, _⟩ := hread 9007199254740993 (by decide +kernel)
    have hx : x = .finite false ⟨1076 * Number.ranksPerBinade, by decide⟩ :=
      Expr.eq_of_decode_int (by decide +kernel) hdecode
    have hunits : x.value = 9007199254740992 * Number.unitsPerOne := by
      rw [hx]
      decide +kernel
    obtain ⟨m, hencode⟩ := hint.mpr (by rw [hx]; decide +kernel)
    have hm : m = 9007199254740992 :=
      Int.eq_of_mul_eq_mul_right (Int.natCast_ne_zero.mpr Number.unitsPerOne_ne_zero)
        ((hvalue m hencode).symm.trans hunits)
    exact ⟨x, hnearest, hdecode, hm ▸ hencode⟩
  · obtain ⟨x, hnearest, _, hdecode, _, _, _, hstable⟩ :=
      hread 1152921504606846977 (by decide +kernel)
    have hx : x = .finite false ⟨1083 * Number.ranksPerBinade, by decide⟩ :=
      Expr.eq_of_decode_int (by decide +kernel) hdecode
    exact ⟨x, hnearest, hdecode, hstable (by rw [hx]; decide +kernel)⟩
  · obtain ⟨e, f, he, hf, hdistinct⟩ :=
      happart 9007199254740992 (-9007199254740991) (by decide) (by decide)
    refine ⟨e, f, he, hf, Bool.eq_false_iff.mpr fun hsame => ?_⟩
    exact absurd (hdistinct hsame) (by decide)

end Rulebook
