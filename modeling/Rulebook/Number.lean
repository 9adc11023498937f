/-!
Floating-point numbers of 64 bits, exactly.

A finite number is a sign and a rank: the magnitudes in increasing order,
counted from zero. `Number.unitsAt` is the magnitude itself, in multiples of the
smallest positive number `2^-1074`; it grows with the rank. A ratio is read as
the rank nearest to it, a half going to the even rank (`nearestRank`), so
equality of numbers is decidable and every reading is a computation on natural
numbers.
-/

namespace Rulebook

/-- How many ranks a binade has. -/
abbrev Number.ranksPerBinade : Nat := Nat.pow 2 52

/-- How many finite magnitudes there are: 2047 binades. -/
abbrev Number.rankBound : Nat := 2047 * Number.ranksPerBinade

/-- A floating-point number: a signed finite magnitude, an infinity, or not a
number. -/
inductive Number where
  | finite (negative : Bool) (rank : Fin Number.rankBound)
  | infinite (negative : Bool)
  | nan
deriving DecidableEq

namespace Number

/-! ### Magnitudes -/

/-- The magnitude at a rank, in multiples of `2^-1074`. The first binade is
linear from zero; each later one doubles the distance between neighbours. -/
def unitsAt (rank : Nat) : Nat :=
  let binade := rank / ranksPerBinade
  if binade = 0 then rank
  else (ranksPerBinade + rank % ranksPerBinade) * Nat.pow 2 (binade - 1)

/-- The place of the smallest positive number, `2^-finestPlace`. -/
@[irreducible] def finestPlace : Nat := 1074

/-- How many multiples of the smallest positive number make one. -/
def unitsPerOne : Nat := Nat.pow 2 finestPlace

/-- The integer nearest to `num / den`; a half goes to the even neighbour. -/
def roundHalfEven (num den : Nat) : Nat :=
  let quotient := num / den
  let remainder := num % den
  if 2 * remainder < den then quotient
  else if den < 2 * remainder then quotient + 1
  else quotient + quotient % 2

/-- The rank nearest to the magnitude `num / den`, given in multiples of
`2^-1074`. A result of `rankBound` or more is an overflow. -/
def nearestRank (num den : Nat) : Nat :=
  let shift := (num / den).log2 - 52
  shift * ranksPerBinade + roundHalfEven num (den * Nat.pow 2 shift)

/-- The number of a sign and a rank, infinite from `rankBound` on. -/
def ofRank (negative : Bool) (rank : Nat) : Number :=
  if h : rank < rankBound then .finite negative ⟨rank, h⟩ else .infinite negative

/-- The number nearest to `num / den`. -/
def ofRatio (negative : Bool) (num den : Nat) : Number :=
  ofRank negative (nearestRank (num * unitsPerOne) den)

/-- Zero of a sign. -/
def zero (negative : Bool) : Number :=
  .finite negative ⟨0, by decide⟩

/-- The number nearest to `digits * 10^exponent`. The two guards answer at once
where the power of ten alone decides: from `10^344` on every positive value
overflows, and below `2^-1080` every value is nearest to zero. -/
def ofDecimal (negative : Bool) (digits : Nat) : (exponent : Int) → Number
  | .ofNat n =>
    if digits = 0 then zero negative
    else if 1030 < 3 * n then .infinite negative
    else ofRatio negative (digits * Nat.pow 10 n) 1
  | .negSucc n =>
    if digits.log2 + 1081 < 3 * (n + 1) then zero negative
    else ofRatio negative digits (Nat.pow 10 (n + 1))

/-! ### Integers -/

/-- The number, unless it is infinite. -/
def bounded? : Number → Option Number
  | .infinite _ => none
  | x => some x

/-- The number nearest to an integer; none if it overflows. -/
def ofInt? (n : Int) : Option Number :=
  (ofRatio (decide (n < 0)) n.natAbs 1).bounded?

/-- The integer that a number is, if it is one. -/
def toInt? : Number → Option Int
  | .finite negative rank =>
    let units := unitsAt rank
    if units % unitsPerOne = 0 then
      let magnitude := Int.ofNat (units / unitsPerOne)
      some (if negative then -magnitude else magnitude)
    else none
  | _ => none

/-- Neither infinite nor not a number. -/
def isFinite : Number → Bool
  | .finite _ _ => true
  | _ => false

/-! ### Equality of values -/

/-- Equality of the values: the two zeros are equal, and what is not a number
equals nothing, itself included. -/
def same : Number → Number → Bool
  | .finite s r, .finite t q => r == q && (s == t || r.val == 0)
  | .infinite s, .infinite t => s == t
  | _, _ => false

end Number

end Rulebook
