import Rulebook.Number

/-!
The shortest decimal that reads back as a given number.

Decimals are grouped into grids, the multiples of one power of ten. The search
goes from coarse grids to fine ones and stops at the first that holds a decimal
reading back as the number; on that grid the nearer of the two neighbours wins,
a tie going to the even one. The finest grid, `10^-1074`, holds every finite
number itself, so the search always ends with a hit.
-/

namespace Rulebook.Number

/-- The magnitude at `rank` divided by `10^exponent`, as a ratio. -/
def onGrid (rank : Nat) : (exponent : Int) → Nat × Nat
  | .ofNat n => (unitsAt rank, unitsPerOne * Nat.pow 10 n)
  | .negSucc n => (unitsAt rank * Nat.pow 10 (n + 1), unitsPerOne)

/-- Whether `digits * 10^exponent` is read as the positive number at `rank`. -/
def readsBack (rank digits : Nat) (exponent : Int) : Bool :=
  ofDecimal false digits exponent == ofRank false rank

/-- The multiple of `10^exponent` that reads back as the number at `rank` and is
nearest to it, if any multiple does. -/
def gridPoint? (rank : Nat) (exponent : Int) : Option Nat :=
  let (num, den) := onGrid rank exponent
  let below := num / den
  match readsBack rank below exponent, readsBack rank (below + 1) exponent with
  | true, true => some (roundHalfEven num den)
  | true, false => some below
  | false, true => some (below + 1)
  | false, false => none

/-- The first grid with a hit among `10^exponent` and the next finer ones, and
the exact decimal expansion once `steps` grids have been tried. -/
def searchGrids (rank : Nat) : (steps : Nat) → (exponent : Int) → Nat × Int
  | 0, _ => (unitsAt rank * Nat.pow 5 finestPlace, -Int.ofNat finestPlace)
  | steps + 1, exponent =>
    match gridPoint? rank exponent with
    | some digits => (digits, exponent)
    | none => searchGrids rank steps (exponent - 1)

/-- A power of ten above the number at `rank`: `2^b` is at most `10^(31b/100+1)`
for positive `b` and at most `10^(3b/10+1)` for negative `b`. -/
def coarsestGrid (rank : Nat) : Int :=
  let binary : Int := Int.ofNat (unitsAt rank).log2 - 1073
  if 0 ≤ binary then binary * 31 / 100 + 1 else binary * 3 / 10 + 1

/-- The fewest digits, as `digits * 10^exponent`, that read back as the positive
number at `rank`. -/
def shortest (rank : Nat) : Nat × Int :=
  let start := coarsestGrid rank
  searchGrids rank (start + Int.ofNat finestPlace).toNat start

end Rulebook.Number
