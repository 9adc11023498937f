/-!
Sets of characters as ranges of code points.
-/

namespace Rulebook.Text

/-- Whether a character lies in one of several ranges with both ends included. -/
def inRanges (ranges : List (Nat × Nat)) (c : Char) : Bool :=
  ranges.any fun (first, last) => decide (first ≤ c.toNat ∧ c.toNat ≤ last)

end Rulebook.Text
