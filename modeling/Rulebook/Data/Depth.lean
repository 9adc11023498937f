import Rulebook.Data

/-!
How deep a document value is nested.
-/

namespace Rulebook.Data

mutual

/-- Containers inside each other, counted along the deepest of them. -/
def depth : Data → Nat
  | .array items => 1 + itemsDepth items
  | .object members => 1 + membersDepth members
  | _ => 0

/-- The greatest depth of some items. -/
def itemsDepth : List Data → Nat
  | [] => 0
  | item :: rest => max item.depth (itemsDepth rest)

/-- The greatest depth of some members. -/
def membersDepth : List (String × Data) → Nat
  | [] => 0
  | (_, value) :: rest => max value.depth (membersDepth rest)

end

@[simp] theorem depth_leaf {value : Data} (h : value.isContainer = false) :
    value.depth = 0 := by
  cases value <;> first | rfl | cases h

end Rulebook.Data
