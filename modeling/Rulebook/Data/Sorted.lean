import Rulebook.Data

/-!
Document values with the members of every object sorted by name.
-/

namespace Rulebook.Data

mutual

/-- The same value with the members of every object sorted by name. -/
def sorted : Data → Data
  | .array items => .array (sortedItems items)
  | .object members =>
    .object ((sortedMembers members).mergeSort fun a b => decide (a.1 ≤ b.1))
  | other => other

/-- Items, each with its members sorted. -/
def sortedItems : List Data → List Data
  | [] => []
  | value :: rest => value.sorted :: sortedItems rest

/-- Members in their order, the value of each with its members sorted. -/
def sortedMembers : List (String × Data) → List (String × Data)
  | [] => []
  | (name, value) :: rest => (name, value.sorted) :: sortedMembers rest

end

end Rulebook.Data
