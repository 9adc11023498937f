/-!
Trees of labels and their drawing with guide lines.
-/

namespace Rulebook.Display

/-- A label with further trees below it. -/
inductive Tree (α : Type) where
  | node (label : α) (children : List (Tree α))

namespace Tree

variable {α : Type}

/-- The label at the root. -/
def label : Tree α → α
  | .node label _ => label

/-- The trees below the root. -/
def children : Tree α → List (Tree α)
  | .node _ children => children

/-- Lines behind one margin for the first and another for the others. -/
def behindMargin (first others : String) : List String → List String
  | [] => []
  | line :: lines => (first ++ line) :: lines.map (others ++ ·)

section Drawing

variable (lines : (room : Nat) → α → List String)

mutual

/-- The lines of a tree in some columns, where `lines` gives those of a label. The label
stands behind the margin `first`, and whatever is below behind the margin `others`. -/
def draw (room : Nat) (first others : String) : Tree α → List String
  | .node label children =>
    behindMargin first others (lines room label) ++ drawAll (room - 4) others children

/-- The lines of the trees below a label, each tied to it by a guide of four columns. -/
def drawAll (room : Nat) (margin : String) : List (Tree α) → List String
  | [] => []
  | [t] => t.draw room (margin ++ "└── ") (margin ++ "    ")
  | t :: rest =>
    t.draw room (margin ++ "├── ") (margin ++ "│   ") ++ drawAll room margin rest

end

/-- The drawing of a tree in some columns, every line ended. -/
def text (room : Nat) (t : Tree α) : String :=
  String.join ((t.draw lines room "" "").map (· ++ "\n"))

end Drawing

end Tree

end Rulebook.Display
