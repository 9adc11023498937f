/-!
Places in a text, for messages.
-/

namespace Rulebook.Text

/-- A place in a text: characters before it, and its line and column, both
counted from one. Only a line feed starts a new line. -/
structure Place where
  offset : Nat
  line : Nat
  column : Nat
deriving DecidableEq

namespace Place

/-- The place behind a text. -/
def behind (cs : List Char) : Place :=
  ⟨cs.length, cs.count '\n' + 1, (cs.reverse.takeWhile (· != '\n')).length + 1⟩

/-- The place where the end `rest` of a text starts. -/
def ofRest (cs rest : List Char) : Place := behind (cs.take (cs.length - rest.length))

end Place

end Rulebook.Text
