/-!
Line ends: a line feed, or a carriage return with or without one.
-/

namespace Rulebook.Text

/-- Every line end as a line feed, a carriage return counting as one. -/
def unifyLineEnds : List Char → List Char
  | [] => []
  | '\r' :: '\n' :: rest => '\n' :: unifyLineEnds rest
  | c :: rest => (if c = '\r' then '\n' else c) :: unifyLineEnds rest

/-- Every pair of a carriage return and a line feed as a line feed. -/
def joinLineEnds : List Char → List Char
  | [] => []
  | '\r' :: '\n' :: rest => '\n' :: joinLineEnds rest
  | c :: rest => c :: joinLineEnds rest

end Rulebook.Text
