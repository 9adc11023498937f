import Rulebook.Text.Blank
import Rulebook.Text.Width

/-!
Wrapping: a text in lines that fit into some columns.

Lines are broken between words, and blanks stand for tabulators. A word that is wider
than a line is folded, or it keeps its line and is cut off. `wrapped` gives the lines;
`greatestWidth` is what a text asks for to stay as it is.
-/

namespace Rulebook.Text

/-- What is done with a word that is wider than a line. -/
inductive Overflow where
  /-- It goes on in the next line. -/
  | fold
  /-- It is cut off, and an ellipsis stands for the rest. -/
  | cut
deriving DecidableEq

/-! ### Lines -/

/-- The lines of a text, ended by line feeds. -/
def linesOf : List Char → List (List Char)
  | [] => [[]]
  | c :: rest =>
    if c = '\n' then [] :: linesOf rest
    else
      match linesOf rest with
      | [] => [[c]]
      | line :: lines => (c :: line) :: lines

/-- The characters that end a line where texts are measured. -/
def endsLine (c : Char) : Bool :=
  let n := c.toNat
  (0xa ≤ n && n ≤ 0xd) || (0x1c ≤ n && n ≤ 0x1e) || n == 0x85 || n == 0x2028 || n == 0x2029

/-- The greatest width of a line, the characters in `line` standing in reverse in front
of the others. -/
def greatestFrom (line : List Char) : List Char → Nat
  | [] => width line.reverse
  | c :: rest =>
    if endsLine c then max (width line.reverse) (greatestFrom [] rest)
    else greatestFrom (c :: line) rest

/-- The greatest width of a line of a text. -/
def greatestWidth (cs : List Char) : Nat := greatestFrom [] cs

/-- Blanks for the tabulators in a line: each leads to the next column that is a
multiple of eight. What stands since the last one, which led to `column`, is in
`part` in reverse. -/
def expandFrom (column : Nat) (part : List Char) : List Char → List Char
  | [] => part.reverse
  | c :: rest =>
    if c = '\t' then
      let reached := column + width (' ' :: part).reverse
      let missing := (8 - reached % 8) % 8
      (' ' :: part).reverse ++ (List.replicate missing ' '
        ++ expandFrom (reached + missing) [] rest)
    else expandFrom column (c :: part) rest

/-- A line with blanks for its tabulators. -/
def expandTabs (line : List Char) : List Char := expandFrom 0 [] line

/-! ### Words -/

/-- Where in a word a reader stands. -/
inductive WordPlace where
  | before
  | inside
  | behind
deriving DecidableEq

/-- The words of a line, each with the blanks behind it, and the first one with those
in front of it. What was read of a word is in `word` in reverse. -/
def wordsFrom (word : List Char) : WordPlace → List Char → List (List Char)
  | .before, [] => []
  | _, [] => [word.reverse]
  | place, c :: rest =>
    if isBlank c then
      wordsFrom (c :: word) (if place = .before then .before else .behind) rest
    else if place = .behind then word.reverse :: wordsFrom [c] .inside rest
    else wordsFrom (c :: word) .inside rest

/-- The words of a line; blanks alone are none. -/
def wordsOf (line : List Char) : List (List Char) := wordsFrom [] .before line

/-- A text without the blanks at its end. -/
def stripEnd (cs : List Char) : List Char := (cs.reverse.dropWhile isBlank).reverse

/-! ### Breaks -/

/-- Clusters in pieces that fit, `taken` being the columns of the open piece. A piece
without columns at the end is none. -/
def foldFrom (room : Nat) (taken : Nat) (piece : List Char) : List Cluster → List (List Char)
  | [] => if taken = 0 then [] else [piece]
  | cluster :: rest =>
    if room < taken + cluster.width then piece :: foldFrom room cluster.width cluster.chars rest
    else foldFrom room (taken + cluster.width) (piece ++ cluster.chars) rest

/-- A word in pieces that fit into some columns. -/
def folded (room : Nat) (word : List Char) : List (List Char) :=
  foldFrom room 0 [] (clusters word)

/-- A break in front of a place, which none is at the start of a line. -/
def breakAt (place : Nat) : List Nat := if place = 0 then [] else [place]

/-- The breaks in front of pieces, the first of which starts at a place. -/
def breaksOf : (place : Nat) → List (List Char) → List Nat
  | _, [] => []
  | place, piece :: rest => breakAt place ++ breaksOf (place + piece.length) rest

/-- The breaks in a line of words. The first word starts at a place, and some columns
are taken in front of it since the last break. -/
def breaksFrom (room : Nat) (overflow : Overflow) :
    (place taken : Nat) → List (List Char) → List Nat
  | _, _, [] => []
  | place, taken, word :: rest =>
    let next := place + word.length
    let needed := width (stripEnd word)
    if taken + needed ≤ room then breaksFrom room overflow next (taken + width word) rest
    else if room < needed ∧ overflow = .fold then
      let pieces := folded room word
      breaksOf place pieces
        ++ breaksFrom room overflow next (width (pieces.getLast?.getD [])) rest
    else breakAt place ++ breaksFrom room overflow next (width word) rest

/-- A line cut at places counted from `place` on. -/
def splitAt : (place : Nat) → List Nat → List Char → List (List Char)
  | _, [], line => [line]
  | place, stop :: stops, line =>
    line.take (stop - place) :: splitAt stop stops (line.drop (stop - place))

/-! ### Wrapping -/

/-- A line without blanks at its end that make it longer than `room` characters. -/
def trimmed (room : Nat) (line : List Char) : List Char :=
  let blanks := line.length - (stripEnd line).length
  line.take (line.length - min blanks (line.length - room))

/-- A line that fits into some columns; what does not fit is cut off. -/
def fitted (room : Nat) (overflow : Overflow) (line : List Char) : List Char :=
  if width line ≤ room then line
  else
    match overflow with
    | .fold => cut room line
    | .cut => cut (room - 1) line ++ ['…']

/-- A line in lines that fit into some columns. -/
def wrapLine (room : Nat) (overflow : Overflow) (line : List Char) : List (List Char) :=
  let line := expandTabs line
  (splitAt 0 (breaksFrom room overflow 0 0 (wordsOf line)) line).map fun piece =>
    fitted room overflow (trimmed room piece)

/-- A text in lines that fit into some columns. -/
def wrapped (room : Nat) (overflow : Overflow) (cs : List Char) : List (List Char) :=
  (linesOf cs).flatMap (wrapLine room overflow)

end Rulebook.Text
