import Rulebook.Display.Label
import Rulebook.Text.Wrapping

/-!
Texts, trees and results as they are shown in some columns.

Results are a table of two columns, each as wide as its widest line asks for, unless
the table would be too wide: then the wider column gives way, and both do once they
are equal.
-/

namespace Rulebook.Display

/-! ### Lines -/

/-- The lines that show a text with markup in some columns; in none, there are no
lines. -/
def shownLines (room : Nat) (s : String) : List String :=
  if room = 0 then []
  else (Text.wrapped room .fold (Markup.plain s)).map String.ofList

/-- A text with markup as it is shown in some columns, every line ended. -/
def shown (room : Nat) (s : String) : String :=
  String.join ((shownLines room s).map (· ++ "\n"))

/-- A label tree as it is drawn in some columns. -/
def drawing (room : Nat) (t : Tree Label) : String :=
  t.text (fun room label => shownLines room label.markup) room

/-! ### Cells -/

/-- Characters followed by blanks up to a width. -/
def padded (width : Nat) (cs : List Char) : List Char :=
  cs ++ List.replicate (width - Text.width cs) ' '

/-- The lines of a cell, which is cut off where it is too wide. -/
def cellLines (width : Nat) (s : String) : List (List Char) :=
  Text.wrapped width .cut (Markup.plain s)

/-- The width that a cell asks for. -/
def cellWidth (s : String) : Nat := Text.greatestWidth (Markup.plain s)

/-! ### Rows -/

/-- A character many times. -/
def bar (c : Char) (width : Nat) : String :=
  String.ofList (List.replicate width c)

/-- A horizontal rule: two bars, each wider than its column by a blank at each
side, between a left end, a joint and a right end. -/
def rule (left line joint right : Char) (widths : Nat × Nat) : String :=
  String.singleton left ++ bar line (widths.1 + 2) ++ String.singleton joint
    ++ bar line (widths.2 + 2) ++ String.singleton right ++ "\n"

/-- One line of two cells between edges. The blanks behind the left one are measured
with it, and more are put where a joiner takes one of them. -/
def cellLine (edge : String) (widths : Nat × Nat) (left right : List Char) : String :=
  edge ++ " " ++ String.ofList (padded widths.1 (padded widths.1 left)) ++ " " ++ edge
    ++ " " ++ String.ofList (padded widths.2 right) ++ " " ++ edge ++ "\n"

/-- A row of two cells: as many lines as its higher cell has. -/
def row (edge : String) (widths : Nat × Nat) (cells : String × String) : String :=
  let left := cellLines widths.1 cells.1
  let right := cellLines widths.2 cells.2
  String.join ((List.range (max left.length right.length)).map fun i =>
    cellLine edge widths (left.getD i []) (right.getD i []))

/-! ### Tables -/

/-- Half of a number; a half between two numbers goes to the even one. -/
def half (n : Nat) : Nat := if n % 4 = 3 then n / 2 + 1 else n / 2

/-- Two widths that together are too great by some columns, made smaller: first the
greater one, until they are equal, and then both. -/
def lessened (excess : Nat) (widths : Nat × Nat) : Nat × Nat :=
  let (left, right) := widths
  let smaller := min left right
  let rest := excess - (max left right - smaller)
  if rest = 0 then
    if left ≤ right then (left, right - excess) else (left - excess, right)
  else (smaller - half rest, smaller - (rest - half rest))

/-- The columns that edges and blanks of a table take. -/
def frameWidth : Nat := 7

/-- The widths of two columns of a table that fits into some columns. -/
def columnWidths (room : Nat) (left right : Nat) : Nat × Nat :=
  let left := min left (room - 5)
  let right := min right (room - 5)
  lessened (left + right + frameWidth - room) (left, right)

/-- A table of two columns under their names. -/
def table (room : Nat) (header : String × String) (rows : List (String × String)) : String :=
  let cells := header :: rows
  let widest (texts : List String) : Nat := (texts.map cellWidth).foldl max 0
  let widths := columnWidths room (widest (cells.map (·.1))) (widest (cells.map (·.2)))
  rule '┏' '━' '┳' '┓' widths ++ row "┃" widths header ++ rule '┡' '━' '╇' '┩' widths
    ++ String.join (rows.map (row "│" widths)) ++ rule '└' '─' '┴' '┘' widths

/-- The results of a scope, with their values. -/
def results (room : Nat) (values : List (String × Expr)) : String :=
  match values with
  | [] => "No outputs resolved\n"
  | _ =>
    table room ("Output", "Value")
      (values.map fun (name, e) => (Markup.escape name, e.summary))

/-- A line framed over a total width, with a title in the upper edge. -/
def framed (width : Nat) (title line : String) : String :=
  let free := width - 4 - title.length
  let before := free / 2
  "╭" ++ bar '─' before ++ " " ++ title ++ " " ++ bar '─' (free - before) ++ "╮\n"
    ++ "│ " ++ String.ofList (padded (width - 4) line.toList) ++ " │\n"
    ++ "╰" ++ bar '─' (width - 2) ++ "╯\n"

end Rulebook.Display
