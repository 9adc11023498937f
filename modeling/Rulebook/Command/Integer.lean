import Rulebook.Data.Digits
import Rulebook.Text.Blank

/-!
Integers as values of switches.

Blanks around an integer say nothing, nor does a plus sign, nor do zeros in front of
its digits, nor a fraction of zeros behind them. Single underscores may stand between
digits, and any number of them among the zeros in front.
-/

namespace Rulebook.Command

/-- What stands behind a plus sign, which no minus sign follows. -/
def behindPlus? : List Char → Option (List Char)
  | '+' :: '-' :: _ => none
  | '+' :: rest => some rest
  | cs => some cs

/-- The text behind a zero without further zeros, and underscores among them. A zero is
left in front of a point, and the last character is left at the end. -/
def withoutZeros? (last : Char) : List Char → Option (List Char)
  | [] => some [last]
  | c :: rest =>
    if c = '0' ∨ c = '_' then withoutZeros? c rest
    else if c.isDigit ∨ c = '-' then some (c :: rest)
    else if c = '.' then some (last :: c :: rest)
    else none

/-- The text of an integer without zeros in front of its digits. -/
def trimZeros? : List Char → Option (List Char)
  | [] => none
  | c :: rest =>
    if c = '0' then withoutZeros? c rest
    else if c.isDigit ∨ c = '-' then some (c :: rest)
    else none

/-- A text without a fraction of zeros at its end. -/
def trimFraction (cs : List Char) : List Char :=
  match cs.dropWhile (· != '.') with
  | _ :: zeros =>
    if !zeros.isEmpty ∧ zeros.all (· == '0') then cs.takeWhile (· != '.') else cs
  | [] => cs

/-- Whether two underscores stand side by side. -/
def hasDoubleUnderscore : List Char → Bool
  | '_' :: '_' :: _ => true
  | _ :: rest => hasDoubleUnderscore rest
  | [] => false

/-- A text without its underscores, which may not stand at an end or side by side. -/
def trimUnderscores? (cs : List Char) : Option (List Char) :=
  if cs.head? = some '_' ∨ cs.getLast? = some '_' ∨ hasDoubleUnderscore cs then none
  else some (cs.filter (· != '_'))

/-- The natural number that plain digits name, none of them a zero in front. -/
def natural? (digits : List Char) : Option Nat :=
  if digits.isEmpty ∨ !digits.all Char.isDigit then none
  else if digits.head? = some '0' ∧ digits.length ≠ 1 then none
  else some (Nat.ofDigitChars 10 digits 0)

/-- The integer that trimmed text names. -/
def signed? (cs : List Char) : Option Int :=
  if Data.maxDigits < cs.length then none
  else
    match cs with
    | '-' :: digits => (natural? digits).map fun n => -(n : Int)
    | digits => (natural? digits).map fun n => (n : Int)

/-- Text without all that says nothing about the integer it names. -/
def trimmed? (cs : List Char) : Option (List Char) := do
  trimUnderscores? (trimFraction (← trimZeros? cs))

/-- The integer that a text names. -/
def integer? (text : String) : Option Int := do
  match ← behindPlus? (Text.strip Text.isNumberBlank text.toList) with
  | '-' :: rest => signed? ('-' :: (← trimmed? rest))
  | cs => signed? (← trimmed? cs)

end Rulebook.Command
