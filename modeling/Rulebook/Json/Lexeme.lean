import Rulebook.Data.Digits
import Rulebook.Number.Numeral

/-!
Lexemes of JSON text.

`lexemes` splits a text into lexemes, each paired with the text that starts at
it, so that a fault found later can be placed. What is no lexeme becomes one
that carries its fault, and nothing is read after it: whether the fault itself
is reported or the place it stands in is decided by the reader, which knows
what it expected there.
-/

namespace Rulebook.Json

/-- What can be wrong with the form of a text. -/
inductive Fault where
  | byteOrderMark
  | valueExpected
  | extraData
  | nameExpected
  | colonExpected
  | commaExpected
  | unterminatedString
  | controlCharacter
  | badEscape
  | badUnicodeEscape
deriving DecidableEq

/-- The wording of a fault. -/
def Fault.message : Fault → String
  | .byteOrderMark => "Unexpected UTF-8 BOM (decode using utf-8-sig)"
  | .valueExpected => "Expecting value"
  | .extraData => "Extra data"
  | .nameExpected => "Expecting property name enclosed in double quotes"
  | .colonExpected => "Expecting ':' delimiter"
  | .commaExpected => "Expecting ',' delimiter"
  | .unterminatedString => "Unterminated string starting at"
  | .controlCharacter => "Invalid control character at"
  | .badEscape => "Invalid \\escape"
  | .badUnicodeEscape => "Invalid \\uXXXX escape"

/-- Why no value can be read at some place. -/
inductive Obstacle where
  /-- A fault in the text that starts with the given characters. -/
  | fault (fault : Fault) (rest : List Char)
  /-- An integer of more digits than are converted. -/
  | tooManyDigits (count : Nat)
deriving DecidableEq

/-- A lexeme: a mark, a string, a complete scalar value, or an obstacle. -/
inductive Lexeme where
  | arrayOpen
  | arrayClose
  | objectOpen
  | objectClose
  | comma
  | colon
  | string (s : String)
  | scalar (value : Data)
  | obstacle (cause : Obstacle)

/-! ### Strings -/

/-- The value of a hexadecimal digit. -/
def hexValue? (c : Char) : Option Nat :=
  if '0' ≤ c ∧ c ≤ '9' then some (c.toNat - '0'.toNat)
  else if 'a' ≤ c ∧ c ≤ 'f' then some (c.toNat - 'a'.toNat + 10)
  else if 'A' ≤ c ∧ c ≤ 'F' then some (c.toNat - 'A'.toNat + 10)
  else none

/-- The unit that four hexadecimal digits name. -/
def unit? (a b c d : Char) : Option Nat := do
  let a ← hexValue? a
  let b ← hexValue? b
  let c ← hexValue? c
  let d ← hexValue? d
  pure (((a * 16 + b) * 16 + c) * 16 + d)

/-- The first unit of a surrogate pair. -/
def isHighUnit (unit : Nat) : Bool := 0xD800 ≤ unit && unit < 0xDC00

/-- The second unit of a surrogate pair. -/
def isLowUnit (unit : Nat) : Bool := 0xDC00 ≤ unit && unit < 0xE000

/-- The character of a surrogate pair. -/
def joinUnits (high low : Nat) : Char :=
  Char.ofNat (0x10000 + (high - 0xD800) * 0x400 + (low - 0xDC00))

/-- The character of a unit on its own; half a surrogate pair has none and
becomes the replacement character. -/
def unitChar (unit : Nat) : Char :=
  if isHighUnit unit || isLowUnit unit then '\ufffd' else Char.ofNat unit

/-- The character of a one-letter escape. -/
def simpleEscape? : Char → Option Char
  | '"' => some '"'
  | '\\' => some '\\'
  | '/' => some '/'
  | 'b' => some '\x08'
  | 'f' => some '\x0c'
  | 'n' => some '\n'
  | 'r' => some '\r'
  | 't' => some '\t'
  | _ => none

/-- The second half of a surrogate pair, escaped at the front of a text that
goes on after it. -/
def escapedLowUnit? : List Char → Option Nat
  | '\\' :: 'u' :: a :: b :: c :: d :: _ :: _ => (unit? a b c d).filter isLowUnit
  | _ => none

/-- The character that a unicode escape names, and how many characters it takes
after the backslash. `cs` follows the `u` and must go on after the four digits;
two escapes that make a surrogate pair are one character. -/
def scanUnicodeEscape (cs : List Char) : Except Obstacle (Char × Nat) :=
  match cs with
  | a :: b :: c :: d :: e :: rest =>
    match unit? a b c d with
    | none => .error (.fault .badUnicodeEscape ('u' :: cs))
    | some unit =>
      match if isHighUnit unit then escapedLowUnit? (e :: rest) else none with
      | some low => .ok (joinUnits unit low, 11)
      | none => .ok (unitChar unit, 5)
  | _ => .error (.fault .badUnicodeEscape ('u' :: cs))

/-- The character that an escape stands for, and how many characters it takes
after the backslash. `opening` starts with the quote that opened the string and
`cs` follows the backslash. -/
def scanEscape (opening cs : List Char) : Except Obstacle (Char × Nat) :=
  match cs with
  | [] => .error (.fault .unterminatedString opening)
  | 'u' :: rest => scanUnicodeEscape rest
  | c :: _ =>
    match simpleEscape? c with
    | some decoded => .ok (decoded, 1)
    | none => .error (.fault .badEscape ('\\' :: cs))

/-- The characters of a string up to its closing quote, and the rest. `skip`
characters belong to an escape that is read already, and `read` holds the
characters so far, latest first. -/
def scanString (opening : List Char) :
    (skip : Nat) → (read : List Char) → List Char → Except Obstacle (String × List Char)
  | _, _, [] => .error (.fault .unterminatedString opening)
  | skip + 1, read, _ :: rest => scanString opening skip read rest
  | 0, read, c :: rest =>
    if c = '"' then .ok (String.ofList read.reverse, rest)
    else if c = '\\' then
      match scanEscape opening rest with
      | .ok (decoded, width) => scanString opening width (decoded :: read) rest
      | .error cause => .error cause
    else if c.toNat < 0x20 then .error (.fault .controlCharacter (c :: rest))
    else scanString opening 0 (c :: read) rest

/-! ### Scalars -/

/-- The words that stand for values. -/
def words : List (List Char × Data) :=
  [("null".toList, .null), ("true".toList, .bool true), ("false".toList, .bool false),
    ("NaN".toList, .float .nan), ("Infinity".toList, .float (.infinite false)),
    ("-Infinity".toList, .float (.infinite true))]

/-- The word at the front of a text, and the rest. -/
def scanWord? (cs : List Char) : Option (Data × List Char) :=
  words.findSome? fun (word, value) =>
    if word.isPrefixOf cs then some (value, cs.drop word.length) else none

/-- The value of a numeral: an exact integer if it has neither a point nor an
exponent. -/
def numeralLexeme (n : Numeral) : Lexeme :=
  if n.isInteger then
    if Data.maxDigits < n.whole.length then .obstacle (.tooManyDigits n.whole.length)
    else .scalar (.int n.toInt)
  else .scalar (.float n.toNumber)

/-- The word or number at the front of a text, and the rest. -/
def scanScalar (cs : List Char) : Lexeme × List Char :=
  match scanWord? cs with
  | some (value, rest) => (.scalar value, rest)
  | none =>
    match Numeral.scan? cs with
    | some (n, rest) => (numeralLexeme n, rest)
    | none => (.obstacle (.fault .valueExpected cs), [])

/-! ### Texts -/

/-- The characters between lexemes. -/
def isBlank (c : Char) : Bool :=
  c == ' ' || c == '\t' || c == '\n' || c == '\r'

/-- The lexeme at the front of a text that starts with no blank, and the rest,
which is empty after an obstacle. -/
def scanLexeme (cs : List Char) : Lexeme × List Char :=
  match cs with
  | '[' :: rest => (.arrayOpen, rest)
  | ']' :: rest => (.arrayClose, rest)
  | '\x7b' :: rest => (.objectOpen, rest)
  | '\x7d' :: rest => (.objectClose, rest)
  | ',' :: rest => (.comma, rest)
  | ':' :: rest => (.colon, rest)
  | '"' :: rest =>
    match scanString cs 0 [] rest with
    | .ok (s, rest) => (.string s, rest)
    | .error cause => (.obstacle cause, [])
  | _ => scanScalar cs

/-- The lexemes of a text, at most `bound` of them with the blanks between, each
with the text that starts at it. -/
def lexemesUpTo : (bound : Nat) → List Char → List (Lexeme × List Char)
  | 0, _ => []
  | _, [] => []
  | bound + 1, c :: rest =>
    if isBlank c then lexemesUpTo bound rest
    else
      let (lexeme, after) := scanLexeme (c :: rest)
      (lexeme, c :: rest) :: lexemesUpTo bound after

/-- The lexemes of a text. Each one takes a character at least, so the length of
the text bounds their count. -/
def lexemes (cs : List Char) : List (Lexeme × List Char) :=
  lexemesUpTo cs.length cs

end Rulebook.Json
