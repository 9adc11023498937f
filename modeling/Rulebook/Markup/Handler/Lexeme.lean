import Rulebook.Text.LineEnd
import Rulebook.Text.Printable
import Rulebook.Text.WordCharacter

/-!
Lexemes of handler parameters: names, numerals, quoted texts and signs.

Brackets have to match. A line ends a text only outside them, and what stands behind a
number sign up to the end of a line is no part of it. Two faults count only where a
reader gets to them: an end inside a bracket, and a backslash.
-/

namespace Rulebook.Markup.Handler

/-! ### Faults -/

/-- What is wrong with the characters of a text. -/
inductive LexicalFault where
  /-- The text ends inside a bracket. -/
  | neverClosed (bracket : Char)
  /-- A quoted text does not end; a long one has three quotes on each side. -/
  | unterminated (isLong : Bool) (line : Nat)
  | unmatched (bracket : Char)
  /-- A bracket closes one of another shape; the line is given if it is another one. -/
  | mismatched (closing opening : Char) (line : Option Nat)
  | tooManyBrackets
  | badNumeral (kind : String)
  | badDigit (digit : Char) (kind : String)
  | leadingZeros
  | badCharacter (c : Char)
  | loneBackslash
deriving DecidableEq

/-- Hexadecimal digits of a code point, four at least. -/
def codePointText (c : Char) : String :=
  let digits := (Nat.toDigits 16 c.toNat).map Char.toUpper
  String.ofList (List.replicate (4 - digits.length) '0' ++ digits)

/-- The wording of a fault. -/
def LexicalFault.message : LexicalFault → String
  | .neverClosed bracket => s!"'{bracket}' was never closed"
  | .unterminated true line =>
    s!"unterminated triple-quoted string literal (detected at line {line})"
  | .unterminated false line => s!"unterminated string literal (detected at line {line})"
  | .unmatched bracket => s!"unmatched '{bracket}'"
  | .mismatched closing opening line =>
    let place := match line with
      | some line => s!" on line {line}"
      | none => ""
    s!"closing parenthesis '{closing}' does not match opening parenthesis '{opening}'" ++ place
  | .tooManyBrackets => "too many nested parentheses"
  | .badNumeral kind => s!"invalid {kind} literal"
  | .badDigit digit kind => s!"invalid digit '{digit}' in {kind} literal"
  | .leadingZeros =>
    "leading zeros in decimal integer literals are not permitted; " ++
      "use an 0o prefix for octal integers"
  | .badCharacter c =>
    if Text.isPrintable c then s!"invalid character '{c}' (U+{codePointText c})"
    else s!"invalid non-printable character U+{codePointText c}"
  | .loneBackslash => "unexpected character after line continuation character"

/-! ### Tokens -/

/-- What a quoted text is made of. -/
inductive TextKind where
  | characters
  | octets
  /-- Characters with expressions between them. -/
  | formatted
deriving DecidableEq

/-- A token. -/
inductive Token where
  | name (word : String)
  | number (isImaginary : Bool)
  | text (kind : TextKind) (isAscii : Bool)
  | sign (text : String)
  /-- A new line outside brackets. -/
  | line
  /-- Where no more tokens can be told apart, which is a fault where one is needed. -/
  | stop (fault : LexicalFault)
deriving DecidableEq

/-! ### Numerals -/

/-- Whether a character belongs to a word in ASCII. -/
def joinsPlainWord (c : Char) : Bool := c.isAlphanum || c == '_'

/-- Whether a character belongs to a word, be it in a name or not. -/
def joinsWord (c : Char) : Bool := joinsPlainWord c || decide (0x80 ≤ c.toNat)

/-- Words that may follow a numeral without a blank. -/
def wordsBehindNumeral : List String := ["and", "else", "for", "or", "not"]

/-- Beginnings of words that may follow a numeral without a blank. -/
def beginningsBehindNumeral : List String := ["if", "in", "is"]

/-- The text behind a numeral, which no word in ASCII may follow but a few. -/
def endNumeral (kind : String) (rest : List Char) : Except LexicalFault (List Char) :=
  if wordsBehindNumeral.contains (String.ofList (rest.takeWhile joinsWord))
      ∨ beginningsBehindNumeral.any (·.toList.isPrefixOf rest) then .ok rest
  else if rest.head?.any joinsPlainWord then .error (.badNumeral kind)
  else .ok rest

/-- The text behind further digits, with single underscores between them; or the text
behind an underscore that no digit follows. -/
def behindDigits (isDigit : Char → Bool) : List Char → Except (List Char) (List Char)
  | [] => .ok []
  | ['_'] => .error []
  | '_' :: d :: rest =>
    if isDigit d then behindDigits isDigit rest else .error (d :: rest)
  | d :: rest => if isDigit d then behindDigits isDigit rest else .ok (d :: rest)

/-- The text behind digits, of which there is one at least. -/
def digitsFrom (isDigit : Char → Bool) : List Char → Except (List Char) (List Char)
  | [] => .error []
  | d :: rest => if isDigit d then behindDigits isDigit rest else .error (d :: rest)

/-- The text behind the digits of a numeral to another base than ten. -/
def radixNumeral (kind : String) (isDigit : Char → Bool) (cs : List Char) :
    Except LexicalFault (List Char) :=
  let cs := match cs with
    | '_' :: rest => rest
    | cs => cs
  match digitsFrom isDigit cs with
  | .ok rest =>
    match rest.head? with
    | some d => if d.isDigit then .error (.badDigit d kind) else endNumeral kind rest
    | none => .ok rest
  | .error rest =>
    match rest.head? with
    | some d => .error (if d.isDigit then .badDigit d kind else .badNumeral kind)
    | none => .error (.badNumeral kind)

/-- Decimal digits, of which there is one at least. -/
def decimalsFrom (cs : List Char) : Except LexicalFault (List Char) :=
  (digitsFrom Char.isDigit cs).mapError fun _ => .badNumeral "decimal"

/-- The end of a decimal numeral, and whether it is imaginary. -/
def numeralEnd (cs : List Char) : Except LexicalFault (Bool × List Char) :=
  match cs with
  | c :: rest =>
    if c = 'j' ∨ c = 'J' then (endNumeral "imaginary" rest).map (true, ·)
    else (endNumeral "decimal" cs).map (false, ·)
  | [] => .ok (false, [])

/-- An exponent, if there is one, and the end of a decimal numeral. -/
def exponentEnd (cs : List Char) : Except LexicalFault (Bool × List Char) :=
  match cs with
  | e :: rest =>
    if e = 'e' ∨ e = 'E' then
      let digits := match rest with
        | s :: digits => if s = '+' ∨ s = '-' then digits else rest
        | [] => rest
      if digits.head?.any Char.isDigit then decimalsFrom digits >>= numeralEnd
      else if digits.length < rest.length then .error (.badNumeral "decimal")
      else (endNumeral "decimal" cs).map (false, ·)
    else numeralEnd cs
  | [] => .ok (false, [])

/-- A fraction behind its point, which may have no digits, and what follows it. -/
def fractionEnd (cs : List Char) : Except LexicalFault (Bool × List Char) :=
  if cs.head?.any Char.isDigit then decimalsFrom cs >>= exponentEnd else exponentEnd cs

/-- What follows the whole part of a decimal numeral. -/
def wholeEnd (cs : List Char) : Except LexicalFault (Bool × List Char) :=
  match cs with
  | '.' :: rest => fractionEnd rest
  | cs => exponentEnd cs

/-- A decimal numeral behind its first digit, a zero. More digits but zeros may follow
only where a fraction, an exponent or an imaginary unit does. -/
def zeroNumeral (cs : List Char) : Except LexicalFault (Bool × List Char) :=
  match behindDigits Char.isDigit cs with
  | .error _ => .error (.badNumeral "decimal")
  | .ok rest =>
    let digits := cs.take (cs.length - rest.length)
    if digits.all (fun d => d == '0' || d == '_')
        ∨ rest.head?.any (".eEjJ".toList.contains ·) then wholeEnd rest
    else .error .leadingZeros

/-- A numeral, whether it is imaginary, and the text behind it. -/
def numeral (cs : List Char) : Except LexicalFault (Bool × List Char) :=
  match cs with
  | '0' :: c :: rest =>
    if c = 'x' ∨ c = 'X' then
      (radixNumeral "hexadecimal" (fun d => (Char.toUpper d).isDigit
        || ('A' ≤ Char.toUpper d && Char.toUpper d ≤ 'F')) rest).map (false, ·)
    else if c = 'o' ∨ c = 'O' then
      (radixNumeral "octal" (fun d => '0' ≤ d && d ≤ '7') rest).map (false, ·)
    else if c = 'b' ∨ c = 'B' then
      (radixNumeral "binary" (fun d => d == '0' || d == '1') rest).map (false, ·)
    else zeroNumeral (c :: rest)
  | cs => decimalsFrom cs >>= wholeEnd

/-! ### Quoted texts -/

/-- The text behind a quoted one and the line it ends on. A backslash keeps the
character behind it from ending the quoted text. -/
def behindText (quote : Char) (isLong : Bool) :
    (line : Nat) → List Char → Except LexicalFault (List Char × Nat)
  | line, [] => .error (.unterminated isLong line)
  | line, ['\\'] => .error (.unterminated isLong line)
  | line, '\\' :: c :: rest =>
    behindText quote isLong (if c = '\n' then line + 1 else line) rest
  | line, c :: rest =>
    if c = '\n' then
      if isLong then behindText quote isLong (line + 1) rest
      else .error (.unterminated isLong line)
    else if c = quote then
      if !isLong then .ok (rest, line)
      else if [quote, quote].isPrefixOf rest then .ok (rest.drop 2, line)
      else behindText quote isLong line rest
    else behindText quote isLong line rest

/-- A quoted text behind its first quote, the text behind it, and the line it ends
on. -/
def quotedText (kind : TextKind) (quote : Char) (line : Nat) (cs : List Char) :
    Except LexicalFault (Token × List Char × Nat) := do
  let isLong := [quote, quote].isPrefixOf cs
  let inside := if isLong then cs.drop 2 else cs
  let (rest, line) ← behindText quote isLong line inside
  let written := inside.take (inside.length - rest.length)
  pure (.text kind (written.all fun c => decide (c.toNat < 0x80)), rest, line)

/-- The kind of text that a word in front of a quote asks for. -/
def kindOf? (word : List Char) : Option TextKind :=
  let word := String.ofList (word.map Char.toLower)
  if word = "r" ∨ word = "u" then some .characters
  else if word = "b" ∨ word = "br" ∨ word = "rb" then some .octets
  else if word = "f" ∨ word = "fr" ∨ word = "rf" then some .formatted
  else none

/-! ### Words and signs -/

/-- The first character of a word that cannot stand where it does in a name. -/
def strayIn? : List Char → Option Char
  | [] => none
  | c :: rest =>
    if Text.startsName c then rest.find? (!Text.continuesName ·) else some c

/-- The signs of several characters, the longest first. -/
def longSigns : List String :=
  [
    "**=", "//=", "<<=", ">>=", "...", "**", "//", "<<", ">>", "<=", ">=", "==", "!=",
    "<>", "->", "+=", "-=", "*=", "/=", "%=", "&=", "|=", "^=", "@=", ":="
  ]

/-- A sign, the longest at the front of a text that starts with `c`. -/
def signFrom (c : Char) (cs : List Char) : String :=
  (longSigns.find? (·.toList.isPrefixOf cs)).getD (String.singleton c)

/-- Whether a character is a quote. -/
def isQuote (c : Char) : Bool := c == '\'' || c == '"'

/-- Brackets that open, each with the one that closes it. -/
def brackets : List (Char × Char) := [('(', ')'), ('[', ']'), ('\x7b', '\x7d')]

/-- The greatest number of brackets inside one another. -/
def maxBrackets : Nat := 200

/-- The brackets left open, each with its line, behind a sign on a line. -/
def openBehind (opened : List (Char × Nat)) (line : Nat) (sign : Char) :
    Except LexicalFault (List (Char × Nat)) :=
  if brackets.any (·.1 == sign) then
    if opened.length < maxBrackets then .ok ((sign, line) :: opened)
    else .error .tooManyBrackets
  else if brackets.any (·.2 == sign) then
    match opened with
    | [] => .error (.unmatched sign)
    | (opening, start) :: outer =>
      if brackets.contains (opening, sign) then .ok outer
      else .error (.mismatched sign opening (if start = line then none else some start))
  else .ok opened

/-! ### Tokens of a text -/

/-- A word at the front of a text: the front of a quoted text, or a name. -/
def wordToken (line : Nat) (cs : List Char) : Except LexicalFault (Token × List Char × Nat) :=
  let word := cs.takeWhile joinsWord
  let rest := cs.dropWhile joinsWord
  match kindOf? word, rest with
  | some kind, quote :: inside =>
    if isQuote quote then quotedText kind quote line inside
    else .ok (.name (String.ofList word), rest, line)
  | _, _ =>
    match strayIn? word with
    | some c => .error (.badCharacter c)
    | none => .ok (.name (String.ofList word), rest, line)

/-- The token at the front of a text that starts with `c`, the text behind it, and the
line it ends on. -/
def tokenFrom (line : Nat) (c : Char) (rest : List Char) :
    Except LexicalFault (Token × List Char × Nat) :=
  let cs := c :: rest
  if c.isDigit then
    (numeral cs).map fun (isImaginary, rest) => (.number isImaginary, rest, line)
  else if c = '.' ∧ rest.head?.any Char.isDigit then
    (fractionEnd rest).map fun (isImaginary, rest) => (.number isImaginary, rest, line)
  else if joinsWord c then wordToken line cs
  else if isQuote c then quotedText .characters c line rest
  else if Text.isPrintable c then
    let sign := signFrom c cs
    .ok (.sign sign, cs.drop sign.length, line)
  else .error (.badCharacter c)

/-- The tokens of a text of at most `fuel` characters, behind open brackets. -/
def tokensFrom : (fuel line : Nat) → (opened : List (Char × Nat)) → List Char →
    Except LexicalFault (List Token)
  | 0, _, _, _ => .ok []
  | _, _, [], [] => .ok []
  | _, _, (bracket, _) :: _, [] => .ok [.stop (.neverClosed bracket)]
  | fuel + 1, line, opened, c :: rest =>
    if c = ' ' ∨ c = '\t' ∨ c = '\x0c' then tokensFrom fuel line opened rest
    else if c = '#' then tokensFrom fuel line opened (rest.dropWhile (· != '\n'))
    else if c = '\n' then do
      let others ← tokensFrom fuel (line + 1) opened rest
      pure (if opened.isEmpty then .line :: others else others)
    else if c = '\\' then
      match rest with
      | '\n' :: rest => tokensFrom fuel (line + 1) opened rest
      | _ => .ok [.stop .loneBackslash]
    else do
      let (token, behind, end_) ← tokenFrom line c rest
      let opened ← match token with
        | .sign _ => openBehind opened line c
        | _ => pure opened
      let others ← tokensFrom fuel end_ opened behind
      pure (token :: others)

/-- The tokens of a text. New lines in front and at the end are none. -/
def tokens (cs : List Char) : Except LexicalFault (List Token) := do
  let all ← tokensFrom (cs.length + 1) 1 [] (Text.unifyLineEnds cs)
  pure ((all.dropWhile (· = .line)).reverse.dropWhile (· = .line)).reverse

end Rulebook.Markup.Handler
