import Rulebook.Data
import Rulebook.Json.Lexeme
import Rulebook.Text.Quoted

/-!
Scalars and keys of TOML: strings of four forms, dates and times, numbers, words, and
dotted keys.

Every reading is of the front of a text and gives the rest with its result. A fault is
met where the rest of the text begins that it comes with.
-/

namespace Rulebook.Toml

/-! ### Faults -/

/-- What can be wrong with a text. -/
inductive Fault where
  | statementExpected
  | lineEndExpected
  /-- A control character where text is taken as it is. -/
  | invalidCharacter (c : Char)
  /-- A control character between double quotes. -/
  | illegalCharacter (c : Char)
  | declaredTwice (key : List String)
  | valueOverwritten
  | immutable (key : List String)
  | redefined (key : List String)
  | tableEndExpected
  | itemEndExpected
  | equalsExpected
  | keyExpected
  | unclosedArray
  | duplicateKey (name : String)
  | unclosedInlineTable
  | unescapedBackslash
  | badHexValue
  | notScalar
  | unterminatedString
  | quotesExpected (multiline : Bool)
  | noSuchMoment
  | valueExpected
deriving DecidableEq

/-- A key as it is shown: the list of its parts, with a comma behind a single one. -/
def keyShown (key : List String) : String :=
  match key with
  | [part] => "(" ++ Text.quoted part ++ ",)"
  | parts => "(" ++ ", ".intercalate (parts.map Text.quoted) ++ ")"

/-- The wording of a fault. -/
def Fault.message : Fault → String
  | .statementExpected => "Invalid statement"
  | .lineEndExpected => "Expected newline or end of document after a statement"
  | .invalidCharacter c => "Found invalid character " ++ Text.quoted c.toString
  | .illegalCharacter c => "Illegal character " ++ Text.quoted c.toString
  | .declaredTwice key => s!"Cannot declare {keyShown key} twice"
  | .valueOverwritten => "Cannot overwrite a value"
  | .immutable key => s!"Cannot mutate immutable namespace {keyShown key}"
  | .redefined key => s!"Cannot redefine namespace {keyShown key}"
  | .tableEndExpected => "Expected ']' at the end of a table declaration"
  | .itemEndExpected => "Expected ']]' at the end of an array declaration"
  | .equalsExpected => "Expected '=' after a key in a key/value pair"
  | .keyExpected => "Invalid initial character for a key part"
  | .unclosedArray => "Unclosed array"
  | .duplicateKey name => "Duplicate inline table key " ++ Text.quoted name
  | .unclosedInlineTable => "Unclosed inline table"
  | .unescapedBackslash => "Unescaped '\\' in a string"
  | .badHexValue => "Invalid hex value"
  | .notScalar => "Escaped character is not a Unicode scalar value"
  | .unterminatedString => "Unterminated string"
  | .quotesExpected multiline => "Expected " ++ Text.quoted (if multiline then "'''" else "'")
  | .noSuchMoment => "Invalid date or datetime"
  | .valueExpected => "Invalid value"

/-- Why a text is not read on. -/
inductive Stop where
  /-- A fault in the text that starts with the given characters. -/
  | fault (fault : Fault) (rest : List Char)
  /-- An integer of more digits than are converted. -/
  | tooManyDigits (count : Nat)
  /-- Arrays and inline tables are nested too deep. -/
  | tooDeep
deriving DecidableEq

/-- A refusal of the text that starts with `rest`. -/
def refuse {α : Type} (fault : Fault) (rest : List Char) : Except Stop α :=
  .error (.fault fault rest)

/-! ### Characters -/

/-- A blank within a line. -/
def isBlank (c : Char) : Bool := c == ' ' || c == '\t'

/-- A control character, which may stand in no string of one line. -/
def isControl (c : Char) : Bool := (c.toNat < 0x20 && c != '\t') || c.toNat == 0x7f

/-- A text without the blanks at its front. -/
def skipBlanks (cs : List Char) : List Char := cs.dropWhile isBlank

/-! ### Strings between double quotes -/

/-- Where a string stands between two characters. -/
inductive StringState where
  | text
  | escape
  /-- So many hexadecimal digits are owed, with their value so far; the first one stood
  where `start` begins. -/
  | digits (start : List Char) (owed : Nat) (value : Nat)
  /-- After a backslash and blanks: a line end is due. -/
  | blanks
  /-- After a backslash and a line end: blanks and line ends are left out. -/
  | gap
deriving DecidableEq

/-- The character of a one-letter escape. -/
def simpleEscape? : Char → Option Char
  | 'b' => some '\x08'
  | 't' => some '\t'
  | 'n' => some '\n'
  | 'f' => some '\x0c'
  | 'r' => some '\r'
  | '"' => some '"'
  | '\\' => some '\\'
  | _ => none

/-- The state after an escape that a character begins, and what the escape stands
for. -/
def afterEscape (multiline : Bool) (c : Char) (rest : List Char) :
    Except Stop (StringState × List Char) :=
  if c = 'u' then .ok (.digits rest 4 0, [])
  else if c = 'U' then .ok (.digits rest 8 0, [])
  else if multiline && isBlank c then .ok (.blanks, [])
  else if multiline && c == '\n' then .ok (.gap, [])
  else
    match simpleEscape? c with
    | some decoded => .ok (.text, [decoded])
    | none => refuse .unescapedBackslash rest

/-- The state after a character of a text, and the character itself. -/
def afterText (multiline : Bool) (c : Char) (rest : List Char) :
    Except Stop (StringState × List Char) :=
  if c = '\\' then .ok (.escape, [])
  else if isControl c && !(multiline && c == '\n') then refuse (.illegalCharacter c) (c :: rest)
  else .ok (.text, [c])

/-- The state after a digit of an escape, and the character once all are read. -/
def afterDigit (start : List Char) (owed value : Nat) (c : Char) (rest : List Char) :
    Except Stop (StringState × List Char) :=
  match Json.hexValue? c with
  | none => refuse .badHexValue start
  | some digit =>
    let value := value * 16 + digit
    if 1 < owed then .ok (.digits start (owed - 1) value, [])
    else if value < 0xd800 ∨ (0xe000 ≤ value ∧ value < 0x110000) then
      .ok (.text, [Char.ofNat value])
    else refuse .notScalar rest

/-- The state after a character in front of `rest`, and what has been read by it. -/
def StringState.next (multiline : Bool) (c : Char) (rest : List Char) :
    StringState → Except Stop (StringState × List Char)
  | .text => afterText multiline c rest
  | .escape => afterEscape multiline c rest
  | .digits start owed value => afterDigit start owed value c rest
  | .blanks =>
    if isBlank c then .ok (.blanks, [])
    else if c = '\n' then .ok (.gap, [])
    else refuse .unescapedBackslash (c :: rest)
  | .gap =>
    if isBlank c || c == '\n' then .ok (.gap, []) else afterText multiline c rest

/-- Whether a quote ends the string here. -/
def StringState.mayEnd : StringState → Bool
  | .text | .gap => true
  | _ => false

/-- What is wrong if the text ends here. -/
def StringState.atEnd : StringState → Stop
  | .text | .blanks | .gap => .fault .unterminatedString []
  | .escape => .fault .unescapedBackslash []
  | .digits start _ _ => .fault .badHexValue start

/-- The characters of a string up to its closing quotes, `read` being those so
far, latest first. -/
def scanBasic (multiline : Bool) : StringState → (read : List Char) → List Char →
    Except Stop (List Char × List Char)
  | state, _, [] => .error state.atEnd
  | state, read, c :: rest =>
    if c = '"' && state.mayEnd && (!multiline || rest.take 2 == ['"', '"']) then
      .ok (read.reverse, if multiline then rest.drop 2 else rest)
    else
      match state.next multiline c rest with
      | .ok (state, more) => scanBasic multiline state (more.reverse ++ read) rest
      | .error stop => .error stop

/-! ### Strings between single quotes -/

/-- Whether a character in front of `rest` closes a string taken as it is. -/
def closesLiteral (multiline : Bool) (c : Char) (rest : List Char) : Bool :=
  c == '\'' && (!multiline || rest.take 2 == ['\'', '\''])

/-- Whether a text has what closes a string taken as it is. -/
def hasClosing (multiline : Bool) : List Char → Bool
  | [] => false
  | c :: rest => closesLiteral multiline c rest || hasClosing multiline rest

/-- The characters of a string up to its closing quotes, taken as they are. That
the quotes are missing is found before what may not stand in the string. -/
def scanLiteral (multiline : Bool) : (read : List Char) → List Char →
    Except Stop (List Char × List Char)
  | _, [] => refuse (.quotesExpected multiline) []
  | read, c :: rest =>
    if closesLiteral multiline c rest then
      .ok (read.reverse, if multiline then rest.drop 2 else rest)
    else if isControl c && !(multiline && c == '\n') then
      if hasClosing multiline rest then refuse (.invalidCharacter c) (c :: rest)
      else refuse (.quotesExpected multiline) []
    else scanLiteral multiline (c :: read) rest

/-- Up to two quotes right behind the closing ones belong to the string. -/
def trailingQuotes (quote : Char) (read cs : List Char) : String × List Char :=
  let extra := (cs.take 2).takeWhile (· == quote)
  (String.ofList (read ++ extra), cs.drop extra.length)

/-- A line end right behind the opening quotes does not belong to the string. -/
def skipFirstLineEnd : List Char → List Char
  | '\n' :: rest => rest
  | cs => cs

/-- A string of one line behind its opening quote. -/
def scanOneLine (quote : Char) (cs : List Char) : Except Stop (String × List Char) := do
  let (read, rest) ← if quote = '"' then scanBasic false .text [] cs else scanLiteral false [] cs
  pure (String.ofList read, rest)

/-- A string of several lines behind its opening quotes. -/
def scanManyLines (quote : Char) (cs : List Char) : Except Stop (String × List Char) := do
  let cs := skipFirstLineEnd cs
  let (read, rest) ← if quote = '"' then scanBasic true .text [] cs else scanLiteral true [] cs
  pure (trailingQuotes quote read rest)

/-- A string behind its first quote. -/
def scanQuoted (quote : Char) (cs : List Char) : Except Stop (String × List Char) :=
  if cs.take 2 = [quote, quote] then scanManyLines quote (cs.drop 2) else scanOneLine quote cs

/-! ### Keys -/

/-- A character of a key without quotes. -/
def isBare (c : Char) : Bool := c.isAlphanum || c == '-' || c == '_'

/-- One part of a key. -/
def scanKeyPart : List Char → Except Stop (String × List Char)
  | '"' :: rest => scanOneLine '"' rest
  | '\'' :: rest => scanOneLine '\'' rest
  | cs =>
    let bare := cs.takeWhile isBare
    if bare.isEmpty then refuse .keyExpected cs else .ok (String.ofList bare, cs.dropWhile isBare)

/-- Further parts of a key, each behind a point, at most `bound` of them. -/
def scanKeyParts : (bound : Nat) → List Char → Except Stop (List String × List Char)
  | bound + 1, '.' :: rest => do
    let (part, rest) ← scanKeyPart (skipBlanks rest)
    let (parts, rest) ← scanKeyParts bound (skipBlanks rest)
    pure (part :: parts, rest)
  | _, cs => .ok ([], cs)

/-- A key of one part or more, with the blanks behind it. -/
def scanKey (cs : List Char) : Except Stop (List String × List Char) := do
  let (part, rest) ← scanKeyPart cs
  let (parts, rest) ← scanKeyParts cs.length (skipBlanks rest)
  pure (part :: parts, rest)

/-! ### Dates and times -/

/-- A text behind a mark. -/
def mark? (mark : Char) : List Char → Option (List Char)
  | c :: rest => if c = mark then some rest else none
  | [] => none

/-- A number of two digits in a range. -/
def twoDigits? (least most : Nat) : List Char → Option (Nat × List Char)
  | tens :: ones :: rest =>
    let n := Nat.ofDigitChars 10 [tens, ones] 0
    if tens.isDigit && ones.isDigit && decide (least ≤ n ∧ n ≤ most) then some (n, rest) else none
  | _ => none

/-- The fraction of a second, if there is one, of which six digits count. -/
def scanMicro (cs : List Char) : Nat × List Char :=
  match cs with
  | '.' :: rest =>
    let digits := rest.takeWhile Char.isDigit
    if digits.isEmpty then (0, cs)
    else
      (Nat.ofDigitChars 10 ((digits ++ List.replicate 6 '0').take 6) 0,
        rest.dropWhile Char.isDigit)
  | _ => (0, cs)

/-- A time of day. -/
def scanClock? (cs : List Char) : Option (TimeOfDay × List Char) := do
  let (hour, cs) ← twoDigits? 0 23 cs
  let (minute, cs) ← twoDigits? 0 59 (← mark? ':' cs)
  let (second, cs) ← twoDigits? 0 59 (← mark? ':' cs)
  let (micro, cs) := scanMicro cs
  (TimeOfDay.ofNumbers? hour minute second micro).map (·, cs)

/-- The minutes in some hours and minutes, in the direction of a sign. -/
def scanSpan? (sign : Int) (cs : List Char) : Option (Int × List Char) := do
  let (hours, cs) ← twoDigits? 0 23 cs
  let (minutes, cs) ← twoDigits? 0 59 (← mark? ':' cs)
  pure (sign * (hours * 60 + minutes), cs)

/-- The minutes that a clock is ahead by, if they are told. -/
def scanOffset (cs : List Char) : Option Int × List Char :=
  let read? : Option (Int × List Char) :=
    match cs with
    | 'Z' :: rest | 'z' :: rest => some (0, rest)
    | '+' :: rest => scanSpan? 1 rest
    | '-' :: rest => scanSpan? (-1) rest
    | _ => none
  match read? with
  | some (minutes, rest) => (some minutes, rest)
  | none => (none, cs)

/-- The numbers of a date: four digits of the year, then a month and a day of any. -/
def scanDate? : List Char → Option ((Nat × Nat × Nat) × List Char)
  | a :: b :: c :: d :: rest =>
    if [a, b, c, d].all Char.isDigit then do
      let (month, rest) ← twoDigits? 1 12 (← mark? '-' rest)
      let (day, rest) ← twoDigits? 1 31 (← mark? '-' rest)
      pure ((Nat.ofDigitChars 10 [a, b, c, d] 0, month, day), rest)
    else none
  | _ => none

/-- A time of day behind a date, if there is one. -/
def scanDayTime? : List Char → Option ((TimeOfDay × Option Int) × List Char)
  | c :: rest =>
    if c = 'T' ∨ c = 't' ∨ c = ' ' then do
      let (clock, rest) ← scanClock? rest
      let (offset, rest) := scanOffset rest
      pure ((clock, offset), rest)
    else none
  | [] => none

/-- A date, a time of day, or both, if the text starts with one. A date has to be one of
the calendar. -/
def scanMoment? (cs : List Char) : Except Stop (Option (Moment × List Char)) :=
  match scanDate? cs with
  | none => .ok ((scanClock? cs).map fun (clock, rest) => (.time clock, rest))
  | some ((year, month, day), rest) =>
    match Date.ofNumbers? year month day with
    | none => refuse .noSuchMoment cs
    | some date =>
      match scanDayTime? rest with
      | some ((clock, offset), rest) => .ok (some (.dateTime date clock offset, rest))
      | none => .ok (some (.date date, rest))

/-! ### Numbers -/

/-- Further digits of a class, each behind at most one underscore. -/
def moreDigits (isDigit : Char → Bool) : List Char → List Char × List Char
  | '_' :: d :: rest =>
    if isDigit d then
      let (digits, rest) := moreDigits isDigit rest
      (d :: digits, rest)
    else ([], '_' :: d :: rest)
  | d :: rest =>
    if isDigit d then
      let (digits, rest) := moreDigits isDigit rest
      (d :: digits, rest)
    else ([], d :: rest)
  | [] => ([], [])

/-- Digits of a class, at least one, without the underscores. -/
def digits? (isDigit : Char → Bool) : List Char → Option (List Char × List Char)
  | d :: rest =>
    if isDigit d then
      let (digits, rest) := moreDigits isDigit rest
      some (d :: digits, rest)
    else none
  | [] => none

/-- The value of digits in a base. -/
def valueIn (base : Nat) (digits : List Char) : Nat :=
  digits.foldl (fun value d => value * base + (Json.hexValue? d).getD 0) 0

/-- An integer in the base that its first letter names. -/
def scanBased? : List Char → Option (Int × List Char)
  | '0' :: mark :: rest => do
    let (base, isDigit) ←
      if mark = 'x' then some (16, fun d => (Json.hexValue? d).isSome)
      else if mark = 'o' then some (8, fun d => decide ('0' ≤ d ∧ d ≤ '7'))
      else if mark = 'b' then some (2, fun d => d == '0' || d == '1')
      else none
    let (digits, rest) ← digits? isDigit rest
    pure (Int.ofNat (valueIn base digits), rest)
  | _ => none

/-- The fraction of a number, if there is one. -/
def scanFraction (cs : List Char) : Option (List Char) × List Char :=
  match cs with
  | '.' :: rest =>
    match digits? Char.isDigit rest with
    | some (digits, rest) => (some digits, rest)
    | none => (none, cs)
  | _ => (none, cs)

/-- The sign of a number, if there is one. -/
def scanSign : List Char → Bool × List Char
  | '+' :: rest => (false, rest)
  | '-' :: rest => (true, rest)
  | cs => (false, cs)

/-- The exponent of a number, if there is one. -/
def scanExponent (cs : List Char) : Option Int × List Char :=
  match cs with
  | mark :: rest =>
    if mark = 'e' ∨ mark = 'E' then
      let (negative, unsigned) := scanSign rest
      match digits? Char.isDigit unsigned with
      | some (digits, rest) =>
        let magnitude := Int.ofNat (Nat.ofDigitChars 10 digits 0)
        (some (if negative then -magnitude else magnitude), rest)
      | none => (none, cs)
    else (none, cs)
  | [] => (none, cs)

/-- The whole part of a number, without superfluous zeros. -/
def scanWhole? : List Char → Option (List Char × List Char)
  | '0' :: rest => some (['0'], rest)
  | cs => digits? Char.isDigit cs

/-- A number in base ten. -/
def scanDecimal? (cs : List Char) : Option (Numeral × List Char) := do
  let (negative, cs) := scanSign cs
  let (whole, cs) ← scanWhole? cs
  let (fraction, cs) := scanFraction cs
  let (exponent, cs) := scanExponent cs
  pure (⟨negative, whole, fraction, exponent⟩, cs)

/-- The value of a number in base ten: an integer if it has neither a point nor an
exponent. -/
def numeralData (n : Numeral) : Except Stop Data :=
  if n.isInteger then
    if Data.maxDigits < n.whole.length then .error (.tooManyDigits n.whole.length)
    else .ok (.int n.toInt)
  else .ok (.float n.toNumber)

/-- The words that stand for numbers. -/
def numberWords : List (List Char × Number) :=
  [("inf".toList, .infinite false), ("nan".toList, .nan), ("-inf".toList, .infinite true),
    ("+inf".toList, .infinite false), ("-nan".toList, .nan), ("+nan".toList, .nan)]

/-- A number or a word for one. -/
def scanNumber (cs : List Char) : Except Stop (Data × List Char) :=
  match scanBased? cs with
  | some (n, rest) => .ok (.int n, rest)
  | none =>
    match scanDecimal? cs with
    | some (n, rest) => (numeralData n).map (·, rest)
    | none =>
      match numberWords.find? (·.1.isPrefixOf cs) with
      | some (word, x) => .ok (.float x, cs.drop word.length)
      | none => refuse .valueExpected cs

/-- A date, a time, a number or a word for one. -/
def scanPlain (cs : List Char) : Except Stop (Data × List Char) := do
  match ← scanMoment? cs with
  | some (m, rest) => pure (.moment m, rest)
  | none => scanNumber cs

end Rulebook.Toml
