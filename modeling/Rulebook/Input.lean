import Rulebook.Scope
import Rulebook.Text.Blank
import Rulebook.Text.DecimalDigit
import Rulebook.Text.Quoted

/-!
Input values given as text.

A text is read by the kind of its input: strings as they are, numbers in decimal
or exponent notation with digits of any script, truth values in any case. Blanks
around numbers and truth values are ignored; underscores in numbers and numbers
that are not finite are refused.
-/

namespace Rulebook

/-- A text that is no value of the kind its input has. -/
structure RawInputError where
  name : String
  raw : String
  kind : Kind
deriving DecidableEq

/-- The wording of an error. -/
def RawInputError.message (error : RawInputError) : String :=
  "Cannot parse " ++ Text.quoted error.raw ++ s!" as {error.kind.word} for input {error.name}"

namespace Input

/-! ### Numbers -/

/-- A run of digits and the rest. -/
def spanDigits (cs : List Char) : List Char × List Char :=
  (cs.takeWhile Char.isDigit, cs.dropWhile Char.isDigit)

/-- The exponent at the end of a number: nothing, or a mark and digits. -/
def exponentToEnd? (cs : List Char) : Option Int :=
  match cs with
  | [] => some 0
  | _ =>
    match Numeral.scanExponent cs with
    | (some exponent, []) => some exponent
    | _ => none

/-- Digits on at least one side of an optional point, and an optional exponent. -/
def decimal? (negative : Bool) (cs : List Char) : Option Number := do
  let (whole, rest) := spanDigits cs
  let (fraction, rest) :=
    match rest with
    | '.' :: rest => spanDigits rest
    | _ => ([], rest)
  if whole.isEmpty && fraction.isEmpty then none
  else
    let exponent ← exponentToEnd? rest
    pure (Numeral.toNumber ⟨negative, whole, some fraction, some exponent⟩)

/-- A number without its sign: a word for one that is not finite, or a decimal. -/
def unsigned? (negative : Bool) (cs : List Char) : Option Number :=
  let word := String.ofList (cs.map Char.toLower)
  if word = "inf" ∨ word = "infinity" then some (.infinite negative)
  else if word = "nan" then some .nan
  else decimal? negative cs

/-- The number that a text names, finite or not. -/
def number? (raw : String) : Option Number :=
  match (Text.strip Text.isNumberBlank raw.toList).map Text.toAsciiDigit with
  | '+' :: rest => unsigned? false rest
  | '-' :: rest => unsigned? true rest
  | rest => unsigned? false rest

/-! ### Values -/

/-- The truth value that a text names. -/
def bool? (raw : String) : Option Bool :=
  let word := String.ofList ((Text.strip Text.isBlank raw.toList).map Char.toLower)
  if word = "true" then some true
  else if word = "false" then some false
  else none

/-- The finite number that a text without underscores names. -/
def finiteNumber? (raw : String) : Option Number :=
  if raw.toList.contains '_' then none else (number? raw).filter (·.isFinite)

/-- The literal of a kind that a text names. -/
def literal? (raw : String) : Kind → Option Literal
  | .string => some (.string raw)
  | .number => (finiteNumber? raw).map .number
  | .bool => (bool? raw).map .bool

/-- Read the text given for an input of a kind. -/
def parse (name raw : String) (kind : Kind) : Except RawInputError Literal :=
  match literal? raw kind with
  | some value => .ok value
  | none => .error ⟨name, raw, kind⟩

end Input

/-- The literal of a named text: by the kind of the input it names, or a string if
it names none. -/
def Scope.parseInput (scope : Scope) (name raw : String) : Except RawInputError Literal :=
  match scope.input? name with
  | some kind => Input.parse name raw kind
  | none => .ok (.string raw)

/-- The context of named texts, up to the first that cannot be read. -/
def Context.ofRaw (scope : Scope) : List (String × String) → Except RawInputError Context
  | [] => .ok []
  | (name, raw) :: rest => do
    let value ← scope.parseInput name raw
    let others ← Context.ofRaw scope rest
    pure ((name, .literal value) :: others)

end Rulebook
