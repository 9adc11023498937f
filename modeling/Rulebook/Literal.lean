import Rulebook.Data
import Rulebook.Number.Numeral
import Rulebook.Text.Quoted

/-!
Literals: strings, numbers and truth values.

Equality compares the kind as well as the value, and numbers by value: the two
zeros are equal, and what is not a number equals nothing.
-/

namespace Rulebook

/-- The kind of a literal, also the declared type of an input. -/
inductive Kind where
  | string
  | number
  | bool
deriving DecidableEq, Inhabited

namespace Kind

/-- All kinds, in the order they are listed to a reader. -/
def all : List Kind := [.string, .number, .bool]

/-- The word that names a kind. -/
def word : Kind → String
  | .string => "string"
  | .number => "number"
  | .bool => "bool"

/-- The kind that a word names. -/
def ofWord? (word : String) : Option Kind :=
  all.find? (·.word == word)

/-- The wording of the refusal of a word that names no kind. -/
def unknownMessage (word : String) : String :=
  Text.quoted word ++ " is not a valid LiteralKind"

end Kind

/-- A self-evaluating string, number or truth value. -/
inductive Literal where
  | string (s : String)
  | number (x : Number)
  | bool (b : Bool)
deriving DecidableEq

namespace Literal

/-- The kind of a literal. -/
def kind : Literal → Kind
  | .string _ => .string
  | .number _ => .number
  | .bool _ => .bool

/-- Equality of kind and value. -/
def same : Literal → Literal → Bool
  | .string s, .string t => s == t
  | .number x, .number y => x.same y
  | .bool a, .bool b => a == b
  | _, _ => false

/-- The literal of an integer; none beyond the range of numbers. -/
def ofInt? (n : Int) : Option Literal :=
  (Number.ofInt? n).map .number

/-- Why a value is no literal. -/
inductive Refusal where
  | integerTooLarge
  | notScalar (typeName : String)
deriving DecidableEq

/-- The wording of a refusal. -/
def Refusal.message : Refusal → String
  | .integerTooLarge => "int too large to convert to float"
  | .notScalar typeName =>
    s!"Literal value must be a string, number or boolean. Got: {typeName}"

/-- The literal that a value is. -/
def ofData : Data → Except Refusal Literal
  | .string s => .ok (.string s)
  | .bool b => .ok (.bool b)
  | .float x => .ok (.number x)
  | .int n =>
    match ofInt? n with
    | some v => .ok v
    | none => .error .integerTooLarge
  | .null => .error (.notScalar "NoneType")
  | .moment m => .error (.notScalar m.className)
  | .array _ => .error (.notScalar "list")
  | .object _ => .error (.notScalar "dict")

/-- A number as it is shown: all digits of an integer, the shortest numeral
otherwise. -/
def numberText (x : Number) : List Char :=
  match x.toInt? with
  | some n => Numeral.intText n
  | none => x.text

/-- A literal as it is shown: a string between bare quotes, a truth value as a
word. -/
def text : Literal → String
  | .string s => String.ofList ('"' :: s.toList ++ ['"'])
  | .number x => String.ofList (numberText x)
  | .bool true => "true"
  | .bool false => "false"

end Literal

end Rulebook
