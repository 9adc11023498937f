import Rulebook.Number.Shortest

/-!
Numerals: the written form of a number.

`Numeral.scan?` reads the longest numeral at the front of a text,
`Numeral.text` writes one, and `Number.numeral` chooses the one a number is
shown by: the shortest digits that read back, positional from `0.0001` up to
below `10^16` and scientific elsewhere.
-/

namespace Rulebook

/-- A numeral: digits of the whole part, of the fraction after the point if
there is one, and the exponent of ten if one is written. -/
structure Numeral where
  negative : Bool
  whole : List Char
  fraction : Option (List Char)
  exponent : Option Int
deriving DecidableEq

namespace Numeral

/-! ### Reading -/

/-- An optional fraction: a point and at least one digit. -/
def scanFraction (cs : List Char) : Option (List Char) × List Char :=
  match cs with
  | '.' :: d :: rest =>
    if d.isDigit then (some ((d :: rest).takeWhile Char.isDigit), rest.dropWhile Char.isDigit)
    else (none, cs)
  | _ => (none, cs)

/-- The digits of an exponent, at least one, after its sign. -/
def scanExponentDigits (negative : Bool) (cs : List Char) : Option (Int × List Char) :=
  match cs with
  | d :: rest =>
    if d.isDigit then
      let magnitude := Int.ofNat (Nat.ofDigitChars 10 (cs.takeWhile Char.isDigit) 0)
      some (if negative then -magnitude else magnitude, rest.dropWhile Char.isDigit)
    else none
  | [] => none

/-- The exponent that follows its mark. -/
def scanSignedExponent (cs : List Char) : Option (Int × List Char) :=
  match cs with
  | '+' :: rest => scanExponentDigits false rest
  | '-' :: rest => scanExponentDigits true rest
  | _ => scanExponentDigits false cs

/-- An optional exponent: `e` or `E`, a sign if any, and at least one digit. -/
def scanExponent (cs : List Char) : Option Int × List Char :=
  match cs with
  | c :: rest =>
    if c == 'e' || c == 'E' then
      match scanSignedExponent rest with
      | some (exponent, rest) => (some exponent, rest)
      | none => (none, cs)
    else (none, cs)
  | [] => (none, cs)

/-- What follows the whole part. -/
def scanTail (negative : Bool) (whole cs : List Char) : Numeral × List Char :=
  let (fraction, cs) := scanFraction cs
  let (exponent, cs) := scanExponent cs
  (⟨negative, whole, fraction, exponent⟩, cs)

/-- The whole part, without superfluous zeros, and what follows it. -/
def scanUnsigned? (negative : Bool) (cs : List Char) : Option (Numeral × List Char) :=
  match cs with
  | '0' :: rest => some (scanTail negative ['0'] rest)
  | d :: _ =>
    if d.isDigit then
      some (scanTail negative (cs.takeWhile Char.isDigit) (cs.dropWhile Char.isDigit))
    else none
  | [] => none

/-- The longest numeral at the front of a text, and the rest. -/
def scan? (cs : List Char) : Option (Numeral × List Char) :=
  match cs with
  | '-' :: rest => scanUnsigned? true rest
  | _ => scanUnsigned? false cs

/-! ### Value -/

/-- Neither a point nor an exponent is written. -/
def isInteger (n : Numeral) : Bool :=
  n.fraction.isNone && n.exponent.isNone

/-- The integer that the sign and the whole part name. -/
def toInt (n : Numeral) : Int :=
  let magnitude := Int.ofNat (Nat.ofDigitChars 10 n.whole 0)
  if n.negative then -magnitude else magnitude

/-- The number nearest to the value of the numeral. -/
def toNumber (n : Numeral) : Number :=
  let fraction := n.fraction.getD []
  Number.ofDecimal n.negative (Nat.ofDigitChars 10 (n.whole ++ fraction) 0)
    (n.exponent.getD 0 - fraction.length)

/-! ### Writing -/

/-- The decimal digits of an integer, behind a minus sign if it is negative. -/
def intText (n : Int) : List Char :=
  if n < 0 then '-' :: Nat.toDigits 10 n.natAbs else Nat.toDigits 10 n.natAbs

/-- The digits of an exponent, two at least. -/
def paddedDigits (n : Nat) : List Char :=
  let digits := Nat.toDigits 10 n
  if digits.length < 2 then '0' :: digits else digits

/-- An exponent: its mark, its sign in any case, and its digits. -/
def exponentText (exponent : Int) : List Char :=
  'e' :: (if exponent < 0 then '-' else '+') :: paddedDigits exponent.natAbs

/-- The text of a fraction behind its point, if there is one. -/
def fractionTail : Option (List Char) → List Char
  | some ds => '.' :: ds
  | none => []

/-- The text of an exponent, if there is one. -/
def exponentTail : Option Int → List Char
  | some e => exponentText e
  | none => []

/-- The text of what stands behind the whole part. -/
def tailText (n : Numeral) : List Char :=
  fractionTail n.fraction ++ exponentTail n.exponent

/-- The text of a numeral. -/
def text (n : Numeral) : List Char :=
  (if n.negative then ['-'] else []) ++ (n.whole ++ n.tailText)

/-- Positional form of `digits * 10^exponent`: one digit at least on each side
of the point. -/
def positional (negative : Bool) (digits : List Char) (exponent : Int) : Numeral :=
  match exponent with
  | .ofNat n => ⟨negative, digits ++ List.replicate n '0', some ['0'], none⟩
  | .negSucc n =>
    let places := n + 1
    if digits.length ≤ places then
      ⟨negative, ['0'], some (List.replicate (places - digits.length) '0' ++ digits), none⟩
    else
      ⟨negative, digits.take (digits.length - places),
        some (digits.drop (digits.length - places)), none⟩

/-- Scientific form of `digits * 10^exponent`: one digit before the point, and
no point when it is the only one. -/
def scientific (negative : Bool) (digits : List Char) (exponent : Int) : Numeral :=
  let leading := exponent + digits.length - 1
  ⟨negative, digits.take 1, if digits.length ≤ 1 then none else some (digits.drop 1), some leading⟩

/-- The form that the place of the leading digit asks for: positional from the
fourth place after the point to the sixteenth before it. -/
def ofDigits (negative : Bool) (digits : List Char) (exponent : Int) : Numeral :=
  let leading := exponent + digits.length - 1
  if -4 ≤ leading && leading < 16 then positional negative digits exponent
  else scientific negative digits exponent

end Numeral

namespace Number

/-- The numeral that shows the number of a sign and a rank. -/
def numeralAt (negative : Bool) (rank : Nat) : Numeral :=
  if rank = 0 then ⟨negative, ['0'], some ['0'], none⟩
  else
    let (digits, exponent) := shortest rank
    Numeral.ofDigits negative (Nat.toDigits 10 digits) exponent

/-- The text of a number: the numeral of a finite one, a word for the others. -/
def text : Number → List Char
  | .finite negative rank => (numeralAt negative rank).text
  | .infinite false => "inf".toList
  | .infinite true => "-inf".toList
  | .nan => "nan".toList

end Number

end Rulebook
