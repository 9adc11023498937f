import Rulebook.Text.LetterCase
import Rulebook.Text.Ranges

/-!
Text in lower case.

A capital letter gives way to its small one. Two have more to them: the capital I with
a dot keeps its dot as a mark of its own, and a capital sigma at the end of a word
becomes the sigma that is written there.
-/

namespace Rulebook.Text

/-- Whether a character is a letter with case. -/
def isCased (c : Char) : Bool := inRanges casedRanges c

/-- Whether case looks past a character. -/
def isCaseIgnorable (c : Char) : Bool := inRanges caseIgnorableRanges c

/-- Whether capital letters include a code point. -/
def Capitals.has (letters : Capitals) (n : Nat) : Bool :=
  letters.first ≤ n && n ≤ letters.last && (n - letters.first) % letters.step == 0

/-- The small letter of a capital one; any other character as it is. -/
def lowerChar (c : Char) : Char :=
  if c.toNat < 0x80 then c.toLower
  else
    match capitals.find? (·.has c.toNat) with
    | some letters => Char.ofNat (c.toNat + letters.shift).toNat
    | none => c

/-- The capital I with a dot. -/
def dottedI : Char := 'İ'

/-- The mark of a dot above a letter. -/
def dotAbove : Char := '\u0307'

/-- The capital sigma. -/
def capitalSigma : Char := 'Σ'

/-- The sigma at the end of a word. -/
def finalSigma : Char := 'ς'

/-- Whether the next character that case does not look past is a letter with case. -/
def meetsCased (cs : List Char) : Bool :=
  (cs.find? (!isCaseIgnorable ·)).any isCased

/-- Lower case behind the characters `behind`, the latest first. -/
def lowerFrom (behind : List Char) : List Char → List Char
  | [] => []
  | c :: rest =>
    let small :=
      if c = dottedI then ['i', dotAbove]
      else if c = capitalSigma ∧ meetsCased behind ∧ !meetsCased rest then [finalSigma]
      else [lowerChar c]
    small ++ lowerFrom (c :: behind) rest

/-- A text in lower case. -/
def lower (cs : List Char) : List Char := lowerFrom [] cs

end Rulebook.Text
