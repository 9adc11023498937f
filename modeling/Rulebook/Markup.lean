import Rulebook.Markup.Emoji
import Rulebook.Markup.Handler
import Rulebook.Markup.Style

/-!
Text with markup: style tags between square brackets, backslashes that keep a tag
from being one, and names of pictographs between colons.

`escape` makes tags show as they are; `plain` is what a text with markup shows where
no styles are shown, and `fault?` tells whether its tags close what is open.
-/

namespace Rulebook.Markup

/-! ### Tags -/

/-- A character that can start the inside of a tag. -/
def startsInside (c : Char) : Bool :=
  ('a' ≤ c && c ≤ 'z') || c == '#' || c == '/' || c == '@'

/-- Whether a tag starts at the front of a text: an opening bracket, a character
that can start its inside, and a closing bracket before any other opening one. -/
def startsTag : List Char → Bool
  | '[' :: c :: rest =>
    startsInside c && (rest.find? (fun d => d == '[' || d == ']')) == some ']'
  | _ => false

/-- Escape a text. `inTag` says that its front lies inside a tag, and `slashes`
backslashes have been read that are not written yet: before a tag they are
doubled and one more is put. -/
def escapeFrom : (inTag : Bool) → (slashes : Nat) → List Char → List Char
  | _, slashes, [] => List.replicate slashes '\\'
  | true, _, c :: rest => c :: escapeFrom (c != ']') 0 rest
  | false, slashes, c :: rest =>
    if c = '\\' then escapeFrom false (slashes + 1) rest
    else if startsTag (c :: rest) then
      List.replicate (2 * slashes + 1) '\\' ++ c :: escapeFrom true 0 rest
    else List.replicate slashes '\\' ++ c :: escapeFrom false 0 rest

/-- Whether a text ends with exactly one backslash. -/
def endsInOneSlash (cs : List Char) : Bool :=
  cs.getLast? == some '\\' && cs.dropLast.getLast? != some '\\'

/-- The text that shows as the given one. A lone backslash at the end is doubled,
so that it keeps no later tag from being one. -/
def escape (s : String) : String :=
  let escaped := escapeFrom false 0 s.toList
  String.ofList (if endsInOneSlash escaped then escaped ++ ['\\'] else escaped)

/-! ### Pieces -/

/-- A piece of a text with markup: text that is shown, or a tag, by the place of its
bracket and what stands inside. -/
inductive Piece where
  | text (cs : List Char)
  | tag (place : Nat) (inside : List Char)

/-- Pieces with characters in front of the text they start with. -/
def inFront (cs : List Char) : List Piece → List Piece
  | .text ds :: rest => .text (cs ++ ds) :: rest
  | pieces => .text cs :: pieces

/-- How the front of a text is read. -/
inductive Reading where
  | text
  /-- Inside a tag that is shown. -/
  | shownTag
  /-- Inside a tag that is not shown. -/
  | hiddenTag

/-- The pieces of a text from a place on. Of the backslashes before a tag each two
show one, and an odd one shows the tag; before any other opening bracket one is left
out. What is shown of a tag and of the backslashes before it are pieces of their own. -/
def piecesFrom : Reading → (slashes place : Nat) → List Char → List Piece
  | _, slashes, _, [] => [.text (List.replicate slashes '\\')]
  | .shownTag, _, place, c :: rest =>
    inFront [c]
      (if c = ']' then .text [] :: piecesFrom .text 0 (place + 1) rest
      else piecesFrom .shownTag 0 (place + 1) rest)
  | .hiddenTag, _, place, c :: rest =>
    piecesFrom (if c = ']' then .text else .hiddenTag) 0 (place + 1) rest
  | .text, slashes, place, c :: rest =>
    if c = '\\' then piecesFrom .text (slashes + 1) (place + 1) rest
    else if startsTag (c :: rest) then
      .text [] :: .text (List.replicate (slashes / 2) '\\') ::
        if slashes % 2 = 1 then inFront [c] (piecesFrom .shownTag 0 (place + 1) rest)
        else .tag place (rest.takeWhile (· != ']')) :: piecesFrom .hiddenTag 0 (place + 1) rest
    else
      let shownSlashes := if c = '[' then slashes - 1 else slashes
      inFront (List.replicate shownSlashes '\\' ++ [c]) (piecesFrom .text 0 (place + 1) rest)

/-- The pieces of a text. -/
def pieces (s : String) : List Piece := piecesFrom .text 0 0 s.toList

/-! ### What is shown -/

/-- What a piece shows without styles. -/
def Piece.shown : Piece → List Char
  | .text cs => Emoji.replace cs
  | .tag _ _ => []

/-- Characters that are never shown: bell, backspace, vertical tab, form feed and
carriage return. -/
def isUnshown (c : Char) : Bool :=
  c == '\x07' || c == '\x08' || c == '\x0b' || c == '\x0c' || c == '\x0d'

/-- What a text with markup shows without styles. -/
def plain (s : String) : List Char :=
  ((pieces s).flatMap Piece.shown).filter (!isUnshown ·)

/-! ### Faults -/

/-- What is wrong with a text with markup. -/
inductive Fault where
  /-- A tag closes a style that is not open. -/
  | notOpen (inside : String) (place : Nat)
  /-- A tag closes the latest style where none is open. -/
  | nothingOpen (place : Nat)
  /-- A colour lacks one of its numbers. -/
  | numberMissing
  /-- A closed tag has parameters that are wrong. -/
  | parameters (fault : Handler.ParameterFault)
deriving DecidableEq

/-- The wording of a fault. -/
def Fault.message : Fault → String
  | .notOpen inside place =>
    s!"closing tag '[{inside}]' at position {place} doesn't match any open tag"
  | .nothingOpen place => s!"closing tag '[/]' at position {place} has nothing to close"
  | .numberMissing => "invalid literal for int() with base 10: ''"
  | .parameters fault => fault.message

/-- An open style: its wording and the parameters of its tag. -/
structure OpenStyle where
  style : String
  parameters : List Char

/-- Close an open style. A handler of events, which an at sign marks, has its parameters
looked at. -/
def OpenStyle.close (opened : OpenStyle) : Except Fault Unit :=
  if opened.style.startsWith "@" then
    match Handler.parameterFault? opened.parameters with
    | some fault => .error (.parameters fault)
    | none => .ok ()
  else .ok ()

/-- The styles open behind a tag, the latest one first. -/
def openBehind (opened : List OpenStyle) (place : Nat) (inside : List Char) :
    Except Fault (List OpenStyle) :=
  match inside.takeWhile (· != '=') with
  | '/' :: closed =>
    if (Text.strip Text.isBlank closed).isEmpty then
      match opened with
      | [] => .error (.nothingOpen place)
      | latest :: others => latest.close.map fun _ => others
    else
      match Style.normalForm (Text.strip Text.isBlank closed) with
      | none => .error .numberMissing
      | some style =>
        match opened.find? (·.style == style) with
        | some found => found.close.map fun _ => opened.eraseP (·.style == style)
        | none => .error (.notOpen (String.ofList inside) place)
  | name =>
    match Style.normalForm name with
    | none => .error .numberMissing
    | some style => .ok (⟨style, inside.drop (name.length + 1)⟩ :: opened)

/-- The first fault in pieces behind open styles. -/
def faultFrom : (opened : List OpenStyle) → List Piece → Option Fault
  | _, [] => none
  | opened, .text _ :: rest => faultFrom opened rest
  | opened, .tag place inside :: rest =>
    match openBehind opened place inside with
    | .ok opened => faultFrom opened rest
    | .error fault => some fault

/-- Whether the style of a tag lacks a number once its parameters are read as a part of
it. -/
def Piece.lacksNumber : Piece → Bool
  | .text _ => false
  | .tag _ inside =>
    let name := inside.takeWhile (· != '=')
    if inside.contains '=' && name.head? != some '/' then
      match Style.normalForm name with
      | some style =>
        (Style.normalForm (style.toList ++ ' ' :: inside.drop (name.length + 1))).isNone
      | none => true
    else false

/-- The first fault in a text with markup. The styles of its tags are looked at behind
all else. -/
def fault? (s : String) : Option Fault :=
  match faultFrom [] (pieces s) with
  | some fault => some fault
  | none => if (pieces s).any Piece.lacksNumber then some .numberMissing else none

/-- A text inside a style. -/
def styled (style s : String) : String :=
  "[" ++ style ++ "]" ++ s ++ "[/" ++ style ++ "]"

end Rulebook.Markup
