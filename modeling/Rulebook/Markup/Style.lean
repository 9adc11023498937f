import Rulebook.Markup.Color
import Rulebook.Text.Blank

/-!
Styles: effects such as bold, two colours and a link.

Two texts that describe the same style may use other words in another order;
`normalForm` is the wording that they share.
-/

namespace Rulebook.Markup

/-- An effect of a style on letters. -/
inductive Effect where
  | bold
  | dim
  | italic
  | underline
  | blink
  | fastBlink
  | reverse
  | conceal
  | strike
  | doubleUnderline
  | frame
  | encircle
  | overline
deriving DecidableEq

namespace Effect

/-- The effects, in the order they are written. -/
def all : List Effect :=
  [.bold, .dim, .italic, .underline, .blink, .fastBlink, .reverse, .conceal, .strike,
    .doubleUnderline, .frame, .encircle, .overline]

/-- The words for an effect, the one that is written first. -/
def words : Effect → List String
  | .bold => ["bold", "b"]
  | .dim => ["dim", "d"]
  | .italic => ["italic", "i"]
  | .underline => ["underline", "u"]
  | .blink => ["blink"]
  | .fastBlink => ["blink2"]
  | .reverse => ["reverse", "r"]
  | .conceal => ["conceal", "c"]
  | .strike => ["strike", "s"]
  | .doubleUnderline => ["underline2", "uu"]
  | .frame => ["frame"]
  | .encircle => ["encircle"]
  | .overline => ["overline", "o"]

/-- The effect that a word names. -/
def ofWord? (word : String) : Option Effect := all.find? (·.words.contains word)

/-- The word that is written for an effect. -/
def word (effect : Effect) : String := effect.words.headD ""

end Effect

/-- A style. An effect is switched on or off, or not mentioned; of several settings
of an effect the first counts. -/
structure Style where
  effects : List (Effect × Bool)
  color : Option String
  background : Option String
  link : Option String

namespace Style

/-- The style without any effect. -/
def plain : Style := ⟨[], none, none, none⟩

/-- The style with an effect switched on or off. -/
def setting (style : Style) (effect : Effect) (on : Bool) : Style :=
  { style with effects := (effect, on) :: style.effects }

/-- Whether an effect is switched on or off. -/
def get? (style : Style) (effect : Effect) : Option Bool :=
  (style.effects.find? (·.1 = effect)).map (·.2)

/-- The words of an effect in a style. -/
def effectWords (style : Style) (effect : Effect) : List String :=
  match style.get? effect with
  | none => []
  | some true => [effect.word]
  | some false => ["not", effect.word]

/-- The text of a style. -/
def text (style : Style) : String :=
  let words := Effect.all.flatMap style.effectWords ++ style.color.toList
    ++ (style.background.toList.flatMap fun name => ["on", name])
    ++ (style.link.toList.flatMap fun target => ["link", target])
  if words.isEmpty then "none" else " ".intercalate words

/-- The words of a text. -/
def wordsFrom (word : List Char) : List Char → List (List Char)
  | [] => if word.isEmpty then [] else [word.reverse]
  | c :: rest =>
    if Text.isBlank c then
      if word.isEmpty then wordsFrom [] rest else word.reverse :: wordsFrom [] rest
    else wordsFrom (c :: word) rest

/-- The style that words add to another one. -/
def readWords (style : Style) : List (List Char) → Except ColorFault Style
  | [] => .ok style
  | word :: rest =>
    let name := String.ofList (Text.lower word)
    if name = "on" ∨ name = "not" ∨ name = "link" then
      match rest with
      | [] => .error .unknown
      | next :: rest =>
        if name = "on" then
          match Color.read next with
          | .ok color => readWords { style with background := some color } rest
          | .error fault => .error fault
        else if name = "not" then
          match Effect.ofWord? (String.ofList next) with
          | some effect => readWords (style.setting effect false) rest
          | none => .error .unknown
        else readWords { style with link := some (String.ofList next) } rest
    else
      match Effect.ofWord? name with
      | some effect => readWords (style.setting effect true) rest
      | none =>
        match Color.read word with
        | .ok color => readWords { style with color := some color } rest
        | .error fault => .error fault

/-- The style that a text describes. -/
def read (cs : List Char) : Except ColorFault Style :=
  if Text.strip Text.isBlank cs = "none".toList then .ok plain
  else readWords plain (wordsFrom [] cs)

/-- The wording shared by texts that describe the same style. A text that describes
none is its own in lower case, and there is none for a colour with a number left
out. -/
def normalForm (cs : List Char) : Option String :=
  match read cs with
  | .ok style => some style.text
  | .error .unknown => some (String.ofList (Text.lower (Text.strip Text.isBlank cs)))
  | .error .numberMissing => none

end Style

end Rulebook.Markup
