import Rulebook.Markup.Emoji.AToE
import Rulebook.Markup.Emoji.FToL
import Rulebook.Markup.Emoji.MToR
import Rulebook.Markup.Emoji.SToZ
import Rulebook.Text.Blank
import Rulebook.Text.LowerCase

/-!
Pictographs by name: a name between colons stands for a pictograph.

A name may end in a word that asks for the pictograph or for the letter form. What
stands between two colons is left as it is if it names nothing, and the second colon
begins no other name.
-/

namespace Rulebook.Markup.Emoji

/-- The pictographs by name. -/
def names : List (String × String) := namesAToE ++ namesFToL ++ namesMToR ++ namesSToZ

/-- The pictograph of a name, in any case. -/
def find? (name : List Char) : Option (List Char) :=
  (names.find? fun entry => entry.1 == String.ofList (Text.lower name)).map (·.2.toList)

/-- The endings of a name that ask for a form, and the characters that do. -/
def forms : List (List Char × Char) :=
  [("-emoji".toList, '\ufe0f'), ("-text".toList, '\ufe0e')]

/-- The text that a name between colons stands for. -/
def named? (name : List Char) : Option (List Char) :=
  match forms.find? (fun form => form.1.isSuffixOf name) with
  | none => find? name
  | some (ending, form) =>
    (find? (name.take (name.length - ending.length))).map (· ++ [form])

/-- What is shown for a name between colons. -/
def shownName (name : List Char) : List Char :=
  (named? name).getD (':' :: (name ++ [':']))

/-- What is shown for characters; those behind an open colon stand in `name` in
reverse. -/
def replaceFrom : (name : Option (List Char)) → List Char → List Char
  | none, [] => []
  | some name, [] => ':' :: name.reverse
  | none, c :: rest => if c = ':' then replaceFrom (some []) rest else c :: replaceFrom none rest
  | some name, c :: rest =>
    if c = ':' then shownName name.reverse ++ replaceFrom none rest
    else if Text.isBlank c then ':' :: (name.reverse ++ c :: replaceFrom none rest)
    else replaceFrom (some (c :: name)) rest

/-- A text with pictographs for their names. -/
def replace (cs : List Char) : List Char := replaceFrom none cs

end Rulebook.Markup.Emoji
