import Rulebook.Data
import Rulebook.Number.Numeral
import Rulebook.Text.Quoted

/-!
Document values as they are shown in messages.
-/

namespace Rulebook.Data

mutual

/-- A value as it is shown: words are capitalised, strings quoted. -/
def shown : Data → String
  | .null => "None"
  | .bool b => if b then "True" else "False"
  | .int n => String.ofList (Numeral.intText n)
  | .float x => String.ofList x.text
  | .string s => Text.quoted s
  | .moment m => m.shown
  | .array items => "[" ++ ", ".intercalate (shownItems items) ++ "]"
  | .object members => "\x7b" ++ ", ".intercalate (shownMembers members) ++ "\x7d"

/-- Items as they are shown. -/
def shownItems : List Data → List String
  | [] => []
  | item :: rest => item.shown :: shownItems rest

/-- Members as they are shown. -/
def shownMembers : List (String × Data) → List String
  | [] => []
  | (name, value) :: rest => (Text.quoted name ++ ": " ++ value.shown) :: shownMembers rest

end

/-- The word for the type of a value. -/
def typeName : Data → String
  | .null => "NoneType"
  | .bool _ => "bool"
  | .int _ => "int"
  | .float _ => "float"
  | .string _ => "str"
  | .moment m => "datetime." ++ m.className
  | .array _ => "list"
  | .object _ => "dict"

/-- Whether a value says nothing: false, zero, or empty. -/
def isEmptyLike : Data → Bool
  | .null => true
  | .bool b => !b
  | .int n => n == 0
  | .float x => x.same (Number.zero false)
  | .string s => s.isEmpty
  | .moment _ => false
  | .array items => items.isEmpty
  | .object members => members.isEmpty

end Rulebook.Data
