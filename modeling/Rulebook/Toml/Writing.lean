import Rulebook.Data
import Rulebook.Json.Writing
import Rulebook.Toml.Scalar

/-!
Writing TOML documents.

A table is written as its plain values, one to a line, and then its sub-tables
under headers of their own. An array of tables stands in place if every item fits
a line as an inline table, and else under a header for each item. Everything is
written in front of the text that follows it, so writing is linear in its result.
-/

namespace Rulebook.Toml

/-! ### Strings and keys -/

/-- A character inside a string: tabs and all that is no control stay. -/
def charText (c : Char) : List Char :=
  if c = '"' then ['\\', '"']
  else if c = '\\' then ['\\', '\\']
  else if c = '\x08' then ['\\', 'b']
  else if c = '\n' then ['\\', 'n']
  else if c = '\x0c' then ['\\', 'f']
  else if c = '\r' then ['\\', 'r']
  else if isControl c then Json.unitEscape c.toNat
  else [c]

/-- The characters of a string in front of `rest`. -/
def writeChars (cs rest : List Char) : List Char :=
  match cs with
  | [] => rest
  | c :: cs => charText c ++ writeChars cs rest

/-- A quoted string in front of `rest`. -/
def writeString (s : String) (rest : List Char) : List Char :=
  '"' :: writeChars s.toList ('"' :: rest)

/-- A part of a key, quoted only where it has to be. -/
def keyText (name : String) : List Char :=
  if !name.isEmpty && name.toList.all isBare then name.toList else writeString name []

/-- A key and the mark behind it, in front of its value. -/
def writeKey (name : String) (value : List Char) : List Char :=
  keyText name ++ (' ' :: '=' :: ' ' :: value)

/-! ### Values in place -/

/-- The columns that one level of an array is indented by. -/
def indentWidth : Nat := 4

/-- The blanks in front of what stands inside `level` arrays. -/
def indentation (level : Nat) : List Char := List.replicate (indentWidth * level) ' '

mutual

/-- A value in place, inside `level` arrays, in front of `rest`. -/
def writeInline (level : Nat) (value : Data) (rest : List Char) : List Char :=
  match value with
  | .null | .moment _ => rest
  | .bool true => "true".toList ++ rest
  | .bool false => "false".toList ++ rest
  | .int n => Numeral.intText n ++ rest
  | .float x => x.text ++ rest
  | .string s => writeString s rest
  | .array [] => '[' :: ']' :: rest
  | .array (item :: items) =>
    '[' :: '\n' :: writeItems level (item :: items) (indentation level ++ (']' :: rest))
  | .object [] => '\x7b' :: '\x7d' :: rest
  | .object ((name, value) :: members) =>
    '\x7b' :: ' ' ::
      writeKey name (writeInline 0 value (writeMembers members (' ' :: '\x7d' :: rest)))

/-- The items of an array, a line for each, in front of `rest`. -/
def writeItems (level : Nat) (items : List Data) (rest : List Char) : List Char :=
  match items with
  | [] => rest
  | item :: items =>
    indentation (level + 1)
      ++ writeInline (level + 1) item (',' :: '\n' :: writeItems level items rest)

/-- Further members of an inline table in front of `rest`. -/
def writeMembers (members : List (String × Data)) (rest : List Char) : List Char :=
  match members with
  | [] => rest
  | (name, value) :: members =>
    ',' :: ' ' :: writeKey name (writeInline 0 value (writeMembers members rest))

end

/-! ### Tables -/

/-- The longest line that an array item may make as an inline table. -/
def maxLineLength : Nat := 100

/-- Whether a table fits a line as an item of an array. -/
def fitsLine (table : Data) : Bool :=
  let line := indentation 1 ++ writeInline 0 table [',']
  decide (line.length ≤ maxLineLength) && !line.contains '\n'

/-- Whether a value is a table. -/
def isTable : Data → Bool
  | .object _ => true
  | _ => false

/-- Whether the items of an array are written as tables of their own. -/
def breaksUp (items : List Data) : Bool :=
  !items.isEmpty && items.all isTable && !items.all fitsLine

/-- Whether a value is written under headers of its own. -/
def hasHeader : Data → Bool
  | .object _ => true
  | .array items => breaksUp items
  | _ => false

/-- Whether a table writes nothing under its own name, since it has members and all
of them are written under headers of their own. -/
def hasNoFront (members : List (String × Data)) : Bool :=
  !members.isEmpty && members.all fun member => hasHeader member.2

/-- The plain values of a table, a line for each, in front of `rest`. -/
def writePlain (members : List (String × Data)) (rest : List Char) : List Char :=
  match members with
  | [] => rest
  | (name, value) :: members =>
    if hasHeader value then writePlain members rest
    else writeKey name (writeInline 0 value ('\n' :: writePlain members rest))

/-- The header and the plain values of a table in front of `rest`. -/
def writeFront (name : List Char) (members : List (String × Data)) (rest : List Char) :
    List Char :=
  if hasNoFront members then rest
  else '[' :: (name ++ (']' :: '\n' :: writePlain members rest))

/-- The header and the plain values of an array item in front of `rest`. -/
def writeItemFront (name : List Char) (members : List (String × Data)) (rest : List Char) :
    List Char :=
  '[' :: '[' :: (name ++ (']' :: ']' :: '\n' :: writePlain members rest))

/-- The full name of a table below another; the root has no name. -/
def nameBelow (name : List Char) (key : String) : List Char :=
  if name.isEmpty then keyText key else name ++ ('.' :: keyText key)

/-- A blank line in front of `rest`, if something stands before. -/
def writeGap (started : Bool) (rest : List Char) : List Char :=
  if started then '\n' :: rest else rest

mutual

/-- A value under headers of its full name, with a blank line before each, but not at
the start of what is written, in front of `rest`; nothing for a plain value. -/
def writeHeaded (name : List Char) (started : Bool) (value : Data) (rest : List Char) :
    List Char :=
  match value with
  | .object members =>
    writeGap started
      (writeFront name members (writeSubTables name (!hasNoFront members) members rest))
  | .array items => if breaksUp items then writeItemTables name started items rest else rest
  | _ => rest

/-- The members of a table that are written under headers, in front of `rest`. -/
def writeSubTables (name : List Char) (started : Bool) (members : List (String × Data))
    (rest : List Char) : List Char :=
  match members with
  | [] => rest
  | (key, value) :: members =>
    writeHeaded (nameBelow name key) started value
      (writeSubTables name (started || hasHeader value) members rest)

/-- An array item under its header in front of `rest`. -/
def writeItemTable (name : List Char) (started : Bool) (item : Data) (rest : List Char) :
    List Char :=
  match item with
  | .object members =>
    writeGap started (writeItemFront name members (writeSubTables name true members rest))
  | _ => rest

/-- The items of an array, each under a header, in front of `rest`. -/
def writeItemTables (name : List Char) (started : Bool) (items : List Data)
    (rest : List Char) : List Char :=
  match items with
  | [] => rest
  | item :: items => writeItemTable name started item (writeItemTables name true items rest)

end

/-- The text of a document. -/
def text (members : List (String × Data)) : String :=
  let started := members.any fun member => !hasHeader member.2
  String.ofList (writePlain members (writeSubTables [] started members []))

end Rulebook.Toml
