import Rulebook.Data.Digits
import Rulebook.Number.Numeral

/-!
Writing JSON text.

A value is written in front of the text that follows it, so that writing is
linear in its result and the text of a value is found whole in front of any
other. Strings are written in ASCII. `Layout` chooses between one line and one
item per line. What JSON has no form for leaves nothing in the text; `refusal?` says
whether a value has such a part.
-/

namespace Rulebook.Json

/-! ### Strings -/

/-- A lower-case hexadecimal digit. -/
def hexDigit (n : Nat) : Char := Nat.digitChar n

/-- The escape of a unit: four hexadecimal digits. -/
def unitEscape (unit : Nat) : List Char :=
  ['\\', 'u', hexDigit (unit / 4096 % 16), hexDigit (unit / 256 % 16),
    hexDigit (unit / 16 % 16), hexDigit (unit % 16)]

/-- A character inside a string: itself if it is printable ASCII, else an escape,
with two units for a character beyond the basic plane. -/
def charText (c : Char) : List Char :=
  if c = '"' then ['\\', '"']
  else if c = '\\' then ['\\', '\\']
  else if c = '\n' then ['\\', 'n']
  else if c = '\r' then ['\\', 'r']
  else if c = '\t' then ['\\', 't']
  else if c = '\x0c' then ['\\', 'f']
  else if c = '\x08' then ['\\', 'b']
  else if 0x20 ≤ c.toNat ∧ c.toNat < 0x7f then [c]
  else if c.toNat < 0x10000 then unitEscape c.toNat
  else
    let offset := c.toNat - 0x10000
    unitEscape (0xD800 + offset / 0x400) ++ unitEscape (0xDC00 + offset % 0x400)

/-- The characters of a string in front of `rest`. -/
def writeChars (cs rest : List Char) : List Char :=
  match cs with
  | [] => rest
  | c :: cs => charText c ++ writeChars cs rest

/-- A quoted string in front of `rest`. -/
def writeString (s : String) (rest : List Char) : List Char :=
  '"' :: writeChars s.toList ('"' :: rest)

/-! ### Numbers -/

/-- A number: words for what is not finite, else its shortest numeral. -/
def numberText : Number → List Char
  | .nan => "NaN".toList
  | .infinite false => "Infinity".toList
  | .infinite true => "-Infinity".toList
  | x => x.text

/-! ### Layout -/

/-- What is wrong with an indentation. -/
inductive IndentFault where
  /-- It does not fit a word of 64 bits. -/
  | notAWord
  /-- There is no room for so many spaces. -/
  | noRoom
deriving DecidableEq

/-- The wording of a fault. No words are left where there is no room. -/
def IndentFault.message : IndentFault → String
  | .notAWord => "cannot fit 'int' into an index-sized integer"
  | .noRoom => ""

/-- Either all on one line, or each item on a line of its own, indented by
`width` spaces for each container around it. -/
inductive Layout where
  | line
  | indented (width : Nat)
deriving DecidableEq

namespace Layout

/-- The layout that an indentation asks for, where so many spaces fit; a negative
one counts as zero. -/
def ofIndent (fits : Nat → Bool) : Option Int → Except IndentFault Layout
  | none => .ok .line
  | some width =>
    if width < -(Nat.pow 2 63 : Int) ∨ (Nat.pow 2 63 : Int) ≤ width then .error .notAWord
    else if fits width.toNat then .ok (.indented width.toNat)
    else .error .noRoom

/-- A new line inside `level` containers, where the layout has lines. -/
def newline (layout : Layout) (level : Nat) (rest : List Char) : List Char :=
  match layout with
  | .line => rest
  | .indented width => '\n' :: (List.replicate (width * level) ' ' ++ rest)

/-- What stands between two items inside `level` containers. -/
def separator (layout : Layout) (level : Nat) (rest : List Char) : List Char :=
  match layout with
  | .line => ',' :: ' ' :: rest
  | .indented _ => ',' :: layout.newline level rest

end Layout

/-! ### Values -/

mutual

/-- A value in front of `rest`, inside `level` containers. -/
def write (layout : Layout) (level : Nat) (value : Data) (rest : List Char) : List Char :=
  match value with
  | .null => "null".toList ++ rest
  | .bool true => "true".toList ++ rest
  | .bool false => "false".toList ++ rest
  | .int n => Numeral.intText n ++ rest
  | .float x => numberText x ++ rest
  | .string s => writeString s rest
  | .moment _ => rest
  | .array [] => '[' :: ']' :: rest
  | .array (item :: items) =>
    '[' :: layout.newline (level + 1)
      (write layout (level + 1) item
        (writeItems layout (level + 1) items (layout.newline level (']' :: rest))))
  | .object [] => '\x7b' :: '\x7d' :: rest
  | .object ((name, value) :: members) =>
    '\x7b' :: layout.newline (level + 1)
      (writeString name (':' :: ' ' :: write layout (level + 1) value
        (writeMembers layout (level + 1) members (layout.newline level ('\x7d' :: rest)))))

/-- Further items, each behind a separator, in front of `rest`. -/
def writeItems (layout : Layout) (level : Nat) (items : List Data) (rest : List Char) :
    List Char :=
  match items with
  | [] => rest
  | item :: items =>
    layout.separator level (write layout level item (writeItems layout level items rest))

/-- Further members, each behind a separator, in front of `rest`. -/
def writeMembers (layout : Layout) (level : Nat) (members : List (String × Data))
    (rest : List Char) : List Char :=
  match members with
  | [] => rest
  | (name, value) :: members =>
    layout.separator level (writeString name (':' :: ' ' ::
      write layout level value (writeMembers layout level members rest)))

end

/-- The text of a value. -/
def text (layout : Layout) (value : Data) : String :=
  String.ofList (write layout 0 value [])

/-! ### What has no text -/

/-- Why a value is not written. -/
inductive Refusal where
  /-- The stack does not reach so deep. -/
  | outOfStack
  /-- An integer has too many digits. -/
  | integerTooLong
  /-- JSON has no form for a value of this kind. -/
  | notSerializable (kind : String)
deriving DecidableEq

/-- The wording of a refusal. -/
def Refusal.message : Refusal → String
  | .outOfStack => "maximum recursion depth exceeded"
  | .integerTooLong => Data.integerTooLongMessage
  | .notSerializable kind => s!"Object of type {kind} is not JSON serializable"

mutual

/-- What the first part of a value that has no text is refused for. -/
def refusal? : Data → Option Refusal
  | .null | .bool _ | .float _ | .string _ => none
  | .int n => if (Data.int n).isWritable then none else some .integerTooLong
  | .moment m => some (.notSerializable m.className)
  | .array items => itemsRefusal? items
  | .object members => membersRefusal? members

/-- What the first part of some items that has no text is refused for. -/
def itemsRefusal? : List Data → Option Refusal
  | [] => none
  | item :: rest => (refusal? item).or (itemsRefusal? rest)

/-- What the first part of some members that has no text is refused for. -/
def membersRefusal? : List (String × Data) → Option Refusal
  | [] => none
  | (_, value) :: rest => (refusal? value).or (membersRefusal? rest)

end

end Rulebook.Json
