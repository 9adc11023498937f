import Rulebook.Members
import Rulebook.Text.LineEnd
import Rulebook.Text.Place
import Rulebook.Toml.Scalar

/-!
Reading TOML documents.

A document is a list of statements: pairs of a key and a value, headers of tables
and headers of array items. The reader keeps the tables built so far together with
marks on their keys: a table that has been opened by a header may not be opened
again, and values written in place may not be changed. What tables do not take is a
fault of the text behind the key or the pair.
-/

namespace Rulebook.Toml

/-! ### Values -/

/-- Whether a text starts with a character. -/
def startsWith (c : Char) (cs : List Char) : Bool := cs.head? == some c

/-- A text without the blanks, line ends and comments at its front. -/
def skipFiller : (inComment : Bool) → List Char → Except Stop (List Char)
  | _, [] => .ok []
  | false, c :: rest =>
    if isBlank c || c == '\n' then skipFiller false rest
    else if c = '#' then skipFiller true rest
    else .ok (c :: rest)
  | true, c :: rest =>
    if c = '\n' then skipFiller false rest
    else if isControl c then refuse (.invalidCharacter c) (c :: rest)
    else skipFiller true rest

/-- Whether a value stands behind a key or behind one of the keys on the way to
it; such a value has been written in place. -/
def underAny (marked : List (List String)) (key : List String) : Bool :=
  marked.any (·.isPrefixOf key)

/-- Change the table that keys lead to, making the tables on the way that are
missing. With `throughArrays` an array stands for its last item. -/
def changeAt (throughArrays : Bool)
    (change : List (String × Data) → Except Fault (List (String × Data))) :
    (keys : List String) → List (String × Data) → Except Fault (List (String × Data))
  | [], table => change table
  | key :: keys, table =>
    match Members.get? table key with
    | none => do
      let inner ← changeAt throughArrays change keys []
      pure (Members.put table key (.object inner))
    | some (.object members) => do
      let inner ← changeAt throughArrays change keys members
      pure (Members.put table key (.object inner))
    | some (.array items) =>
      match throughArrays, items.getLast? with
      | true, some (.object members) => do
        let inner ← changeAt throughArrays change keys members
        pure (Members.put table key (.array (items.dropLast ++ [.object inner])))
      | _, _ => .error .valueOverwritten
    | some _ => .error .valueOverwritten

/-- Add a member that is not there yet; what is wrong if it is there depends on the
table. -/
def addMember (taken : Fault) (name : String) (value : Data) (table : List (String × Data)) :
    Except Fault (List (String × Data)) :=
  if Members.has table name then .error taken else .ok (Members.put table name value)

/-- Add a pair to an inline table. A key may lead through tables that dotted keys
made, but not through a value written in place (`closed`). -/
def addInline (closed : List (List String)) (table : List (String × Data))
    (key : List String) (value : Data) : Except Fault (List (String × Data)) :=
  match key.getLast? with
  | none => .error .keyExpected
  | some name =>
    if underAny closed key then .error (.immutable key)
    else changeAt false (addMember (.duplicateKey name) name value) key.dropLast table

/-- The stack that nested values are read on: its size, and what an array and an inline
table take up beside what stands in them. -/
structure Stack where
  size : Nat
  array : Nat
  table : Nat
deriving DecidableEq

/-- What one container takes up at most. -/
def Stack.most (stack : Stack) : Nat := max stack.array stack.table

/-- The room that is left inside a container. -/
def enter (taken room : Nat) : Except Stop Nat :=
  if room < taken then .error .tooDeep else .ok (room - taken)

/-- A fault of tables as one of the text behind what they did not take. -/
def placed {α : Type} (rest : List Char) (taken : Except Fault α) : Except Stop α :=
  taken.mapError (.fault · rest)

section Values

variable (stack : Stack)

mutual

/-- A value, read in at most `bound` steps and with so much room for what is nested. -/
def scanValue : (bound room : Nat) → List Char → Except Stop (Data × List Char)
  | 0, _, cs => refuse .valueExpected cs
  | bound + 1, room, cs =>
    match cs with
    | '"' :: rest => (scanQuoted '"' rest).map fun (s, rest) => (.string s, rest)
    | '\'' :: rest => (scanQuoted '\'' rest).map fun (s, rest) => (.string s, rest)
    | 't' :: 'r' :: 'u' :: 'e' :: rest => .ok (.bool true, rest)
    | 'f' :: 'a' :: 'l' :: 's' :: 'e' :: rest => .ok (.bool false, rest)
    | '[' :: rest => do
      let room ← enter stack.array room
      let rest ← skipFiller false rest
      if startsWith ']' rest then pure (.array [], rest.drop 1)
      else
        let (items, rest) ← scanItems bound room rest
        pure (.array items, rest)
    | '\x7b' :: rest => do
      let room ← enter stack.table room
      let rest := skipBlanks rest
      if startsWith '\x7d' rest then pure (.object [], rest.drop 1)
      else
        let (members, rest) ← scanInline bound room [] [] rest
        pure (.object members, rest)
    | _ => scanPlain cs

/-- The items of an array from one on, and its end. -/
def scanItems : (bound room : Nat) → List Char → Except Stop (List Data × List Char)
  | 0, _, cs => refuse .valueExpected cs
  | bound + 1, room, cs => do
    let (item, rest) ← scanValue bound room cs
    let rest ← skipFiller false rest
    if startsWith ']' rest then pure ([item], rest.drop 1)
    else if startsWith ',' rest then
      let rest ← skipFiller false (rest.drop 1)
      if startsWith ']' rest then pure ([item], rest.drop 1)
      else
        let (items, rest) ← scanItems bound room rest
        pure (item :: items, rest)
    else refuse .unclosedArray rest

/-- The pairs of an inline table from one on, and its end, added to the members so
far. -/
def scanInline : (bound room : Nat) → (closed : List (List String)) → List (String × Data) →
    List Char → Except Stop (List (String × Data) × List Char)
  | 0, _, _, _, cs => refuse .valueExpected cs
  | bound + 1, room, closed, table, cs => do
    let (key, rest) ← scanKey cs
    if startsWith '=' rest then
      let (value, rest) ← scanValue bound room (skipBlanks (rest.drop 1))
      let table ← placed rest (addInline closed table key value)
      let rest := skipBlanks rest
      if startsWith '\x7d' rest then pure (table, rest.drop 1)
      else if startsWith ',' rest then
        let closed := if value.isContainer then key :: closed else closed
        scanInline bound room closed table (skipBlanks (rest.drop 1))
      else refuse .unclosedInlineTable rest
    else refuse .equalsExpected rest

end

/-- A pair of a key and a value. -/
def scanPair (cs : List Char) : Except Stop (List String × Data × List Char) := do
  let (key, rest) ← scanKey cs
  if startsWith '=' rest then
    let (value, rest) ← scanValue stack cs.length stack.size (skipBlanks (rest.drop 1))
    pure (key, value, rest)
  else refuse .equalsExpected rest

end Values

/-! ### Documents -/

/-- A document under way: the tables so far, the table that pairs go to, the keys
of tables that may not be opened any more, those of tables that may not be once
the next header comes, and those of values written in place. -/
structure Document where
  root : List (String × Data)
  header : List String
  opened : List (List String)
  pending : List (List String)
  closed : List (List String)

/-- The document without a statement. -/
def Document.empty : Document := ⟨[], [], [], [], []⟩

/-- The keys on the way to the last part of a key, below a header, outermost
first. -/
def keysOnTheWay (header key : List String) : List (List String) :=
  (List.range (key.length - 1)).map fun i => header ++ key.take (i + 1)

/-- Add a pair to the table of the last header. -/
def Document.addPair (d : Document) (key : List String) (value : Data) :
    Except Fault Document :=
  match key.getLast? with
  | none => .error .keyExpected
  | some name =>
    let way := keysOnTheWay d.header key
    let table := d.header ++ key.dropLast
    match way.find? (d.opened.contains ·) with
    | some other => .error (.redefined other)
    | none =>
      if underAny d.closed table then .error (.immutable table)
      else do
        let root ← changeAt true (addMember .valueOverwritten name value) table d.root
        let closed := if value.isContainer then (d.header ++ key) :: d.closed else d.closed
        pure { d with root, closed, pending := way ++ d.pending }

/-- The document when a header comes. -/
def Document.settle (d : Document) : Document :=
  { d with opened := d.pending ++ d.opened, pending := [] }

/-- Open a table. -/
def Document.openTable (d : Document) (key : List String) : Except Fault Document :=
  if d.opened.contains key || underAny d.closed key then .error (.declaredTwice key)
  else do
    let root ← changeAt true .ok key d.root
    pure { d with root, header := key, opened := key :: d.opened }

/-- Add an empty item to an array of tables, made if it is missing. -/
def addItem (name : String) (table : List (String × Data)) :
    Except Fault (List (String × Data)) :=
  match Members.get? table name with
  | none => .ok (Members.put table name (.array [.object []]))
  | some (.array items) => .ok (Members.put table name (.array (items ++ [.object []])))
  | some _ => .error .valueOverwritten

/-- Open a new item of an array of tables. What was marked below the key belonged
to the item before. -/
def Document.openItem (d : Document) (key : List String) : Except Fault Document :=
  match key.getLast? with
  | none => .error .keyExpected
  | some name =>
    if underAny d.closed key then .error (.immutable key)
    else do
      let root ← changeAt true (addItem name) key.dropLast d.root
      let above := fun marked => marked.filter fun other => !key.isPrefixOf other
      pure { d with root, header := key, opened := key :: above d.opened, closed := above d.closed }

/-- A header: of an item behind two brackets, of a table behind one. -/
def Document.scanHeader (d : Document) (cs : List Char) :
    Except Stop (Document × List Char) :=
  match cs with
  | '[' :: rest => do
    let (key, rest) ← scanKey (skipBlanks rest)
    let d ← placed rest (d.openItem key)
    if rest.take 2 == [']', ']'] then pure (d, rest.drop 2) else refuse .itemEndExpected rest
  | _ => do
    let (key, rest) ← scanKey (skipBlanks cs)
    let d ← placed rest (d.openTable key)
    if startsWith ']' rest then pure (d, rest.drop 1) else refuse .tableEndExpected rest

/-- A statement, if there is one before a comment or the end of the line. -/
def Document.scanStatement (stack : Stack) (d : Document) (cs : List Char) :
    Except Stop (Document × List Char) :=
  match cs with
  | [] => .ok (d, [])
  | c :: rest =>
    if c = '\n' || c == '#' then .ok (d, cs)
    else if c = '[' then d.settle.scanHeader rest
    else if isBare c || c == '"' || c == '\'' then do
      let (key, value, rest) ← scanPair stack cs
      let d ← placed rest (d.addPair key value)
      pure (d, rest)
    else refuse .statementExpected cs

/-- A text without the comment that it starts with, up to the end of the line. -/
def skipCommentText : List Char → Except Stop (List Char)
  | [] => .ok []
  | c :: rest =>
    if c = '\n' then .ok (c :: rest)
    else if isControl c then refuse (.invalidCharacter c) (c :: rest)
    else skipCommentText rest

/-- A text without the comment at its front, if there is one. -/
def skipComment : List Char → Except Stop (List Char)
  | '#' :: rest => skipCommentText rest
  | cs => .ok cs

/-- Statements, one to a line, at most `bound` lines of them. -/
def Document.scanLines (stack : Stack) :
    (bound : Nat) → Document → List Char → Except Stop Document
  | 0, d, _ => .ok d
  | bound + 1, d, cs => do
    let (d, rest) ← d.scanStatement stack (skipBlanks cs)
    let rest ← skipComment (skipBlanks rest)
    match rest with
    | [] => pure d
    | '\n' :: rest => Document.scanLines stack bound d rest
    | _ => refuse .lineEndExpected rest

/-- Read a document with line feeds for all line ends. Every line but the last takes a
character, so the length of the text bounds their count. -/
def read (stack : Stack) (cs : List Char) : Except Stop (List (String × Data)) := do
  let d ← Document.scanLines stack (cs.length + 1) Document.empty cs
  pure d.root

/-! ### Texts -/

/-- Why a text cannot be parsed. A fault has a place, unless it is at the end. -/
inductive Error where
  | malformed (fault : Fault) (place : Option Text.Place)
  | tooManyDigits (count : Nat)
  | tooDeep
deriving DecidableEq

/-- Place a stop in the text it was met in. -/
def Error.ofStop (cs : List Char) : Stop → Error
  | .fault fault [] => .malformed fault none
  | .fault fault (c :: rest) => .malformed fault (some (.ofRest cs (c :: rest)))
  | .tooManyDigits count => .tooManyDigits count
  | .tooDeep => .tooDeep

/-- Parse a text as one table. -/
def parse (stack : Stack) (text : List Char) : Except Error (List (String × Data)) :=
  let cs := Text.joinLineEnds text
  (read stack cs).mapError (.ofStop cs)

theorem parse_of_read {stack : Stack} {text cs : List Char} {members : List (String × Data)}
    (hjoin : Text.joinLineEnds text = cs) (h : read stack cs = .ok members) :
    parse stack text = .ok members := by
  rw [parse, hjoin, h]
  rfl

/-- The reason that a text is not TOML, for a reader of the file. -/
def faultReason (fault : Fault) : Option Text.Place → String
  | none => s!"{fault.message} (at end of document)"
  | some place => s!"{fault.message} (at line {place.line}, column {place.column})"

/-- The wording of the limit on nested values. -/
def tooDeepMessage : String := "maximum recursion depth exceeded"

end Rulebook.Toml
