import Rulebook.Markup.Handler.Lexeme
import Rulebook.Markup.Handler.Value

/-!
Reading handler parameters.

Values are joined by operators, follow one another in brackets, and are called; what
denotes no value is read all the same, so that it can be refused for what it is. Each
reader takes the longest part it can from the front of some tokens.

A text is read twice if it cannot be read: the second time a reader that gets stuck may
say what is wrong with what it sees.
-/

namespace Rulebook.Markup.Handler

/-! ### Faults -/

/-- What is wrong with a text of parameters. -/
inductive Fault where
  | lexical (fault : LexicalFault)
  | commaMissing
  | elseMissing
  /-- A statement is written in place of a call. -/
  | callMissing (name : String)
  /-- A name has a value assigned to it where values are compared. -/
  | assignedName
  | assigned (form : String)
  /-- A value has another one assigned to it and used. -/
  | assignedAndUsed (form : String)
  | assignedArgument
  | assignedConstant (name : String)
  | colonMissing
  | valueMissing
  | starredValue
  | starredAlone
  | doublyStarredAlone
  | starredNothing
  /-- An argument by place stands behind one by name, or behind a table of such. -/
  | placedLate (isBehindTable : Bool)
  | starredLate
  | mixedTexts
  | octetsBeyondAscii
  | unreadable
deriving DecidableEq

/-- The wording of a fault. -/
def Fault.message : Fault → String
  | .lexical fault => fault.message
  | .commaMissing => "invalid syntax. Perhaps you forgot a comma?"
  | .elseMissing => "expected 'else' after 'if' expression"
  | .callMissing name => s!"Missing parentheses in call to '{name}'. Did you mean {name}(...)?"
  | .assignedName => "invalid syntax. Maybe you meant '==' or ':=' instead of '='?"
  | .assigned form => s!"cannot assign to {form} here. Maybe you meant '==' instead of '='?"
  | .assignedAndUsed form => s!"cannot use assignment expressions with {form}"
  | .assignedArgument => "expression cannot contain assignment, perhaps you meant \"==\"?"
  | .assignedConstant name => s!"cannot assign to {name}"
  | .colonMissing => "':' expected after dictionary key"
  | .valueMissing => "expression expected after dictionary key and ':'"
  | .starredValue => "cannot use a starred expression in a dictionary value"
  | .starredAlone => "cannot use starred expression here"
  | .doublyStarredAlone => "cannot use double starred expression here"
  | .starredNothing => "Invalid star expression"
  | .placedLate false => "positional argument follows keyword argument"
  | .placedLate true => "positional argument follows keyword argument unpacking"
  | .starredLate => "iterable argument unpacking follows keyword argument unpacking"
  | .mixedTexts => "cannot mix bytes and nonbytes literals"
  | .octetsBeyondAscii => "bytes can only contain ASCII literal characters"
  | .unreadable => "invalid syntax"

/-! ### Readers -/

/-- A reader of the front of some tokens. It fails where it cannot read, the tokens
being left to another one, and a fault ends all reading. -/
abbrev Reader := StateT (List Token) (OptionT (Except Fault))

/-- End all reading with a fault. -/
def report {α : Type} (fault : Fault) : Reader α := fun _ => OptionT.mk (.error fault)

/-- How a reader reads. -/
structure Mode where
  /-- Whether it says what is wrong where it gets stuck. -/
  explains : Bool
  /-- Whether it reads inside brackets. -/
  inBrackets : Bool

/-- The first token, if there is one. -/
def next? : Reader (Option Token) := do
  match ← get with
  | [] => pure none
  | .stop fault :: _ => report (.lexical fault)
  | token :: _ => pure (some token)

/-- Whether a token is the first one. -/
def isNext (token : Token) : Reader Bool := do
  pure ((← next?) == some token)

/-- Read a token. -/
def take (token : Token) : Reader Unit := do
  if ← isNext token then modify List.tail else failure

/-- Read tokens of a class as long as there are any. -/
def takeAll (belongs : Token → Bool) : Reader (List Token) := do
  let tokens ← get
  set (tokens.dropWhile belongs)
  pure (tokens.takeWhile belongs)

/-- Whether something can be read, which is left where it is. -/
def ahead {α : Type} (read : Reader α) : Reader Bool := do
  let tokens ← get
  let found ← optional read
  set tokens
  pure found.isSome

/-- Words that are no names. -/
def keywords : List String :=
  [
    "False", "None", "True", "and", "as", "assert", "async", "await", "break", "class",
    "continue", "def", "del", "elif", "else", "except", "finally", "for", "from", "global",
    "if", "import", "in", "is", "lambda", "nonlocal", "not", "or", "pass", "raise",
    "return", "try", "while", "with", "yield"
  ]

/-- Keywords that are values. -/
def constants : List String := ["True", "False", "None"]

/-- Names that begin a statement in some places. -/
def softKeywords : List String := ["_", "case", "match"]

/-- Whether a word is taken for the beginning of a statement. The front of such a word
is, too. -/
def isSoftKeyword (word : String) : Bool :=
  softKeywords.any fun keyword => word.toList.isPrefixOf keyword.toList

/-- Names of statements that became calls. -/
def formerStatements : List String := ["exec", "print"]

/-- Whether a word is a name. -/
def isName (word : String) : Bool := !keywords.contains word

/-- Read a name. -/
def takeName : Reader String := do
  match ← next? with
  | some (.name word) =>
    if isName word then
      modify List.tail
      pure word
    else failure
  | _ => failure

/-! ### Operators -/

/-- Read an operator on numbers. -/
def arithmeticOperator : Reader Token := do
  match ← next? with
  | some (.sign s) =>
    if ["+", "-", "*", "/", "//", "%", "@", "**", "<<", ">>", "&", "|", "^"].contains s then
      modify List.tail
      pure (.sign s)
    else failure
  | _ => failure

/-- Two values joined by an operator on numbers. -/
def arithmeticJoin (operator : Token) (left right : Value) : Value :=
  if operator = .sign "+" ∨ operator = .sign "-" then .sum left right
  else .other "expression"

/-- Read a comparison. -/
def comparison : Reader Token := do
  match ← next? with
  | some (.name "not") => do
    modify List.tail
    take (.name "in")
    pure (.name "in")
  | some (.name "in") => do
    modify List.tail
    pure (.name "in")
  | some (.name "is") => do
    modify List.tail
    let _ ← optional (take (.name "not"))
    pure (.name "is")
  | some (.sign s) =>
    if ["==", "!=", "<", ">", "<=", ">="].contains s then
      modify List.tail
      pure (.sign s)
    else failure
  | _ => failure

/-- Read a connective. -/
def connective : Reader Token :=
  (do take (.name "and"); pure (.name "and")) <|> (do take (.name "or"); pure (.name "or"))

/-- Further values behind operators, joined to what stands on the left. -/
def joinedTo (operator : Reader Token) (read : Reader Value)
    (join : Token → Value → Value → Value) : (fuel : Nat) → Value → Reader Value
  | 0, left => pure left
  | fuel + 1, left => do
    let _ ← next?
    match ← optional (do pure (← operator, ← read)) with
    | some (sign, right) => joinedTo operator read join fuel (join sign left right)
    | none => pure left

/-- Values joined by operators, from the left. -/
def joined (operator : Reader Token) (read : Reader Value)
    (join : Token → Value → Value → Value) : Reader Value := do
  let left ← read
  joinedTo operator read join (← get).length left

/-! ### Items -/

/-- What stands behind a first item: commas with an item behind each, but for the last
comma. -/
def itemsBehind {α : Type} (read : Reader α) : (fuel : Nat) → Reader (List α)
  | 0 => pure []
  | fuel + 1 => do
    if ← isNext (.sign ",") then
      modify List.tail
      match ← optional read with
      | some item => do
        pure (item :: (← itemsBehind read fuel))
      | none => pure []
    else pure []

/-- Items behind a first one. -/
def moreItems {α : Type} (read : Reader α) : Reader (List α) := do
  itemsBehind read (← get).length

/-! ### Texts -/

/-- Read a text, which may be written in parts. -/
def texts : Reader Value := do
  let parts ← takeAll (· matches .text ..)
  let _ ← next?
  let kinds ← parts.filterMapM fun
    | .text .octets false => report .octetsBeyondAscii
    | .text kind _ => pure (some kind)
    | _ => pure none
  if kinds.contains .octets && kinds.any (· != .octets) then report .mixedTexts
  if kinds.contains .formatted then pure (.other "f-string expression") else pure .text

/-! ### Readers of a depth -/

/-- The readers of values and of items between commas, for as many brackets inside one
another as they can read. -/
structure Readers where
  value : Mode → Reader Value
  item : Mode → Reader Value

section Depth

variable (inner : Readers) (mode : Mode)

/-- The way to read inside brackets. -/
def Mode.inside : Mode := { mode with inBrackets := true }

/-! ### Calls -/

/-- How an argument is given. -/
inductive ArgumentKind where
  | placed
  | starred
  | named
  | doublyStarred
deriving DecidableEq

/-- Read a value behind a star. -/
def starred : Reader Unit := do
  take (.sign "*")
  match ← optional (inner.value mode.inside) with
  | some _ => pure ()
  | none => if mode.explains then report .starredNothing else failure

/-- Read an argument of a call. -/
def argument : Reader ArgumentKind := do
  match ← get with
  | .sign "*" :: _ => do
    starred inner mode
    pure .starred
  | .sign "**" :: rest => do
    set rest
    let _ ← inner.value mode.inside
    pure .doublyStarred
  | .name word :: .sign "=" :: rest => do
    if !isName word then
      if mode.explains && constants.contains word then report (.assignedConstant word)
      failure
    set rest
    let _ ← inner.value mode.inside
    pure .named
  | _ => do
    let _ ← inner.item mode.inside
    if ← isNext (.sign "=") then
      if mode.explains then report .assignedArgument
      failure
    pure .placed

/-- Read an argument behind others, which are given in these ways. -/
def nextArgument (before : List ArgumentKind) : Reader ArgumentKind := do
  if mode.explains && before.contains .doublyStarred && (← isNext (.sign "*")) then
    report .starredLate
  let kind ← argument inner mode
  let isLate := match kind with
    | .placed => before.contains .named || before.contains .doublyStarred
    | .starred => before.contains .doublyStarred
    | _ => false
  if isLate then
    if mode.explains then report (.placedLate (before.contains .doublyStarred))
    failure
  pure kind

/-- Read further arguments, a comma in front of each, and perhaps one behind them. -/
def argumentsBehind : (fuel : Nat) → (before : List ArgumentKind) → Reader Unit
  | 0, _ => pure ()
  | fuel + 1, before => do
    if ← isNext (.sign ",") then
      modify List.tail
      if let some kind ← optional (nextArgument inner mode before) then
        argumentsBehind fuel (kind :: before)

/-- Read arguments up to the bracket that closes them. -/
def arguments : Reader Unit := do
  if !(← isNext (.sign ")")) then
    let kind ← argument inner mode
    argumentsBehind inner mode (← get).length [kind]
  take (.sign ")")

/-- Read an attribute or the arguments of a call. -/
def use : Reader Value :=
  (do take (.sign "."); let _ ← takeName; pure (.other "attribute"))
    <|> (do take (.sign "("); arguments inner mode; pure (.other "function call"))

/-- Read attributes and calls of a value. -/
def uses : (fuel : Nat) → Value → Reader Value
  | 0, value => pure value
  | fuel + 1, value => do
    match ← optional (use inner mode) with
    | some value => uses fuel value
    | none => pure value

/-! ### Brackets -/

/-- Read a value in round brackets, or a tuple. -/
def group : Reader Value := do
  take (.sign "(")
  if ← isNext (.sign ")") then
    modify List.tail
    return .tuple []
  let isStarred ← isNext (.sign "*")
  if mode.explains then
    if isStarred && (← ahead (do starred inner mode; take (.sign ")"))) then
      report .starredAlone
    if ← ahead (do take (.sign "**"); let _ ← inner.value mode.inside; take (.sign ")")) then
      report .doublyStarredAlone
  let first ← inner.item mode.inside
  let isTuple ← isNext (.sign ",")
  let items ← moreItems (inner.item mode.inside)
  take (.sign ")")
  if isTuple then pure (.tuple (first :: items))
  else if isStarred then failure
  else pure first

/-- Read the value of a key behind its colon. -/
def valueOfKey : Reader Value := do
  take (.sign ":")
  if (← isNext (.sign ",")) || (← isNext (.sign "\x7d")) then report .valueMissing
  if ← ahead (do take (.sign "*"); inner.value mode.inside) then report .starredValue
  inner.value mode.inside

/-- Read a key and its value, or a table whose members are taken over, behind other
members of a table. -/
def member : Reader (Option Value × Value) := do
  if ← isNext (.sign "**") then
    modify List.tail
    pure (none, ← inner.value mode.inside)
  else
    let key ← inner.value mode.inside
    if !(← isNext (.sign ":")) then report .colonMissing
    pure (some key, ← valueOfKey inner mode)

/-- Read a set or a table. -/
def braces : Reader Value := do
  take (.sign "\x7b")
  if ← isNext (.sign "\x7d") then
    modify List.tail
    return .table []
  if ← isNext (.sign "**") then
    let first ← member inner mode
    let members ← moreItems (member inner mode)
    take (.sign "\x7d")
    return .table (first :: members)
  let isStarred ← isNext (.sign "*")
  if mode.explains then
    let _ ← ahead (starred inner mode)
  let first ← inner.item mode.inside
  if !isStarred && (← isNext (.sign ":")) then
    let first := (some first, ← valueOfKey inner mode)
    let members ← moreItems (member inner mode)
    take (.sign "\x7d")
    pure (.table (first :: members))
  else
    let items ← moreItems (inner.item mode.inside)
    take (.sign "\x7d")
    pure (.set (first :: items))

/-! ### Operands -/

/-- Read a single value. -/
def atom : Reader Value := do
  match ← get with
  | .number isImaginary :: rest => do
    set rest
    pure (.number isImaginary)
  | .text .. :: _ => texts
  | .sign "..." :: rest => do
    set rest
    pure (.constant "ellipsis")
  | .sign "(" :: _ => group inner mode
  | .sign "\x7b" :: _ => braces inner mode
  | .name "set" :: .sign "(" :: .sign ")" :: rest => do
    set rest
    pure .emptySet
  | .name word :: rest =>
    if constants.contains word then
      set rest
      pure (.constant word)
    else do
      let _ ← takeName
      pure (.other "name")
  | _ => failure

/-- Whether a token may stand in front of an operand. -/
def isFrontSign (token : Token) : Bool :=
  [.sign "+", .sign "-", .sign "~", .name "await"].contains token

/-- A value behind a sign. -/
def frontJoin (sign : Token) (value : Value) : Value :=
  if sign = .sign "+" ∨ sign = .sign "-" then .signed value
  else if sign = .sign "~" then .other "expression"
  else .other "await expression"

/-- Read a single value with signs in front of it, and with its uses. -/
def operand : Reader Value := do
  let signs ← takeAll isFrontSign
  let _ ← next?
  let value ← atom inner mode
  let used ← uses inner mode (← get).length value
  let _ ← next?
  pure (signs.foldr frontJoin used)

/-- Read operands joined by operators on numbers. -/
def arithmetic : Reader Value := joined arithmeticOperator (operand inner mode) arithmeticJoin

/-- Read a comparison, perhaps negated. -/
def condition : Reader Value := do
  let negations ← takeAll (· == .name "not")
  let value ← joined comparison (arithmetic inner mode) fun _ _ _ => .other "comparison"
  pure (if negations.isEmpty then value else .other "expression")

/-- Read comparisons joined by connectives. -/
def disjunction : Reader Value :=
  joined connective (condition inner mode) fun _ _ _ => .other "expression"

/-! ### Values -/

/-- Whether another value may stand behind one without a comma between them, since the
first word may begin a statement. -/
def mayBeginStatement : List Token → Bool
  | .name word :: .text .. :: _ => isName word
  | .name word :: _ => isName word && isSoftKeyword word
  | _ => false

/-- Say what is wrong where a value, which stands at the front of `tokens`, is followed
by another one. -/
def explainComma (tokens : List Token) : Reader Unit := do
  let rest ← get
  let isStatement := match tokens with
    | .name word :: behind =>
      formerStatements.contains word && behind.length == rest.length
    | _ => false
  let explains ← isNext (.sign "\x7b")
  if !mayBeginStatement tokens then
    let follows ← ahead (inner.value { mode with explains })
    if follows && mode.inBrackets && !isStatement then report .commaMissing

/-- Say what is wrong where a value follows a word at the front of `tokens` that may
begin a statement. -/
def explainStatement (tokens : List Token) : Reader Unit := do
  let rest ← get
  match tokens with
  | .name word :: behind =>
    let isFormer := formerStatements.contains word
    if (isFormer || mayBeginStatement tokens) && behind.head? != some (.sign "(") then
      set behind
      let follows ← ahead (inner.value mode)
      if follows && isFormer then report (.callMissing word)
      set rest
  | _ => pure ()

/-- Read a condition behind the word `if`, and a value behind the word `else`. -/
def otherwise : Reader Value := do
  take (.name "if")
  let _ ← disjunction inner mode
  if mode.explains && !(← isNext (.name "else")) && !(← isNext (.sign ":")) then
    report .elseMissing
  take (.name "else")
  let _ ← inner.value mode
  pure (.other "conditional expression")

/-- Read a value, perhaps one of two by a condition. -/
def value : Reader Value := do
  let tokens ← get
  let first ← disjunction inner mode
  let _ ← next?
  if mode.explains then
    explainComma inner mode tokens
    explainStatement inner mode tokens
  otherwise inner mode <|> pure first

/-! ### Items -/

/-- Whether a value is one that assigning to goes unexplained. -/
def isUnexplained : Value → Bool
  | .tuple _ => true
  | .constant name => constants.contains name
  | _ => false

/-- Say what is wrong where another value is assigned to a value. Both stand at the
front. -/
def explainAssignment : Reader Unit := do
  let isNamed := match ← get with
    | .name word :: .sign "=" :: _ => isName word
    | _ => false
  let left ← arithmetic inner mode
  take (.sign "=")
  let _ ← arithmetic inner mode
  if (← isNext (.sign "=")) || (← isNext (.sign ":=")) then failure
  if isNamed then report .assignedName
  if !isUnexplained left then report (.assigned left.form)

/-- Read an item between commas: a value, one that is given a name, or one whose items
are taken over. -/
def item : Reader Value := do
  if ← isNext (.sign "*") then
    modify List.tail
    let _ ← arithmetic inner mode
    return .other "starred"
  let tokens ← get
  let first ← value inner mode
  if ← isNext (.sign ":=") then
    let isNamed := tokens.length == (← get).length + 1 && first.form == "name"
    modify List.tail
    let _ ← inner.value mode
    if isNamed then return .other "named expression"
    if mode.explains then report (.assignedAndUsed first.form)
    failure
  if mode.explains && (← isNext (.sign "=")) then
    let rest ← get
    set tokens
    let _ ← ahead (explainAssignment inner mode)
    set rest
  pure first

end Depth

/-- The readers of at most some brackets inside one another. -/
def readers : (depth : Nat) → Readers
  | 0 => ⟨fun _ => failure, fun _ => failure⟩
  | depth + 1 => ⟨value (readers depth), item (readers depth)⟩

/-! ### Texts of parameters -/

/-- Read all tokens: a value, or a tuple without brackets. -/
def whole (explains : Bool) : Reader Value := do
  let read := (readers ((← get).length + 1)).value ⟨explains, false⟩
  let first ← read
  let isTuple ← isNext (.sign ",")
  let items ← moreItems read
  if (← next?).isSome then failure
  pure (if isTuple then .tuple (first :: items) else first)

/-- What a text denotes. -/
def read (cs : List Char) : Except Fault Value := do
  let tokens ← (tokens cs).mapError .lexical
  match ← (whole false).run' tokens with
  | some value => pure value
  | none =>
    let _ ← (whole true).run' tokens
    throw .unreadable

end Rulebook.Markup.Handler
