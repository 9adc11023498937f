import Rulebook.Json.Lexeme
import Rulebook.Members
import Rulebook.Text.Place

/-!
Reading JSON text.

The lexemes of a text drive a reader that keeps the containers it is inside of
and knows what may come next (`State`, `step`). The first lexeme that may not
come decides the error: its own obstacle where a value was due, the missing
mark where one was. `parse` is the reading of a whole text. How many containers may be
open at once is the reader's room.
-/

namespace Rulebook.Json

/-- A container still open, with the items read so far, latest first, or the
members so far and the name whose value is being read. -/
inductive Frame where
  | array (items : List Data)
  | object (members : List (String × Data)) (name : String)

/-- What the reader expects next, inside the open containers, innermost first. -/
inductive State where
  /-- A value. -/
  | value (frames : List Frame)
  /-- A value or the end of the array just opened. -/
  | arrayStart (frames : List Frame)
  /-- A name or the end of the object just opened. -/
  | objectStart (frames : List Frame)
  /-- A name, after a comma. -/
  | name (members : List (String × Data)) (frames : List Frame)
  /-- The colon after a name. -/
  | colon (members : List (String × Data)) (name : String) (frames : List Frame)
  /-- A comma or the end of the innermost container, after a value; the end of
  the text if no container is open. -/
  | after (value : Data) (frames : List Frame)

/-- The kinds of container. -/
inductive Container where
  | array
  | object
deriving DecidableEq

/-- Why a text is no value. -/
inductive Stop where
  | obstacle (cause : Obstacle)
  /-- Too many containers are open at once. -/
  | tooDeep (container : Container)
deriving DecidableEq

/-- A fault at the text that starts with `rest`. -/
def Stop.fault (fault : Fault) (rest : List Char) : Stop :=
  .obstacle (.fault fault rest)

/-- Start a value: a scalar is complete at once, a container is opened if there is room
for one more. -/
def startValue (room : Nat) (lexeme : Lexeme) (cs : List Char) (frames : List Frame) :
    Except Stop State :=
  match lexeme with
  | .string s => .ok (.after (.string s) frames)
  | .scalar v => .ok (.after v frames)
  | .arrayOpen =>
    if room ≤ frames.length then .error (.tooDeep .array) else .ok (.arrayStart frames)
  | .objectOpen =>
    if room ≤ frames.length then .error (.tooDeep .object) else .ok (.objectStart frames)
  | .obstacle cause => .error (.obstacle cause)
  | _ => .error (.fault .valueExpected cs)

/-- Take the name of a member; anything but a string is refused. -/
def startMember (members : List (String × Data)) (lexeme : Lexeme) (cs : List Char)
    (frames : List Frame) : Except Stop State :=
  match lexeme, cs with
  | .string s, _ => .ok (.colon members s frames)
  | .obstacle cause, '"' :: _ => .error (.obstacle cause)
  | _, _ => .error (.fault .nameExpected cs)

/-- Go on after a value. -/
def continueAfter (value : Data) (lexeme : Lexeme) (cs : List Char) :
    (frames : List Frame) → Except Stop State
  | [] => .error (.fault .extraData cs)
  | .array items :: outer =>
    match lexeme with
    | .comma => .ok (.value (.array (value :: items) :: outer))
    | .arrayClose => .ok (.after (.array (value :: items).reverse) outer)
    | _ => .error (.fault .commaExpected cs)
  | .object members name :: outer =>
    match lexeme with
    | .comma => .ok (.name (Members.put members name value) outer)
    | .objectClose => .ok (.after (.object (Members.put members name value)) outer)
    | _ => .error (.fault .commaExpected cs)

/-- Take one lexeme, which `cs` starts with. -/
def step (room : Nat) (state : State) (lexeme : Lexeme) (cs : List Char) : Except Stop State :=
  match state with
  | .value frames => startValue room lexeme cs frames
  | .arrayStart frames =>
    match lexeme with
    | .arrayClose => .ok (.after (.array []) frames)
    | _ => startValue room lexeme cs (.array [] :: frames)
  | .objectStart frames =>
    match lexeme with
    | .objectClose => .ok (.after (.object []) frames)
    | _ => startMember [] lexeme cs frames
  | .name members frames => startMember members lexeme cs frames
  | .colon members name frames =>
    match lexeme with
    | .colon => .ok (.value (.object members name :: frames))
    | _ => .error (.fault .colonExpected cs)
  | .after value frames => continueAfter value lexeme cs frames

/-- Take all lexemes. -/
def run (room : Nat) (state : State) : List (Lexeme × List Char) → Except Stop State
  | [] => .ok state
  | (lexeme, cs) :: rest => do run room (← step room state lexeme cs) rest

/-- The value read when the text ends. -/
def finish : State → Except Stop Data
  | .after value [] => .ok value
  | .after _ (_ :: _) => .error (.fault .commaExpected [])
  | .value _ | .arrayStart _ => .error (.fault .valueExpected [])
  | .objectStart _ | .name _ _ => .error (.fault .nameExpected [])
  | .colon _ _ _ => .error (.fault .colonExpected [])

/-- Read a text as one value. -/
def read (room : Nat) (cs : List Char) : Except Stop Data :=
  match cs with
  | '\ufeff' :: _ => .error (.fault .byteOrderMark cs)
  | _ => do finish (← run room (.value []) (lexemes cs))

/-! ### Texts -/

/-- Why a text cannot be parsed. -/
inductive Error where
  | malformed (fault : Fault) (place : Text.Place)
  | tooManyDigits (count : Nat)
  | tooDeep (container : Container)
deriving DecidableEq

/-- Place a stop in the text it was met in. -/
def Error.ofStop (cs : List Char) : Stop → Error
  | .obstacle (.fault fault rest) => .malformed fault (.ofRest cs rest)
  | .obstacle (.tooManyDigits count) => .tooManyDigits count
  | .tooDeep container => .tooDeep container

/-- Parse a text as one value. -/
def parse (room : Nat) (text : String) : Except Error Data :=
  let cs := text.toList
  match read room cs with
  | .ok value => .ok value
  | .error stop => .error (.ofStop cs stop)

/-- The wording of the limit on open containers. -/
def tooDeepMessage : Container → String
  | .array => "maximum recursion depth exceeded while decoding a JSON array from a unicode string"
  | .object => "maximum recursion depth exceeded while decoding a JSON object from a unicode string"

end Rulebook.Json
