import Rulebook.Command.Arguments
import Rulebook.Command.Integer
import Rulebook.PathName

/-!
What a command line asks for.

`Request.ofArguments` reads the arguments: switches for all commands, the name of a
command, and the switches and operands of that command. It gives nothing for
arguments that cannot be understood.
-/

namespace Rulebook.Command

/-! ### Requests -/

/-- Where input values come from: a file, and assignments given by hand. -/
structure Source where
  inputs : Option PathName
  assignments : List String

/-- What a command line asks for. -/
inductive Request where
  /-- Evaluate a scope, print its results and write them to a file. -/
  | evaluate (scope : Option PathName) (source : Source) (maxDepth : Option Int)
      (asJson : Bool) (output : Option PathName)
  /-- Report the problems of a scope. -/
  | check (scope : Option PathName)
  /-- Draw a scope, with the arms taken if there are input values. -/
  | draw (scope : Option PathName) (source : Source) (maxDepth : Option Int)
  /-- Evaluate one expression, and draw it if asked to. -/
  | calculate (text : String) (assignments : List String) (maxDepth : Option Int)
      (asTree : Bool)
  /-- Print the schema of scope documents or write it to a file. -/
  | schema (output : Option PathName) (indent : Int)

/-- The switches of all commands. -/
inductive Key where
  | verbose
  | inputs
  | assignment
  | output
  | asJson
  | maxDepth
  | asTree
  | indent
deriving DecidableEq

/-- The spellings of a switch, and whether it takes a value. -/
def Key.switch : Key → Switch Key
  | .verbose => ⟨.verbose, ["--verbose", "--no-verbose"], false⟩
  | .inputs => ⟨.inputs, ["-i", "--inputs"], true⟩
  | .assignment => ⟨.assignment, ["--set"], true⟩
  | .output => ⟨.output, ["-o", "--output"], true⟩
  | .asJson => ⟨.asJson, ["--json"], false⟩
  | .maxDepth => ⟨.maxDepth, ["--max-depth"], true⟩
  | .asTree => ⟨.asTree, ["--tree"], false⟩
  | .indent => ⟨.indent, ["--indent"], true⟩

namespace Request

/-- The only operand, or none. -/
def optionalOperand : List String → Option (Option String)
  | [] => some none
  | [operand] => some (some operand)
  | _ => none

/-- The path name that a text spells, if there is a text; no file has a name with the
null character. -/
def path? : Option String → Option (Option PathName)
  | none => some none
  | some text =>
    if (PathName.parse text).isSpeakable then some (some (.parse text)) else none

/-- The path name that the only operand spells, if there is one. -/
def scopeOperand (given : Given Key) : Option (Option PathName) :=
  (optionalOperand given.operands).bind path?

/-- The path name that is the value of a switch. -/
def pathValue (given : Given Key) (key : Key) : Option (Option PathName) :=
  path? (given.value? key)

/-- The depth limit, which must be a positive integer. -/
def depthValue (given : Given Key) : Option (Option Int) :=
  match given.value? .maxDepth with
  | none => some none
  | some text => ((integer? text).filter (1 ≤ ·)).map some

/-- The indentation, two by default. -/
def indentValue (given : Given Key) : Option Int :=
  match given.value? .indent with
  | none => some 2
  | some text => integer? text

/-- The source of input values. -/
def sourceOf (given : Given Key) : Option Source :=
  (pathValue given .inputs).map fun inputs => ⟨inputs, given.values .assignment⟩

/-- Read the arguments of a command that takes some switches. -/
def readFor (keys : List Key) (arguments : List String) : Option (Given Key) :=
  readArguments (keys.map (·.switch)) true arguments

/-- Read the arguments of a command. -/
def ofCommand (command : String) (arguments : List String) : Option Request :=
  match command with
  | "eval" => do
    let given ← readFor [.inputs, .assignment, .output, .asJson, .maxDepth] arguments
    pure (.evaluate (← scopeOperand given) (← sourceOf given) (← depthValue given)
      (given.has .asJson) (← pathValue given .output))
  | "check" => do
    let given ← readFor [] arguments
    pure (.check (← scopeOperand given))
  | "show" => do
    let given ← readFor [.inputs, .assignment, .maxDepth] arguments
    pure (.draw (← scopeOperand given) (← sourceOf given) (← depthValue given))
  | "expr" => do
    let given ← readFor [.assignment, .maxDepth, .asTree] arguments
    let text ← (← optionalOperand given.operands)
    pure (.calculate text (given.values .assignment) (← depthValue given) (given.has .asTree))
  | "schema" => do
    let given ← readFor [.output, .indent] arguments
    if given.operands.isEmpty then
      pure (.schema (← pathValue given .output) (← indentValue given))
    else none
  | _ => none

/-- Read the arguments of a command line. -/
def ofArguments (arguments : List String) : Option Request := do
  let given ← readArguments [Key.verbose.switch] false arguments
  match given.operands with
  | [] => none
  | command :: rest => ofCommand command rest

end Request

end Rulebook.Command
