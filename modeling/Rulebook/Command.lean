import Rulebook.Command.Host
import Rulebook.Command.Request
import Rulebook.Config
import Rulebook.Display.Table
import Rulebook.Expr.Encoding
import Rulebook.Input
import Rulebook.Input.File
import Rulebook.Results
import Rulebook.Scope.Check
import Rulebook.Scope.Evaluation
import Rulebook.Scope.Schema

/-!
The commands: evaluate, check and draw a scope, evaluate one expression, and print
the schema of scope documents.

What the command line leaves open is taken from the configuration of the project.
Values given by hand win over those of a file.
-/

namespace Rulebook.Command

/-! ### Why commands stop -/

/-- A document is at fault. That the part of it to be shown has no text is not provided
for. -/
def stopOfDecode (error : DecodeError) : Stop :=
  match error.fault.refusal? with
  | none => .failed error.message
  | some refusal => .crashed (.notWritten (.refused refusal))

/-- A text that the project's files or the command line hold is at fault; anything
else about a file is not provided for. -/
def stopOfContent : ContentError → Stop
  | .decode error => stopOfDecode error
  | .tooManyDigits count => .crashed (.tooManyDigits count)
  | .notText error => .crashed (.notText error)
  | .tooDeep container => .crashed (.tooDeep container)
  | .tomlTooDeep => .crashed .tomlTooDeep

/-- A file to be read cannot be had. That its name is none is not provided for. -/
def stopOfFile (error : FileError) : Stop :=
  if error.fault = .notAName then .crashed (.file error) else .failed error.message

/-- A text that the command line holds is at fault, or has too long an integer. -/
def stopOfLoad (error : LoadError) : Stop := stopOfContent (.ofLoad error)

/-- Whether a configuration that cannot be had is provided for. -/
def stopOfConfig : ConfigFailure → Stop
  | .config error => .failed error.message
  | .toolNotTable typeName => .crashed (.toolNotTable typeName)
  | .tooManyDigits count => .crashed (.tooManyDigits count)
  | .integerTooLong => .crashed .integerTooLong
  | .notText error => .crashed (.notText error)
  | .tooDeep => .crashed .tomlTooDeep

section Commands

variable {m : Type → Type} [Monad m] (host : Host m)

/-! ### Printing -/

/-- The width of a terminal. -/
def terminalWidth : Nat := 240

/-- Print a line with markup. That its tags do not fit together is not provided for. -/
def printLine (channel : Channel) (line : String) : Action m Unit :=
  match Markup.fault? line with
  | some fault => throw (.crashed (.markup fault))
  | none => host.print channel (Display.shown terminalWidth line)

/-- Tell what is done with a file. -/
def announce (what : String) (path : PathName) : Action m Unit :=
  printLine host .news (Markup.styled "cyan" (what ++ ":") ++ " " ++ path.text)

/-! ### Files -/

/-- The configuration of the project around the folder one works in. -/
def loadConfig : Action m Config := do
  let folder ← host.folder
  match ← host.firstFile (Config.candidates folder) with
  | none => pure (Config.empty none)
  | some file => do
    let octets ← orStop (fun error => .crashed (.file error)) (← host.read file)
    orStop stopOfConfig (Config.ofFile host.machine file octets)

/-- The scope in the given file, or else in the configured one. -/
def loadScope (config : Config) (given : Option PathName) : Action m Scope := do
  match given <|> config.scope with
  | none => throw (.failed "No scope file given and no [tool.pluraal].scope configured")
  | some path => do
    let octets ← orStop stopOfFile (← host.read path)
    orStop stopOfContent (Scope.ofFile host.machine octets)

/-- The context of the values in a file, if there is one. -/
def loadInputs : Option PathName → Action m Context
  | none => pure []
  | some path => do
    announce host "Loading inputs from" path
    let octets ← orStop stopOfFile (← host.read path)
    let values ← orStop stopOfContent (Input.readValues host.machine path octets)
    orStop stopOfDecode (Context.ofValues host.machine values)

/-- Make the folders on the way to a file. -/
def makeWay (path : PathName) : Action m Unit := do
  orStop (fun error => .crashed (.file error)) (← host.haveFolders path.parent)

/-- Write a file. -/
def writeFile (path : PathName) (text : String) : Action m Unit := do
  orStop (fun error => .crashed (.file error)) (← host.write path (Text.encodeUtf8 text))

/-- Stop because something is not written. -/
def notWritten (fault : WriteFault) : Stop := .crashed (.notWritten fault)

/-- Write results to a file, as far as they are written. -/
def exportResults (path : PathName) (results : List (String × Expr)) : Action m Unit := do
  let exported := Results.exported host.machine path results
  exported.content.forM (writeFile host path)
  exported.fault.forM fun fault => throw (notWritten fault)

/-! ### Contexts -/

/-- A name and its value, as assigned by hand. -/
def readAssignment (text : String) : Option (String × String) :=
  match splitValue text with
  | (name, some value) =>
    let name := Text.strip Text.isBlank name.toList
    if name.isEmpty then none else some (String.ofList name, value)
  | (_, none) => none

/-- Names and their values, as assigned by hand; the last value of a name counts. -/
def readAssignments (texts : List String) : Action m (List (String × String)) :=
  match texts.mapM readAssignment with
  | some assigned => pure (Members.ofList assigned)
  | none => throw .misused

/-- The context of a source for a scope. -/
def scopeContext (scope : Scope) (inputs : Option PathName) (assignments : List String) :
    Action m Context := do
  let context ← loadInputs host inputs
  let assigned ← readAssignments assignments
  let given ← orStop (fun error => .failed error.message) (Context.ofRaw scope assigned)
  pure (Members.putAll context given)

/-- The context of assigned expressions. -/
def assignedContext (machine : Machine) : List (String × String) → Except LoadError Context
  | [] => .ok []
  | (name, text) :: rest => do
    let e ← Expr.ofJson machine text
    let others ← assignedContext machine rest
    pure ((name, e) :: others)

/-! ### Commands -/

/-- Evaluate a scope, print its results and write them to a file. -/
def evaluateScope (scope : Option PathName) (source : Source) (maxDepth : Option Int)
    (asJson : Bool) (output : Option PathName) : Action m Unit := do
  let config ← loadConfig host
  let scope ← loadScope host config scope
  let context ← scopeContext host scope (source.inputs <|> config.inputs) source.assignments
  let run := scope.evaluate context (maxDepth.getD config.maxDepth)
  let results ← orStop (fun (error : ScopeError) => .failed error.message) run.outcome
  if asJson then
    let text ← orStop notWritten (Results.toJson host.machine results)
    host.print .results (text ++ "\n")
  else
    host.print .results (Display.results terminalWidth results)
  match output <|> config.output with
  | none => pure ()
  | some path => do
    announce host "Exporting results to" path
    makeWay host path
    exportResults host path results

/-- Count what a scope has, and report its problems. -/
def checkScope (scope : Option PathName) : Action m Unit := do
  let config ← loadConfig host
  let scope ← loadScope host config scope
  host.print .news (Display.framed terminalWidth "Scope"
    (s!"{scope.inputs.length} input(s), {scope.calculations.length} calculation(s), " ++
      s!"{scope.outputs.length} output(s)"))
  match scope.warnings with
  | [] => printLine host .news (Markup.styled "green" "✓ Scope is valid")
  | warnings => do
    printLine host .news (Markup.styled "yellow" s!"⚠ {warnings.length} warning(s):")
    warnings.forM fun warning =>
      printLine host .news
        ("  " ++ Markup.styled "yellow" "•" ++ " " ++ Markup.escape warning.message)
    throw .warned

/-- Print the drawing of a scope with the selections in a trace. -/
def printScope (scope : Scope) (trace : Trace ScopeOrigin) : Action m Unit :=
  host.print .results (Display.drawing terminalWidth
    (Display.scopeTree (fun name => Display.selectionsIn trace (.calculation name)) scope))

/-- Draw a scope, and print its results if there are input values. -/
def drawScope (scope : Option PathName) (source : Source) (maxDepth : Option Int) :
    Action m Unit := do
  let config ← loadConfig host
  let scope ← loadScope host config scope
  let inputs := source.inputs <|> config.inputs
  if inputs.isNone ∧ source.assignments.isEmpty then printScope host scope []
  else
    let context ← tryCatch (scopeContext host scope inputs source.assignments) fun stop => do
      if stop.isFailure then printScope host scope []
      throw stop
    let run := scope.evaluate context (maxDepth.getD config.maxDepth)
    printScope host scope run.decisions
    let results ← orStop (fun (error : ScopeError) => .failed error.message) run.outcome
    host.print .results (Display.results terminalWidth results)

/-- Evaluate one expression, and draw it if asked to. -/
def calculate (text : String) (assignments : List String) (maxDepth : Option Int)
    (asTree : Bool) : Action m Unit := do
  let config ← loadConfig host
  let e ← orStop stopOfLoad (Expr.ofJson host.machine text)
  let assigned ← readAssignments assignments
  let context ← orStop stopOfLoad (assignedContext host.machine assigned)
  let run := evaluate context (maxDepth.getD config.maxDepth) e
  let value ← orStop (fun (error : EvalError) => .failed error.message) run.outcome
  if asTree then
    host.print .results (Display.drawing terminalWidth
      (Display.titledTree "expression" (Display.selectionsIn run.decisions .subject) e))
  printLine host .results (Expr.literal value).summary

/-- Print the schema of scope documents or write it to a file, which is made before its
text is. -/
def printSchema (output : Option PathName) (indent : Int) : Action m Unit := do
  let text := host.machine.writeJson (some indent) Scope.schema
  match output with
  | none => host.print .results ((← orStop notWritten text) ++ "\n")
  | some path => do
    announce host "Writing schema to" path
    makeWay host path
    writeFile host path (text.toOption.getD "")
    let _ ← orStop notWritten text
    printLine host .news (Markup.styled "green" "✓ Schema generation complete")

/-- Do what is asked for. -/
def perform : Request → Action m Unit
  | .evaluate scope source maxDepth asJson output =>
    evaluateScope host scope source maxDepth asJson output
  | .check scope => checkScope host scope
  | .draw scope source maxDepth => drawScope host scope source maxDepth
  | .calculate text assignments maxDepth asTree =>
    calculate host text assignments maxDepth asTree
  | .schema output indent => printSchema host output indent

/-- Run a command line, and say why it failed if it did. -/
def run (arguments : List String) : m (Except Stop Unit) := do
  match Request.ofArguments arguments with
  | none => pure (.error .misused)
  | some request => do
    let ending ← (perform host request).run
    match ending with
    | .error (.failed message) =>
      host.print .news
        (Display.shown terminalWidth (Markup.styled "red" ("✗ " ++ Markup.escape message)))
    | _ => pure ()
    pure ending

end Commands

end Rulebook.Command
