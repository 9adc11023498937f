import Rulebook.Command

/-!
The program: a command line run on the disk.
-/

namespace Rulebook.Program

/-- Whether a refusal of the operating system has a number. Some calls give the number
itself, others its negation. -/
def isNumbered (number code : UInt32) : Bool := code == number || code + number == 0

/-- The fault that a refusal of the operating system is. -/
def faultOf : IO.Error → FileFault
  | .noFileOrDirectory _ _ _ => .missing
  | .alreadyExists _ _ _ => .exists
  | .permissionDenied _ _ _ => .denied
  | .inappropriateType _ code details =>
    if isNumbered 20 code then .notFolder
    else if isNumbered 21 code then .isFolder
    else .other details
  | .invalidArgument _ code details =>
    if isNumbered 36 code then .nameTooLong else .other details
  | error => .other (toString error)

/-- Try something with a file. -/
def attempt {α : Type} (path : PathName) (action : IO α) : IO (Except FileError α) := do
  if path.isSpeakable then
    match ← action.toBaseIO with
    | .ok value => pure (.ok value)
    | .error error => pure (.error ⟨faultOf error, path⟩)
  else pure (.error ⟨.notAName, path⟩)

/-- The octets of a file. -/
def readFile (path : PathName) : IO (Except FileError (List UInt8)) :=
  attempt path do
    let bytes ← IO.FS.readBinFile path.text
    pure bytes.toList

/-- Make a folder and those on the way to it. -/
def haveFolders (path : PathName) : IO (Except FileError Unit) :=
  attempt path (IO.FS.createDirAll path.text)

/-- Write a file. -/
def writeFile (path : PathName) (octets : List UInt8) : IO (Except FileError Unit) :=
  attempt path (IO.FS.writeBinFile path.text ⟨octets.toArray⟩)

/-- The host that runs on the disk. -/
def disk : Command.Host IO where
  machine := .standard
  folder := do pure (.parse (toString (← IO.currentDir)))
  isFile path := do
    match ← readFile path with
    | .ok _ => pure true
    | .error _ => pure false
  read := readFile
  haveFolders := haveFolders
  write := writeFile
  print channel text := do
    match channel with
    | .results => IO.print text
    | .news => IO.eprint text

end Rulebook.Program

open Rulebook in
/-- Run a command line; the exit code says how it ended. -/
def main (arguments : List String) : IO UInt32 := do
  let ending ← Command.run Program.disk arguments
  match ending with
  | .error .misused => IO.eprintln "Usage: rulebook [eval|check|show|expr|schema] ..."
  | .error (.crashed cause) => IO.eprintln cause.message
  | _ => pure ()
  pure (Command.exitCode ending).toUInt32
