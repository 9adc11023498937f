import Rulebook.Config
import Rulebook.Disk
import Rulebook.Input.File
import Rulebook.Markup

/-!
What a command can do to the world around it, and how it can end.

A command is written against a `Host`, so the same definition runs on a real disk and
is rehearsed on a `Disk` value.
-/

namespace Rulebook.Command

/-- Where a text is printed: results, or news about the run. -/
inductive Channel where
  | results
  | news
deriving DecidableEq

/-- What a command can do. -/
structure Host (m : Type → Type) where
  machine : Machine
  folder : m PathName
  isFile : PathName → m Bool
  read : PathName → m (Except FileError (List UInt8))
  /-- Make a folder and those on the way to it, unless they are there. -/
  haveFolders : PathName → m (Except FileError Unit)
  write : PathName → List UInt8 → m (Except FileError Unit)
  print : Channel → String → m Unit

/-- What no command provides for. -/
inductive Crash where
  | file (error : FileError)
  | notText (error : Text.Utf8Error)
  | tooManyDigits (count : Nat)
  | integerTooLong
  | tooDeep (container : Json.Container)
  | tomlTooDeep
  | toolNotTable (typeName : String)
  | notWritten (fault : WriteFault)
  | markup (fault : Markup.Fault)

/-- The wording of what is not provided for. -/
def Crash.message : Crash → String
  | .file error => error.message
  | .notText error => error.message
  | .tooManyDigits count => Data.tooManyDigitsMessage count
  | .integerTooLong => Data.integerTooLongMessage
  | .tooDeep container => Json.tooDeepMessage container
  | .tomlTooDeep => Toml.tooDeepMessage
  | .toolNotTable typeName => toolNotTableMessage typeName
  | .notWritten fault => fault.message
  | .markup fault => fault.message

/-- Why a command ends early. -/
inductive Stop where
  /-- It fails, and says why. -/
  | failed (message : String)
  /-- It found problems, and has said which. -/
  | warned
  /-- Its arguments cannot be understood. -/
  | misused
  /-- It meets something that no command provides for. -/
  | crashed (cause : Crash)

/-- Whether a command fails and says why. -/
def Stop.isFailure : Stop → Bool
  | .failed _ => true
  | _ => false

/-- The exit code of a command that ended in this way. -/
def exitCode : Except Stop Unit → UInt8
  | .ok () => 0
  | .error .misused => 2
  | .error _ => 1

/-- An action of a command. -/
abbrev Action (m : Type → Type) (α : Type) := ExceptT Stop m α

/-- Go on with a value, or stop for a reason. -/
def orStop {m : Type → Type} [Monad m] {ε α : Type} (reason : ε → Stop) :
    Except ε α → Action m α
  | .ok value => pure value
  | .error error => throw (reason error)

/-- The first of some path names that leads to a file. -/
def Host.firstFile {m : Type → Type} [Monad m] (host : Host m) :
    List PathName → m (Option PathName)
  | [] => pure none
  | path :: rest => do
    if ← host.isFile path then pure (some path) else host.firstFile rest

/-! ### Rehearsal -/

/-- A disk with all that was printed. -/
structure Stage where
  disk : Disk
  results : String
  news : String

/-- Go on with a changed disk. -/
def Stage.take : Except FileError Disk → StateM Stage (Except FileError Unit)
  | .ok disk => do
    modify fun stage => { stage with disk := disk }
    pure (.ok ())
  | .error error => pure (.error error)

/-- The host that rehearses on a disk value. -/
def rehearsal (machine : Machine) : Host (StateM Stage) where
  machine := machine
  folder := do pure ⟨"/", (← get).disk.place⟩
  isFile path := do pure ((← get).disk.isFile path)
  read path := do pure ((← get).disk.read path)
  haveFolders path := do Stage.take ((← get).disk.haveFolders path)
  write path octets := do Stage.take ((← get).disk.write path octets)
  print channel text :=
    modify fun stage =>
      match channel with
      | .results => { stage with results := stage.results ++ text }
      | .news => { stage with news := stage.news ++ text }

end Rulebook.Command
