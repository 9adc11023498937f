import Rulebook.Members
import Rulebook.PathName
import Rulebook.Text.Quoted

/-!
A disk: folders of files and folders, and the folder one works in.
-/

namespace Rulebook

/-- What a name in a folder stands for. -/
inductive Entry where
  | file (octets : List UInt8)
  | folder (entries : List (String × Entry))

/-- A folder: its entries by name. -/
abbrev Folder := List (String × Entry)

namespace Folder

/-- The entry that names lead to. -/
def find? (folder : Folder) : List String → Option Entry
  | [] => some (.folder folder)
  | name :: rest =>
    match Members.get? folder name with
    | some (.folder inner) => find? inner rest
    | some (.file octets) => if rest.isEmpty then some (.file octets) else none
    | none => none

/-- The folder with a file put where names lead, in place of what is there, and
the folders on the way. -/
def put (folder : Folder) (octets : List UInt8) : List String → Folder
  | [] => folder
  | [name] => Members.put folder name (.file octets)
  | name :: rest =>
    match Members.get? folder name with
    | some (.folder inner) => Members.put folder name (.folder (put inner octets rest))
    | _ => Members.put folder name (.folder (put [] octets rest))

/-- The folder with an empty folder where names lead, unless it is there. -/
def makeFolder (folder : Folder) : List String → Folder
  | [] => folder
  | name :: rest =>
    match Members.get? folder name with
    | some (.folder inner) => Members.put folder name (.folder (makeFolder inner rest))
    | some (.file _) => folder
    | none => Members.put folder name (.folder (makeFolder [] rest))

end Folder

mutual

/-- The files in an entry, with the names that lead to them. -/
def Entry.files (way : List String) : Entry → List (List String × List UInt8)
  | .file octets => [(way, octets)]
  | .folder entries => Entry.filesIn way entries

/-- The files among the entries of a folder. -/
def Entry.filesIn (way : List String) : List (String × Entry) → List (List String × List UInt8)
  | [] => []
  | (name, entry) :: rest => entry.files (way ++ [name]) ++ Entry.filesIn way rest

end

/-! ### Refusals -/

/-- Why a file cannot be had. -/
inductive FileFault where
  | missing
  | notFolder
  | isFolder
  | exists
  | denied
  | nameTooLong
  /-- The path name has a character that no name can have. -/
  | notAName
  /-- Anything else, in words. -/
  | other (details : String)
deriving DecidableEq

/-- A fault and the path name it concerns. -/
structure FileError where
  fault : FileFault
  path : PathName
deriving DecidableEq

/-- The wording of an error: the number and name of the fault, and the path name. -/
def FileError.message (error : FileError) : String :=
  let about (what : String) : String := what ++ ": " ++ Text.quoted error.path.text
  match error.fault with
  | .missing => about "[Errno 2] No such file or directory"
  | .denied => about "[Errno 13] Permission denied"
  | .exists => about "[Errno 17] File exists"
  | .notFolder => about "[Errno 20] Not a directory"
  | .isFolder => about "[Errno 21] Is a directory"
  | .nameTooLong => about "[Errno 36] File name too long"
  | .notAName => "embedded null byte"
  | .other details => about details

/-! ### Places -/

/-- A disk and the names that lead to the folder one works in. -/
structure Disk where
  root : Folder
  place : List String

/-- The greatest number of octets in a name. -/
def maxNameOctets : Nat := 255

/-- The greatest number of octets in a path name. -/
def maxPathOctets : Nat := 4095

namespace Disk

/-- Follow parts of a path name from a place: only through folders, a double point
leading back. The last part may name nothing. -/
def follow (disk : Disk) : (place : List String) → List String → Except FileFault (List String)
  | place, [] => .ok place
  | place, part :: rest =>
    match disk.root.find? place with
    | some (.folder _) =>
      if part = ".." then follow disk place.dropLast rest
      else if maxNameOctets < part.utf8ByteSize then .error .nameTooLong
      else follow disk (place ++ [part]) rest
    | some (.file _) => .error .notFolder
    | none => .error .missing

/-- Where a path name starts. -/
def start (disk : Disk) (path : PathName) : List String :=
  if path.isAbsolute then [] else disk.place

/-- The place that a path name leads to, whether something is there or not. -/
def locate (disk : Disk) (path : PathName) : Except FileFault (List String) :=
  if path.isSpeakable then
    if path.text.utf8ByteSize ≤ maxPathOctets then disk.follow (disk.start path) path.parts
    else .error .nameTooLong
  else .error .notAName

/-- The entry that a path name leads to. -/
def find (disk : Disk) (path : PathName) : Except FileFault Entry := do
  match disk.root.find? (← disk.locate path) with
  | some entry => .ok entry
  | none => .error .missing

/-- Whether a path name leads to a file. -/
def isFile (disk : Disk) (path : PathName) : Bool :=
  match disk.find path with
  | .ok (.file _) => true
  | _ => false

/-- Whether a path name leads to a folder. -/
def isFolder (disk : Disk) (path : PathName) : Bool :=
  match disk.find path with
  | .ok (.folder _) => true
  | _ => false

/-! ### Reading and writing -/

/-- The octets of a file. -/
def read (disk : Disk) (path : PathName) : Except FileError (List UInt8) :=
  match disk.find path with
  | .ok (.file octets) => .ok octets
  | .ok (.folder _) => .error ⟨.isFolder, path⟩
  | .error fault => .error ⟨fault, path⟩

/-- The disk with a file written into a folder. -/
def write (disk : Disk) (path : PathName) (octets : List UInt8) : Except FileError Disk :=
  match disk.locate path with
  | .error fault => .error ⟨fault, path⟩
  | .ok place =>
    match disk.root.find? place with
    | some (.folder _) => .error ⟨.isFolder, path⟩
    | _ => .ok { disk with root := disk.root.put octets place }

/-- The disk with a new folder in a folder. -/
def addFolder (disk : Disk) (path : PathName) : Except FileFault Disk := do
  let place ← disk.locate path
  match disk.root.find? place with
  | some _ => .error .exists
  | none => .ok { disk with root := disk.root.makeFolder place }

/-- The disk with a folder, which may be there already. -/
def haveFolder (disk : Disk) (path : PathName) : Except FileError Disk :=
  match disk.addFolder path with
  | .ok disk => .ok disk
  | .error fault =>
    if fault = .exists ∧ disk.isFolder path then .ok disk else .error ⟨fault, path⟩

/-- The disk with a folder and those on the way to it, the way given from its end. -/
def haveFoldersTo (disk : Disk) (root : String) : (way : List String) → Except FileError Disk
  | [] => disk.haveFolder ⟨root, []⟩
  | name :: outer =>
    let path : PathName := ⟨root, (name :: outer).reverse⟩
    if disk.addFolder path matches .error .missing then do
      let disk ← disk.haveFoldersTo root outer
      disk.haveFolder path
    else disk.haveFolder path

/-- The disk with a folder and those on the way to it. -/
def haveFolders (disk : Disk) (path : PathName) : Except FileError Disk :=
  disk.haveFoldersTo path.root path.parts.reverse

/-- The files in the folder one works in. -/
def files (disk : Disk) : List (List String × List UInt8) :=
  match disk.root.find? disk.place with
  | some entry => entry.files []
  | none => []

end Disk

end Rulebook
