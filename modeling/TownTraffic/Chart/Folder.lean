import TownTraffic.Text.Utf8

/-!
# Folders of files

A `Folder` is a directory on a disk with all files of the disk. A path is followed step by step,
from the folder or, if it is absolute, from the root: every step but the last must lead to a
directory, `.` stays, and `..` goes back, as far as the root.

* **`Folder.follow`** — what steps lead to; **`Folder.find`** what a path leads to.
* **`Folder.bytes`**, **`Folder.text`** — what a file holds.
* **`joinPath`**, **`extension?`** — paths as they are written.
-/

namespace TownTraffic

/-- A directory on a disk, with all files of the disk. -/
structure Folder where
  /-- The names that lead from the root to the directory. -/
  home : List String
  /-- The files, each with the names that lead to it from the root, its own the last. -/
  files : List (List String × List UInt8)

/-- What a path may lead to. -/
inductive FolderEntry where
  | file (bytes : List UInt8)
  | directory
deriving Repr, DecidableEq

/-- Why a file cannot be read. -/
inductive FolderFault where
  | missing
  | notADirectory
  | isADirectory
  | nameTooLong
  /-- A name contains the character that ends names. -/
  | nameEnds
  /-- The file holds no text. -/
  | notText
deriving Repr, DecidableEq

/-- The fault in words. -/
def FolderFault.message : FolderFault → String
  | missing => "No such file or directory (os error 2)"
  | notADirectory => "Not a directory (os error 20)"
  | isADirectory => "Is a directory (os error 21)"
  | nameTooLong => "File name too long (os error 36)"
  | nameEnds => "file name contained an unexpected NUL byte"
  | notText => "stream did not contain valid UTF-8"

/-! ## Paths -/

/-- The names of a path. -/
def pathNames (path : String) : List String :=
  (path.toList.splitOn '/').map .ofList

/-- Whether a path starts at the root of all directories. -/
def isAbsolute (path : String) : Bool := path.toList.head? == some '/'

/-- A path below a directory. An absolute path stays as it is. -/
def joinPath (directory path : String) : String :=
  if isAbsolute path then path
  else if directory.isEmpty || directory.toList.getLast? == some '/' then directory ++ path
  else directory ++ "/" ++ path

/-- The last name of a path; steps that stay do not count, and a step back is no name. -/
def fileName? (path : String) : Option String :=
  match ((pathNames path).filter fun name => name != "" && name != ".").getLast? with
  | some ".." => none
  | name => name

/-- What follows the last point of a path's last name; a name has no extension if that is its only
point and comes first. -/
def extension? (path : String) : Option String := do
  let name := (← fileName? path).toList
  let ending := (name.reverse.takeWhile (· != '.')).reverse
  if ending.length + 1 < name.length then return .ofList ending else none

/-! ## Looking for a file -/

namespace Folder

/-- The longest name of a file, in bytes. -/
def maxNameLength : Nat := 255

/-- What there is at a place, given by the names that lead to it from the root. -/
def entry? (f : Folder) (place : List String) : Option FolderEntry :=
  match f.files.find? (·.1 == place) with
  | some (_, bytes) => some (.file bytes)
  | none =>
    if place.isPrefixOf f.home || f.files.any fun (path, _) => place.isPrefixOf path then
      some .directory
    else none

/-- Follows names from a directory. -/
def follow (f : Folder) : (directory : List String) → List String →
    Except FolderFault FolderEntry
  | _, [] => .ok .directory
  | directory, name :: names =>
    if name = "" ∨ name = "." then f.follow directory names
    else if name = ".." then f.follow directory.dropLast names
    else if maxNameLength < name.utf8ByteSize then .error .nameTooLong
    else
      match f.entry? (directory ++ [name]) with
      | none => .error .missing
      | some .directory => f.follow (directory ++ [name]) names
      | some (.file bytes) => if names = [] then .ok (.file bytes) else .error .notADirectory

/-- Where a path starts. -/
def start (f : Folder) (path : String) : List String := if isAbsolute path then [] else f.home

/-- What a path leads to. -/
def find (f : Folder) (path : String) : Except FolderFault FolderEntry :=
  if path.toList.contains '\x00' then .error .nameEnds
  else f.follow (f.start path) (pathNames path)

/-- The bytes of a file. -/
def bytes (f : Folder) (path : String) : Except FolderFault (List UInt8) :=
  match f.find path with
  | .ok (.file bytes) => .ok bytes
  | .ok .directory => .error .isADirectory
  | .error fault => .error fault

/-- The text of a file. -/
def text (f : Folder) (path : String) : Except FolderFault String := do
  match Text.Utf8.decode (← f.bytes path) with
  | .ok text => .ok (.ofList text)
  | .error _ => .error .notText

end Folder

end TownTraffic
