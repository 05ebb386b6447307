/-
  Rulebook.FileSystem

  What a test run may ask of the file system, which it does not change.
-/
import Rulebook.Path

namespace Rulebook

/-- What is found at a path, links followed. -/
inductive EntryKind
  | file
  | folder
  | other
  deriving DecidableEq, Repr

/-- The answers of a file system that stays as it is. -/
structure FileSystem where
  /-- What is found at a path, if anything is. -/
  kindAt : String → Option EntryKind
  /-- The names of the entries of the folder at a path, in any order. -/
  namesAt : String → List String

namespace FileSystem

/-- A file system in which nothing is found. -/
def empty : FileSystem := ⟨fun _ => none, fun _ => []⟩

/-- Whether there is a folder at a path. -/
def isFolder (fs : FileSystem) (path : String) : Bool := fs.kindAt path == some .folder

/-- Whether there is a file at a path. -/
def isFile (fs : FileSystem) (path : String) : Bool := fs.kindAt path == some .file

/-- The paths of the entries of a folder, in increasing order of their names. -/
def children (fs : FileSystem) (folder : String) : List String :=
  ((fs.namesAt folder).mergeSort fun a b => (compare a b).isLE).map (Path.child folder)

end FileSystem

end Rulebook
