/-
  Rulebook.FileTree

  A tree of folders, files and links from its root on, and what finding, listing, reading and
  writing come to in it.  One of the folders is the working folder, in which paths start that
  do not start at the root.
-/
import Rulebook.FileSystem
import Rulebook.Roster

namespace Rulebook

/-- What stands under a name in a folder. -/
inductive FileNode
  | folder (entries : List (String × FileNode))
  | file (content : ByteArray)
  | link (target : String)

/-- What a folder holds: nodes under distinct names. -/
abbrev FileNode.Entries := List (String × FileNode)

/-- Why a file cannot be read or written. -/
inductive FileError
  | notFound
  | isFolder
  | notFolder
  | notText
  | tooManyLinks
  /-- The path, or a name in it, is too long. -/
  | tooLong
  /-- The path holds a character that no path may hold. -/
  | notPath
  /-- For another reason. -/
  | refused
  deriving DecidableEq, Repr

/-- A tree of files. -/
structure FileTree where
  /-- What the root holds. -/
  entries : FileNode.Entries := []
  /-- The names that lead from the root to the working folder. -/
  work : List String := []

namespace FileTree

/-! ## Places to stand in -/

/-- A folder seen from within: what it holds, and the folders around it from the inside
    out.  Each of these is what it holds, with the name in it that leads back inside. -/
structure Spot where
  entries : FileNode.Entries
  around : List (String × FileNode.Entries)

namespace Spot

/-- What stands under a name. -/
def node? (spot : Spot) (name : String) : Option FileNode := Roster.lookupIn spot.entries name

/-- The names of what the folder holds. -/
def names (spot : Spot) : List String := spot.entries.map Prod.fst

/-- The folder of a name, which holds the given entries. -/
def enter (spot : Spot) (name : String) (entries : FileNode.Entries) : Spot :=
  ⟨entries, (name, spot.entries) :: spot.around⟩

/-- The folder around this one; around the root there is the root. -/
def leave (spot : Spot) : Spot :=
  match spot.around with
  | [] => spot
  | (_, entries) :: around => ⟨entries, around⟩

/-- The root of the tree that the folder stands in. -/
def root (spot : Spot) : Spot :=
  match spot.around.getLast? with
  | none => spot
  | some (_, entries) => ⟨entries, []⟩

/-- Put a node under a name, in place of what was there. -/
def put (spot : Spot) (name : String) (node : FileNode) : Spot :=
  { spot with entries := Roster.changeIn name (fun _ => node) spot.entries }

/-- What the root holds if a folder with some folders around it holds the given entries. -/
def entriesAround : FileNode.Entries → List (String × FileNode.Entries) → FileNode.Entries
  | entries, [] => entries
  | entries, (name, outer) :: around =>
    entriesAround (Roster.changeIn name (fun _ => .folder entries) outer) around

/-- What the root of the tree holds that the folder stands in. -/
def rootEntries (spot : Spot) : FileNode.Entries := entriesAround spot.entries spot.around

end Spot

/-- The root of a tree. -/
def top (tree : FileTree) : Spot := ⟨tree.entries, []⟩

/-- The tree after a change that was made from one of its folders. -/
def changedAt (tree : FileTree) (spot : Spot) : FileTree :=
  { tree with entries := spot.rootEntries }

/-! ## Following a path -/

/-- Where a path leads. -/
inductive Found
  | folder (spot : Spot)
  /-- To a file of the given name in a folder. -/
  | file (spot : Spot) (name : String) (content : ByteArray)
  /-- Nothing is there, but the folder that it would be in exists. -/
  | vacant (spot : Spot) (name : String)
  | failed (error : FileError)

/-- How many links a path may lead through. -/
def maxLinks : Nat := 40

/-- How many bytes a path may have. -/
def maxPathSize : Nat := 4095

/-- How many bytes the name of an entry may have. -/
def maxNameSize : Nat := 255

/-- What a path is followed for. -/
inductive Aim
  /-- To find what is there. -/
  | find
  /-- To write the file that is there, or else to make one. -/
  | write
  deriving DecidableEq, Repr

/-- Follow names from a folder, through at most `links` links.  An empty name asks for a
    folder; what is to be written must not end in one. -/
def follow (aim : Aim) (links : Nat) (spot : Spot) : List String → Found
  | [] => .folder spot
  | name :: rest =>
    if name = "" ∨ name = "." then follow aim links spot rest
    else if name = ".." then follow aim links spot.leave rest
    else if aim = .write ∧ rest = [""] then .failed .isFolder
    else if maxNameSize < name.utf8ByteSize then .failed .tooLong
    else
      match spot.node? name with
      | none => if rest.isEmpty then .vacant spot name else .failed .notFound
      | some (.folder entries) => follow aim links (spot.enter name entries) rest
      | some (.file content) =>
        if rest.isEmpty then .file spot name content else .failed .notFolder
      | some (.link target) =>
        match links with
        | 0 => .failed .tooManyLinks
        | links + 1 =>
          let start := if Path.isAbsolute target then spot.root else spot
          follow aim links start (Path.steps target ++ rest)
termination_by names => (links, names.length)

/-- Where some names lead from the root. -/
def walk (tree : FileTree) (aim : Aim) (names : List String) : Found :=
  follow aim maxLinks tree.top names

/-- Why a path is none, whatever there is in a tree. -/
def flaw? (path : String) : Option FileError :=
  if path.contains '\x00' then some .notPath
  else if maxPathSize < path.utf8ByteSize then some .tooLong
  else if path.isEmpty then some .notFound
  else none

/-- The names that lead from the root to where a path starts. -/
def startOf (tree : FileTree) (path : String) : List String :=
  if Path.isAbsolute path then [] else tree.work

/-- Where a path leads. -/
def resolve (tree : FileTree) (aim : Aim) (path : String) : Found :=
  match flaw? path with
  | some error => .failed error
  | none => tree.walk aim (tree.startOf path ++ Path.steps path)

/-- What is found at a path. -/
def find (tree : FileTree) (path : String) : Found := tree.resolve .find path

/-! ## The file system of a tree -/

/-- What is at a path. -/
def kindAt (tree : FileTree) (path : String) : Option EntryKind :=
  match tree.find path with
  | .folder _ => some .folder
  | .file .. => some .file
  | .vacant .. | .failed _ => none

/-- The names of the entries of the folder at a path. -/
def namesAt (tree : FileTree) (path : String) : List String :=
  match tree.find path with
  | .folder spot => spot.names
  | _ => []

/-- The answers of a tree. -/
def view (tree : FileTree) : FileSystem := ⟨tree.kindAt, tree.namesAt⟩

/-! ## Reading and writing -/

/-- The text of the file at a path. -/
def readText (tree : FileTree) (path : String) : Except FileError String :=
  match tree.find path with
  | .file _ _ content =>
    match String.fromUTF8? content with
    | some text => .ok text
    | none => .error .notText
  | .folder _ => .error .isFolder
  | .vacant .. => .error .notFound
  | .failed error => .error error

/-- Write a content to the file at a path, which need not exist yet. -/
def write (tree : FileTree) (path : String) (content : ByteArray) : Except FileError FileTree :=
  match tree.resolve .write path with
  | .file spot name _ | .vacant spot name => .ok (tree.changedAt (spot.put name (.file content)))
  | .folder _ => .error .isFolder
  | .failed error => .error error

/-- Write a text to the file at a path, which need not exist yet. -/
def writeText (tree : FileTree) (path text : String) : Except FileError FileTree :=
  tree.write path text.toUTF8

/-! ## Making a tree -/

/-- Put a node under a name into the folder that some names lead to from the root, if there is
    such a folder and it has nothing of that name yet. -/
def addNew (tree : FileTree) (folder : List String) (name : String) (node : FileNode) : FileTree :=
  if ["", ".", ".."].contains name || maxNameSize < name.utf8ByteSize then tree
  else
    match tree.walk .find folder with
    | .folder spot => if (spot.node? name).isSome then tree else tree.changedAt (spot.put name node)
    | _ => tree

/-- Make a folder at a path, and those in front of it, as far as that is possible.  A path that
    ends in a dot is that of a folder that is there, so its last name is not made. -/
def addFolder (tree : FileTree) (path : String) : FileTree :=
  if (flaw? path).isSome then tree
  else
    let ends := ((Path.steps path).filter (· != "")).getLast?
    let names := Path.components path
    let names := if ends == some "." then names.dropLast else names
    (names.zipIdx).foldl (fun tree (name, n) =>
      tree.addNew (tree.startOf path ++ names.take n) name (.folder [])) tree

/-- Make the folders in front of the last name of a path. -/
def addParents (tree : FileTree) (path : String) : FileTree :=
  let folder := "/".intercalate (Path.components path).dropLast
  tree.addFolder (if Path.isAbsolute path then "/" ++ folder else folder)

/-- Make a file at a path, if that is possible. -/
def addFile (tree : FileTree) (path : String) (content : ByteArray) : FileTree :=
  let tree := tree.addParents path
  ((tree.write path content).toOption).getD tree

/-- Make a link at a path, if that is possible and nothing is there yet. -/
def addLink (tree : FileTree) (path target : String) : FileTree :=
  let names := Path.steps path
  let tree := tree.addParents path
  if (flaw? path).isSome || (flaw? target).isSome then tree
  else
    tree.addNew (tree.startOf path ++ names.dropLast) (names.getLast?.getD "") (.link target)

end FileTree

end Rulebook
