/-
  Rulebook.Path

  Paths as texts: their components, the file name, and the path of an entry of a
  folder.
-/

namespace Rulebook.Path

/-- The parts of a text between slashes, with `current` (in reverse) the part read
    so far. -/
def partsFrom : List Char → List Char → List (List Char)
  | current, [] => [current.reverse]
  | current, c :: rest =>
    if c = '/' then current.reverse :: partsFrom [] rest else partsFrom (c :: current) rest

/-- The components of a path: its parts, without empty ones and those that stand for
    the folder that they are in. -/
def components (path : String) : List String :=
  ((partsFrom [] path.toList).map String.ofList).filter fun part => part != "" && part != "."

/-- The names that following a path goes through: its parts without empty ones, but with one
    empty name in place of slashes at its end, which ask for a folder. -/
def steps (path : String) : List String :=
  let parts := (partsFrom [] path.toList).map String.ofList
  parts.filter (· != "") ++ if parts.getLast? == some "" then [""] else []

/-- The last component of a path, or nothing if that leads to a parent folder. -/
def fileName (path : String) : String :=
  match (components path).getLast? with
  | some name => if name = ".." then "" else name
  | none => ""

/-- Whether a path starts at the root. -/
def isAbsolute (path : String) : Bool := path.toList.head? == some '/'

/-- The path of an entry of a folder. -/
def child (folder name : String) : String :=
  if folder.toList.getLast? == some '/' then folder ++ name else folder ++ "/" ++ name

end Rulebook.Path
