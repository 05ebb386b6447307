/-
  Rulebook.Main

  The program: the command line on the files of the machine.  Before a run, what
  is at its path and below is taken down, so that the run sees one state of it.
-/
import Rulebook.CommandLine.Run

namespace Rulebook.Main

/-! ## Files -/

/-- Why the machine refuses a file. -/
def reason : IO.Error → FileError
  | .noFileOrDirectory .. => .notFound
  | .inappropriateType .. => .isFolder
  | .userError _ => .notText
  | _ => .refused

/-- Do something with a file, and tell why if that is refused. -/
def attempt {α : Type} (action : IO α) : IO (Except FileError α) := do
  match ← action.toBaseIO with
  | .ok result => return .ok result
  | .error error => return .error (reason error)

/-! ## What is at a path and below -/

/-- What was found at a path: its kind, and the names of its entries if it is a folder. -/
abbrev Findings := NameMap (EntryKind × List String)

/-- The kind of an entry of a type. -/
def kindOf : IO.FS.FileType → EntryKind
  | .dir => .folder
  | .file => .file
  | _ => .other

/-- Take down what is at a path, and below it, behind what was found so far. -/
partial def takeDown (found : Findings) (path : String) : IO Findings := do
  let place := (IO.FS.DirEntry.mk "." path).path
  match ← place.metadata.toBaseIO with
  | .error _ => return found
  | .ok metadata =>
    match kindOf metadata.type with
    | .folder =>
      let names ← match ← place.readDir.toBaseIO with
        | .ok entries => pure (entries.toList.map fun entry => entry.fileName)
        | .error _ => pure []
      (names.map (Path.child path)).foldlM takeDown (found.insert path (.folder, names))
    | kind => return found.insert path (kind, [])

/-- The file system of some findings. -/
def viewOf (found : Findings) : FileSystem where
  kindAt path := found[path]?.map Prod.fst
  namesAt path := (found[path]?.map Prod.snd).getD []

/-! ## The program -/

/-- The machine that the program runs on. -/
def machine : Host IO where
  readText path := attempt (IO.FS.readFile path)
  writeText path text := attempt (IO.FS.writeFile path text)
  survey path := do return viewOf (← takeDown ∅ path)
  print text := do
    IO.print text
    (← IO.getStdout).flush
  nesting := CommandLine.maxNesting
  overflow := return CommandLine.aborted

end Rulebook.Main

/-- Do what the arguments ask. -/
def main (arguments : List String) : IO UInt32 := do
  return (← Rulebook.CommandLine.perform Rulebook.Main.machine arguments).toUInt32
