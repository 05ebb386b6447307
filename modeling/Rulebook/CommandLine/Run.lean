/-
  Rulebook.CommandLine.Run

  What a run of the command line does, over any host that can read, write and
  print, and its exit code.
-/
import Rulebook.CommandLine.Options
import Rulebook.Document.Load
import Rulebook.FileTree
import Rulebook.Kind.Custom

namespace Rulebook

/-! ## Hosts -/

/-- What the command line needs from where it runs. -/
structure Host (m : Type → Type) where
  readText : String → m (Except FileError String)
  writeText : String → String → m (Except FileError Unit)
  /-- The file system as it is now, for a run on the given path. -/
  survey : String → m FileSystem
  print : String → m Unit
  /-- How many rule sets there is room for when they are nested. -/
  nesting : Nat
  /-- The end of a run for which there is no room: the exit code. -/
  overflow : m Nat

/-- A disk, in states of some type: what reading and writing files and looking at them come to.
    What is asked of one state is answered by it alone. -/
structure Disk (σ : Type) where
  readText : σ → String → Except FileError String
  /-- Write a text to the file at a path.  The state may be another one afterwards also if
      that was refused. -/
  writeText : σ → String → String → Except FileError Unit × σ
  view : σ → FileSystem

/-- The files as they are, and the text printed so far. -/
structure Workspace (σ : Type := FileTree) where
  tree : σ
  output : String := ""

namespace Disk

variable {σ : Type}

/-- What is written to a path is read there. -/
def ReadsBack (disk : Disk σ) (path : String) : Prop :=
  ∀ s text s', disk.writeText s path text = (.ok (), s') → disk.readText s' path = .ok text

/-- The host that works on a disk, with room for some nested rule sets.  A run for which there
    is no room ends with the given code. -/
def host (disk : Disk σ) (nesting code : Nat) : Host (StateM (Workspace σ)) where
  readText path := do return disk.readText (← get).tree path
  writeText path text := do
    let (result, tree) := disk.writeText (← get).tree path text
    modify fun w => { w with tree }
    return result
  survey _ := do return disk.view (← get).tree
  print text := modify fun w => { w with output := w.output ++ text }
  nesting := nesting
  overflow := return code

end Disk

/-- The disk that holds a tree of files and nothing else.  What is refused changes nothing. -/
def FileTree.disk : Disk FileTree where
  readText := readText
  writeText tree path text :=
    match tree.writeText path text with
    | .ok tree' => (.ok (), tree')
    | .error error => (.error error, tree)
  view := view

namespace CommandLine

/-! ## Exit codes -/

/-- The exit code of a run without problems. -/
def clean : Nat := 0

/-- The exit code of a run that found problems. -/
def problemsFound : Nat := 1

/-- The exit code of a command line that was refused, or of a run that failed. -/
def failed : Nat := 2

/-- The text that tells the version. -/
def versionText : String := "rulecheck 0.1.0\n"

/-- The exit code of a run that was ended because the stack is used up. -/
def aborted : Nat := 134

/-- How many nested rule sets a run is given room for.  What is said of runs holds for any other
    number as well. -/
def maxNesting : Nat := 1000000

end CommandLine

/-- The host that works on a tree of files. -/
def Workspace.host : Host (StateM Workspace) :=
  FileTree.disk.host CommandLine.maxNesting CommandLine.aborted

namespace CommandLine

/-! ## Running -/

variable {m : Type → Type} [Monad m] [Plugins] [PluginTests]

/-- Write a text to a file if one is named.  The result tells whether that went well. -/
def writeIfNamed (host : Host m) (path : Option String) (text : String) : m Bool :=
  match path with
  | none => pure true
  | some path => do
    match ← host.writeText path text with
    | .ok () => return true
    | .error _ => return false

/-- Print a text on a line of its own. -/
def printLine (host : Host m) (text : String) : m Unit := host.print (text ++ "\n")

/-- Print the summary of a report, and then each of its issues. -/
def printReport (host : Host m) (report : Report) : m Unit := do
  printLine host report.summary
  report.issues.forM fun issue => printLine host issue.text

/-- The exit code of a run that came to its end. -/
def exitCode (session : Session) : Nat :=
  if session.report.problemCount = 0 then clean else problemsFound

/-- Test an engine as the options ask.  A run for which there is no room ends in the way that
    the host says. -/
def test (host : Host m) (options : Options) (engine : Engine) : m Nat := do
  if ← writeIfNamed host options.reference engine.registry.documentation then
    let fs ← host.survey options.input
    match engine.test fs host.nesting options.root (.path options.input) with
    | none => host.overflow
    | some session =>
      host.print session.printed
      printReport host session.report
      if ← writeIfNamed host options.issues session.report.exportText then
        return exitCode session
      else return failed
  else return failed

/-- Load the configuration and test it. -/
def run (host : Host m) (options : Options) : m Nat := do
  match ← host.readText options.config with
  | .error _ => return failed
  | .ok text =>
    match Document.read text with
    | .error _ => return failed
    | .ok document => test host options (Engine.builtin.load document).1

/-- Do what the arguments of a command line ask. -/
def perform (host : Host m) (arguments : List String) : m Nat :=
  match parse arguments with
  | .refused => pure failed
  | .version => do
    host.print versionText
    return clean
  | .run options => run host options

end CommandLine

end Rulebook
