/-
  Rulebook.Session

  What a test run changes, and the input that its rules look at.
-/
import Rulebook.Report
import Rulebook.Variables

namespace Rulebook

/-- What a test run changes: the variables, its report, and the printed text. -/
structure Session where
  bindings : Variables
  report : Report := ∅
  printed : String := ""

namespace Session

/-- Set a variable. -/
def setVariable (session : Session) (name value : String) : Session :=
  { session with bindings := session.bindings.insert name value }

/-- Record an issue under a key. -/
def record (session : Session) (key : String) (issue : Issue) : Session :=
  { session with report := session.report.addUnder key issue }

/-- Print a text on a line of its own. -/
def printLine (session : Session) (text : String) : Session :=
  { session with printed := session.printed ++ text ++ "\n" }

end Session

/-- What a rule set is run on. -/
inductive Input
  | path (path : String)
  | string (text : String)
  /-- A text that is part of the calling program. -/
  | literal (text : String)
  /-- Anything in which built-in rules see no path. -/
  | other (object : String := "")
  deriving DecidableEq, Repr

namespace Input

/-- The path that an input stands for. -/
def path? : Input → Option String
  | path text | string text | literal text => some text
  | other _ => none

/-- The text that tells the inputs apart. -/
def text : Input → String
  | path text => s!"path({text})"
  | string text => s!"string({text})"
  | literal text => s!"str({text})"
  | other _ => "other"

end Input

end Rulebook
