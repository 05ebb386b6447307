/-
  Rulebook.Report

  The issues of one test run, grouped by key, with the summary and the export
  that are written from them.
-/
import Rulebook.Issue
import Rulebook.Roster
import Rulebook.Text.Lines

namespace Rulebook

/-- The issues of one test run.  Groups are in the order in which their keys were
    first used, and the issues of a group in the order in which they were added. -/
structure Report where
  groups : Roster (Array Issue)
  deriving DecidableEq

namespace Report

/-- A report without issues. -/
def empty : Report := ⟨∅⟩

instance : EmptyCollection Report := ⟨empty⟩
instance : Inhabited Report := ⟨empty⟩

/-! ## Adding and looking up -/

/-- Add an issue under a key. -/
def addUnder (report : Report) (key : String) (issue : Issue) : Report :=
  ⟨report.groups.change key fun group => (group.getD #[]).push issue⟩

/-- Add an issue under the empty key. -/
def add (report : Report) (issue : Issue) : Report := report.addUnder "" issue

/-- The keys, in the order of their first use. -/
def keys (report : Report) : List String := report.groups.names

/-- The issues under a key; none if the key was never used. -/
def issuesUnder (report : Report) (key : String) : List Issue :=
  ((report.groups.get? key).getD #[]).toList

/-- All issues, group after group. -/
def issues (report : Report) : List Issue := report.groups.entries.flatMap (·.2.toList)

/-! ## Counts -/

/-- The number of issues of one kind. -/
def countOf (report : Report) (kind : IssueKind) : Nat :=
  report.issues.countP (·.kind = kind)

/-- The number of warnings. -/
def warningCount (report : Report) : Nat := report.countOf .warning

/-- The number of problems. -/
def problemCount (report : Report) : Nat := report.countOf .problem

/-- The number of issues. -/
def issueCount (report : Report) : Nat := report.warningCount + report.problemCount

/-- There are no issues. -/
def isClean (report : Report) : Bool := report.issueCount == 0

/-! ## Texts -/

/-- The summary of a report. -/
def summary (report : Report) : String :=
  s!"Issues: {report.issueCount} (Warnings: {report.warningCount}, Problems: {report.problemCount})"

/-- The export of a report: the text of each issue on a line of its own. -/
def exportText (report : Report) : String :=
  String.join (report.issues.map fun issue => issue.text ++ "\n")

/-- Read an export back.  Empty lines are skipped, and the first line that is not
    in the export format is the error. -/
def readExport (text : String) : Except IssueLineError (List IssueLine) :=
  ((Text.lines text).filter (!·.isEmpty)).mapM IssueLine.parse

end Report

end Rulebook
