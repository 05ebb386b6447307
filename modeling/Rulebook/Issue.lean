/-
  Rulebook.Issue

  Issues found by a test run, and the line format `[path]: message` in which
  they are exported and read back.
-/
import Rulebook.Text.Split

namespace Rulebook

/-! ## Issues -/

/-- How grave an issue is. -/
inductive IssueKind
  | warning
  | problem
  deriving DecidableEq, Repr

namespace IssueKind

/-- The name of a kind of issue. -/
def text : IssueKind → String
  | warning => "warning"
  | problem => "problem"

end IssueKind

/-- One warning or problem, with the path of the item it is about. -/
structure Issue where
  kind : IssueKind
  message : String
  path : String
  deriving DecidableEq, Repr

/-! ## Issue lines -/

/-- What an exported line tells of an issue: its kind is not written. -/
structure IssueLine where
  path : String
  message : String
  deriving DecidableEq, Repr

/-- Why a text is not an exported line. -/
inductive IssueLineError
  | missingBracket (line : String)
  | missingSeparator (line : String)
  deriving DecidableEq, Repr

namespace IssueLineError

/-- The text of an error in an exported line. -/
def message : IssueLineError → String
  | missingBracket line => "issue line must start with '[': " ++ line
  | missingSeparator line => "issue line is missing ']: ': " ++ line

end IssueLineError

namespace IssueLine

/-- The characters between the path and the message of a line. -/
def separator : List Char := [']', ':', ' ']

/-- The text of a line. -/
def text (line : IssueLine) : String := "[" ++ line.path ++ "]: " ++ line.message

/-- Read a line back: the path ends at the first separator. -/
def parse (s : String) : Except IssueLineError IssueLine :=
  match s.toList with
  | '[' :: body =>
    match Text.splitFirst separator body with
    | some (path, message) => .ok ⟨String.ofList path, String.ofList message⟩
    | none => .error (.missingSeparator s)
  | _ => .error (.missingBracket s)

end IssueLine

namespace Issue

/-- The exported line of an issue. -/
def line (issue : Issue) : IssueLine := ⟨issue.path, issue.message⟩

/-- The text of an issue: that of its exported line. -/
def text (issue : Issue) : String := issue.line.text

end Issue

end Rulebook
