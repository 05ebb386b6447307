/-
  Rulebook.Kind.Builtin

  The built-in kinds of rules.
-/
import Rulebook.Kind.Basic

namespace Rulebook.RuleKind

variable [Plugins]

/-- `match`: stops the rule set unless a text matches a pattern. -/
def guard : RuleKind where
  name := "match"
  description := some "Stops a ruleset execution if the value does not match the pattern"
  fields := [
    { name := "value", description := "Defines the value to be checked",
      required := true, slot := .guardValue },
    { name := "pattern", description := "Defines the Regex pattern",
      required := true, slot := .guardPattern },
    { name := "inverse", description := "Defines if the result will be inverted",
      default := some "false", slot := .guardInverse }]
  blank := .guard {}

/-- `print`: prints a message. -/
def print : RuleKind where
  name := "print"
  description := some "Print a message to console"
  fields := [
    { name := "message", description := "Defines the message to be printed",
      slot := .printMessage }]
  blank := .print {}

/-- The fields of the kinds that record an issue. -/
def issueFields : List Field := [
  { name := "key", description := "Defines the issue sorting key",
    required := true, slot := .issueKey },
  { name := "message", description := "Defines the message to be shown",
    required := true, slot := .issueMessage },
  { name := "path", description := "Defines the navigation path",
    required := true, slot := .issuePath }]

/-- `warning`: records a warning. -/
def warning : RuleKind where
  name := "warning"
  description := some "Marks a warning issue"
  fields := issueFields
  blank := .issue { kind := .warning }

/-- `problem`: records a problem. -/
def problem : RuleKind where
  name := "problem"
  description := some "Marks a problem issue"
  fields := issueFields
  blank := .issue { kind := .problem }

/-- `file-filter`: runs rule sets for the paths that pass a filter. -/
def fileFilter : RuleKind where
  name := "file-filter"
  description := some "Filter files using advanced filter settings"
  fields := [
    { name := "then", description := "Defines the rulesets that will be run if the filter matches",
      required := true, slot := .filterTargets },
    { name := "name", description := "Filter by name (Regex)", slot := .filterName },
    { name := "path", description := "Filter by path (Regex)", slot := .filterPath },
    { name := "file", description := "Check if the path is a file", slot := .filterFile },
    { name := "folder", description := "Check if the path is a folder",
      slot := .filterFolder },
    { name := "inverse", description := "Defines if the filter will be inverse",
      default := some "false", slot := .filterInverse },
    { name := "childrenfiles", description := "Iterate over children files (Folder Only)",
      slot := .filterChildrenFiles },
    { name := "childrenfolders", description := "Iterate over children folders (Folder Only)",
      slot := .filterChildrenFolders },
    { name := "varname", description := "Defines the output name variable",
      default := some "file-name", slot := .filterNameVariable },
    { name := "varpath", description := "Defines the output path variable",
      default := some "file-path", slot := .filterPathVariable }]
  blank := .filter {}

/-- The built-in kinds, in the order in which they are registered. -/
def builtins : List RuleKind := [guard, print, warning, problem, fileFilter]

theorem forall_mem_builtins {P : RuleKind → Prop} :
    (∀ kind ∈ builtins, P kind) ↔ P guard ∧ P print ∧ P warning ∧ P problem ∧ P fileFilter := by
  simp [builtins]

end Rulebook.RuleKind
