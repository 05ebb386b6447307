/-
  Rulebook.Document.Load

  Loading a configuration document into an engine.  Rule lines that do not parse
  are dropped, and the rest of the document is loaded all the same.
-/
import Rulebook.Document.Basic
import Rulebook.Engine

namespace Rulebook

/-- A rule line that was dropped. -/
structure DroppedLine where
  set : String
  line : String
  error : RuleError
  deriving DecidableEq, Repr

/-- What loading a document did. -/
structure LoadReport where
  /-- The sets that were loaded, in order. -/
  loaded : List String := []
  /-- The sets that were skipped because they are disabled. -/
  disabled : List String := []
  /-- The rule lines that were dropped. -/
  dropped : List DroppedLine := []
  /-- The entries of the document that were skipped because of their type. -/
  ignored : List Ignored := []

namespace LoadReport

/-- Nothing was dropped or skipped because of its type. -/
def isClean (report : LoadReport) : Bool := report.dropped.isEmpty && report.ignored.isEmpty

end LoadReport

namespace Engine

variable [Plugins]

/-- The rules of the lines that parse, and the lines that do not. -/
def parseLines (engine : Engine) (set : String) : List String → List Rule × List DroppedLine
  | [] => ([], [])
  | line :: rest =>
    let (rules, dropped) := engine.parseLines set rest
    match engine.parse line with
    | .ok rule => (rule :: rules, dropped)
    | .error error => (rules, ⟨set, line, error⟩ :: dropped)

/-- Load one rule set, unless it is disabled. -/
def loadSet (state : Engine × LoadReport) (entry : String × SetEntry) : Engine × LoadReport :=
  let (engine, report) := state
  let (name, set) := entry
  if set.enabled then
    let (rules, dropped) := engine.parseLines name set.rules
    (engine.insertSet name ⟨rules, set.children.flatMap Text.words⟩,
      { report with loaded := report.loaded ++ [name], dropped := report.dropped ++ dropped })
  else (engine, { report with disabled := report.disabled ++ [name] })

/-- Load a document: its variables first, which its rule lines may use, then its rule
    sets in the order of their names. -/
def load (engine : Engine) (document : Document) : Engine × LoadReport :=
  let bindings := document.bindings.toList.foldl
    (fun bindings (name, text) => bindings.insert name text) engine.bindings
  document.sets.toList.foldl loadSet
    ({ engine with bindings }, { ignored := document.ignored })

end Engine

end Rulebook
