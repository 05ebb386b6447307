/-
  Rulebook.Evaluation

  How rules and rule sets are tested.  Rules may run other sets by name, so sets
  nest; `enter` bounds how deep, and has no result if that is not enough.
-/
import Rulebook.Filter
import Rulebook.RuleSet
import Rulebook.Session

namespace Rulebook

/-- A way to run the set of a name on an input.  There is no result if the sets nest
    too deep, and no effect if the name has no set. -/
abbrev Runner := String → Input → Session → Option Session

namespace Runner

/-- Run the sets of some names in order. -/
def runAll (run : Runner) (names : List String) (input : Input) (session : Session) :
    Option Session :=
  names.foldlM (fun session name => run name input session) session

/-- Run the sets that the words of a text name. -/
def call (run : Runner) (targets : String) (input : Input) (session : Session) :
    Option Session :=
  run.runAll (Text.words targets) input session

end Runner

/-! ## Rules, form by form -/

/-- Whether the value of a guard matches its pattern, or does not if it is inverse.  A
    guard without a value or a pattern fails, and so does one with an invalid pattern. -/
def GuardSettings.holds (settings : GuardSettings) : Bool :=
  match settings.value, settings.pattern with
  | some value, some pattern =>
    match Pattern.search? pattern value with
    | some found => found != settings.inverse
    | none => false
  | _, _ => false

/-- Record the issue of a rule that has a message and a path. -/
def IssueSettings.record (settings : IssueSettings) (session : Session) : Session :=
  match settings.message, settings.path with
  | some message, some path =>
    session.record (settings.key.getD "") ⟨settings.kind, message, path⟩
  | _, _ => session

/-- Let a filter look at one path: if the path passes, its name and the path are
    stored, and the sets of the filter run on it. -/
def FilterSettings.visit (fs : FileSystem) (run : Runner) (filter : FilterSettings)
    (session : Session) (path : String) : Option Session :=
  if filter.passes fs path then
    let session := (session.setVariable filter.pathVariable path).setVariable
      filter.nameVariable (Path.fileName path)
    match filter.targets with
    | some targets => run.call targets (.path path) session
    | none => some session
  else some session

/-- Let a filter look at the candidates of a path, in order. -/
def FilterSettings.walk (fs : FileSystem) (run : Runner) (filter : FilterSettings)
    (session : Session) (path : String) : Option Session :=
  (filter.candidates fs path).foldlM (filter.visit fs run) session

/-- What rules of plugins do in a test.  The result tells whether the rule passed; there is none
    if sets that the rule runs nest too deep.  The rule sets are what running them comes to: they
    do not change in a run, so a test that looks into a table is one that is chosen for it. -/
class PluginTests [Plugins] where
  /-- Test a rule that holds the given state. -/
  test {type : String} (state : Plugins.State type) (fs : FileSystem) (run : Runner)
    (input : Input) (session : Session) : Option (Bool × Session)

variable [Plugins] [PluginTests]

/-- Test a rule with the given settings.  The result tells whether it passed. -/
def Settings.test (fs : FileSystem) (run : Runner) (input : Input) (session : Session) :
    Settings → Option (Bool × Session)
  | .guard settings => some (settings.holds, session)
  | .print settings => some (true, session.printLine (settings.message.getD ""))
  | .issue settings => some (true, settings.record session)
  | .filter settings =>
    match input.path? with
    | some path => (settings.walk fs run session path).map (true, ·)
    | none => some (true, session)
  | .custom rule => PluginTests.test rule.state fs run input session

/-! ## Rules and sets -/

/-- Test a rule.  If a dynamic field does not convert, the rule fails. -/
def Rule.test (fs : FileSystem) (run : Runner) (input : Input) (session : Session)
    (rule : Rule) : Option (Bool × Session) :=
  if rule.isDynamic then
    match rule.resolve session.bindings with
    | .ok settings => settings.test fs run input session
    | .error _ => some (false, session)
  else rule.settings.test fs run input session

/-- Test rules in order up to the first that fails.  The result tells whether all of
    them passed. -/
def testRules (fs : FileSystem) (run : Runner) (input : Input) :
    List Rule → Session → Option (Bool × Session)
  | [], session => some (true, session)
  | rule :: rest, session =>
    match rule.test fs run input session with
    | some (true, session) => testRules fs run input rest session
    | stopped => stopped

/-- Test the rules of a set and, if all of them passed, run its children. -/
def RuleSet.run (fs : FileSystem) (run : Runner) (set : RuleSet) (input : Input)
    (session : Session) : Option Session :=
  match testRules fs run input set.rules session with
  | some (true, session) => run.runAll set.children input session
  | some (false, session) => some session
  | none => none

/-- Run the set of a name, with at most `depth` sets nested. -/
def enter (table : SetTable) (fs : FileSystem) : Nat → Runner
  | 0, name, _, session => if table.contains name then none else some session
  | depth + 1, name, input, session =>
    match table[name]? with
    | some set => set.run fs (enter table fs depth) input session
    | none => some session

end Rulebook
