/-
  Rulebook.Proofs.Trace

  Evaluation without a report: a trace holds the variables, the printed text and
  the issues in the order in which they are recorded, and never looks back at
  them.  Running a set on a session comes to tracing it and then adding the
  traced issues to the report of the session, whatever that report holds
  (`enter_session`).
-/
import Rulebook.Evaluation
import Rulebook.Proofs.Builtin
import Rulebook.Proofs.Report

namespace Rulebook

/-! ## Traces -/

/-- What a run has changed so far, with the issues in the order in which they were recorded,
    each with its key. -/
structure Trace where
  bindings : Variables
  recorded : List (String × Issue) := []
  printed : String := ""

namespace Trace

/-- Set a variable. -/
def setVariable (t : Trace) (name value : String) : Trace :=
  { t with bindings := t.bindings.insert name value }

/-- Record an issue under a key. -/
def record (t : Trace) (key : String) (issue : Issue) : Trace :=
  { t with recorded := t.recorded ++ [(key, issue)] }

/-- Print a text on a line of its own. -/
def printLine (t : Trace) (text : String) : Trace :=
  { t with printed := t.printed ++ text ++ "\n" }

/-- The session that a run with this trace has come to, if it started with some report. -/
def session (report : Report) (t : Trace) : Session :=
  ⟨t.bindings, report.addAll t.recorded, t.printed⟩

theorem session_setVariable (report : Report) (t : Trace) (name value : String) :
    (t.setVariable name value).session report = (t.session report).setVariable name value := rfl

theorem session_record (report : Report) (t : Trace) (key : String) (issue : Issue) :
    (t.record key issue).session report = (t.session report).record key issue := by
  simp [session, record, Session.record]

end Trace

/-! ## Tracing a run

The functions below follow those of the evaluation one by one, with a trace for the session.
-/

/-- A way to trace the set of a name on an input. -/
abbrev Tracer := String → Input → Trace → Option Trace

namespace Tracer

/-- Trace the sets of some names in order. -/
def traceAll (tracer : Tracer) (names : List String) (input : Input) (t : Trace) :
    Option Trace :=
  names.foldlM (fun t name => tracer name input t) t

/-- Trace the sets that the words of a text name. -/
def call (tracer : Tracer) (targets : String) (input : Input) (t : Trace) : Option Trace :=
  tracer.traceAll (Text.words targets) input t

end Tracer

/-- Record the issue of a rule that has a message and a path. -/
def IssueSettings.trace (settings : IssueSettings) (t : Trace) : Trace :=
  match settings.message, settings.path with
  | some message, some path => t.record (settings.key.getD "") ⟨settings.kind, message, path⟩
  | _, _ => t

/-- Trace what a filter does with one path. -/
def FilterSettings.traceVisit (fs : FileSystem) (tracer : Tracer) (filter : FilterSettings)
    (t : Trace) (path : String) : Option Trace :=
  if filter.passes fs path then
    let t := (t.setVariable filter.pathVariable path).setVariable
      filter.nameVariable (Path.fileName path)
    match filter.targets with
    | some targets => tracer.call targets (.path path) t
    | none => some t
  else some t

/-- Trace what a filter does with the candidates of a path, in order. -/
def FilterSettings.traceWalk (fs : FileSystem) (tracer : Tracer) (filter : FilterSettings)
    (t : Trace) (path : String) : Option Trace :=
  (filter.candidates fs path).foldlM (filter.traceVisit fs tracer) t

section Rules

variable [Plugins]

/-- Trace a rule with the given settings.  Rules of custom kinds may look at the report, which
    a trace does not have. -/
def Settings.trace (fs : FileSystem) (tracer : Tracer) (input : Input) (t : Trace) :
    Settings → Option (Bool × Trace)
  | .guard settings => some (settings.holds, t)
  | .print settings => some (true, t.printLine (settings.message.getD ""))
  | .issue settings => some (true, settings.trace t)
  | .filter settings =>
    match input.path? with
    | some path => (settings.traceWalk fs tracer t path).map (true, ·)
    | none => some (true, t)
  | .custom _ => none

/-- Trace a rule. -/
def Rule.trace (fs : FileSystem) (tracer : Tracer) (input : Input) (t : Trace) (rule : Rule) :
    Option (Bool × Trace) :=
  if rule.isDynamic then
    match rule.resolve t.bindings with
    | .ok settings => settings.trace fs tracer input t
    | .error _ => some (false, t)
  else rule.settings.trace fs tracer input t

/-- Trace rules in order up to the first that fails. -/
def traceRules (fs : FileSystem) (tracer : Tracer) (input : Input) :
    List Rule → Trace → Option (Bool × Trace)
  | [], t => some (true, t)
  | rule :: rest, t =>
    match rule.trace fs tracer input t with
    | some (true, t) => traceRules fs tracer input rest t
    | stopped => stopped

/-- Trace the rules of a set and, if all of them passed, its children. -/
def RuleSet.trace (fs : FileSystem) (tracer : Tracer) (set : RuleSet) (input : Input)
    (t : Trace) : Option Trace :=
  match traceRules fs tracer input set.rules t with
  | some (true, t) => tracer.traceAll set.children input t
  | some (false, t) => some t
  | none => none

/-- Trace the set of a name, with at most `depth` sets nested. -/
def traceEnter (table : SetTable) (fs : FileSystem) : Nat → Tracer
  | 0, name, _, t => if table.contains name then none else some t
  | depth + 1, name, input, t =>
    match table[name]? with
    | some set => set.trace fs (traceEnter table fs depth) input t
    | none => some t

end Rules

/-! ## Runs follow traces -/

/-- Runs that start with a report do what a tracer traces. -/
def Runner.Follows (run : Runner) (tracer : Tracer) (report : Report) : Prop :=
  ∀ name input t, run name input (t.session report) =
    (tracer name input t).map (Trace.session report)

theorem foldlM_view {α σ τ : Type} {view : τ → σ} {step : σ → α → Option σ}
    {step' : τ → α → Option τ} (h : ∀ t a, step (view t) a = (step' t a).map view)
    (as : List α) (t : τ) : as.foldlM step (view t) = (as.foldlM step' t).map view := by
  induction as generalizing t with
  | nil => rfl
  | cons a as ih =>
    rw [List.foldlM_cons, List.foldlM_cons, h]
    cases step' t a with
    | none => rfl
    | some t' => exact ih t'

section Follows

variable {fs : FileSystem} {run : Runner} {tracer : Tracer} {report : Report}

theorem Runner.Follows.runAll (h : run.Follows tracer report) (names : List String)
    (input : Input) (t : Trace) :
    run.runAll names input (t.session report) =
      (tracer.traceAll names input t).map (Trace.session report) :=
  foldlM_view (fun t name => h name input t) names t

theorem IssueSettings.record_session (settings : IssueSettings) (t : Trace) :
    settings.record (t.session report) = (settings.trace t).session report := by
  obtain ⟨kind, key, message, path⟩ := settings
  match message, path with
  | some message, some path => exact (Trace.session_record report t _ _).symm
  | some message, none => rfl
  | none, _ => rfl

theorem FilterSettings.visit_session (h : run.Follows tracer report) (filter : FilterSettings)
    (t : Trace) (path : String) :
    filter.visit fs run (t.session report) path =
      (filter.traceVisit fs tracer t path).map (Trace.session report) := by
  unfold FilterSettings.visit FilterSettings.traceVisit
  split
  · simp only [← Trace.session_setVariable]
    cases filter.targets with
    | none => rfl
    | some targets => exact h.runAll (Text.words targets) (.path path) _
  · rfl

variable [Plugins] [PluginTests]

theorem Settings.test_session (h : run.Follows tracer report) {settings : Settings}
    (hform : ¬ settings.form.IsCustom) (input : Input) (t : Trace) :
    settings.test fs run input (t.session report) =
      (settings.trace fs tracer input t).map (Prod.map id (Trace.session report)) := by
  cases settings with
  | guard settings => rfl
  | print settings => rfl
  | issue settings =>
    simp only [Settings.test, Settings.trace, IssueSettings.record_session]
    rfl
  | filter settings =>
    simp only [Settings.test, Settings.trace]
    cases input.path? with
    | none => rfl
    | some path =>
      have hwalk : settings.walk fs run (t.session report) path =
          (settings.traceWalk fs tracer t path).map (Trace.session report) :=
        foldlM_view (FilterSettings.visit_session h settings) _ t
      simp only [hwalk, Option.map_map]
      rfl
  | custom rule => exact absurd trivial hform

theorem Rule.test_session (h : run.Follows tracer report) {rule : Rule} (hrule : rule.IsBuiltin)
    (input : Input) (t : Trace) :
    rule.test fs run input (t.session report) =
      (rule.trace fs tracer input t).map (Prod.map id (Trace.session report)) := by
  have hform : ¬ rule.settings.form.IsCustom := hrule.form_ne_custom
  unfold Rule.test Rule.trace
  split
  · -- the session of a trace has the variables of the trace, so both resolve alike
    have hbindings : (t.session report).bindings = t.bindings := rfl
    rw [hbindings]
    cases hresolve : rule.resolve t.bindings with
    | error e => rfl
    | ok settings =>
      have hsettings : settings.form = rule.settings.form := form_resolve hrule.form_eq hresolve
      exact Settings.test_session h (hsettings ▸ hform) input t
  · exact Settings.test_session h hform input t

theorem testRules_session (h : run.Follows tracer report) {rules : List Rule}
    (hrules : ∀ rule ∈ rules, rule.IsBuiltin) (input : Input) (t : Trace) :
    testRules fs run input rules (t.session report) =
      (traceRules fs tracer input rules t).map (Prod.map id (Trace.session report)) := by
  induction rules generalizing t with
  | nil => rfl
  | cons rule rules ih =>
    rw [testRules, traceRules, Rule.test_session h (hrules rule (by simp))]
    rcases rule.trace fs tracer input t with _ | ⟨_ | _, t'⟩
    · rfl
    · rfl
    · exact ih (fun other hother => hrules other (List.mem_cons_of_mem _ hother)) t'

theorem RuleSet.run_session (h : run.Follows tracer report) {set : RuleSet}
    (hset : set.IsBuiltin) (input : Input) (t : Trace) :
    set.run fs run input (t.session report) =
      (set.trace fs tracer input t).map (Trace.session report) := by
  rw [RuleSet.run, RuleSet.trace, testRules_session h hset]
  rcases traceRules fs tracer input set.rules t with _ | ⟨_ | _, t'⟩
  · rfl
  · rfl
  · exact h.runAll set.children input t'

end Follows

/-- The sets of a table of built-in rules do on a session what they do on a trace. -/
theorem enter_session [Plugins] [PluginTests] {table : SetTable} (htable : table.IsBuiltin)
    (fs : FileSystem) (report : Report) (depth : Nat) :
    Runner.Follows (enter table fs depth) (traceEnter table fs depth) report := by
  induction depth with
  | zero =>
    intro name input t
    rw [enter, traceEnter]
    split
    · rfl
    · rfl
  | succ depth ih =>
    intro name input t
    rw [enter, traceEnter]
    cases hset : table[name]? with
    | none => rfl
    | some set => exact RuleSet.run_session ih (htable name set hset) input t

end Rulebook
