/-
  Rulebook.Proofs.Invariance

  Properties of a session that whole runs keep.  A rule keeps a property if what it
  does itself does, whichever sets it runs besides: a print rule its line, an issue
  rule its issue, a file filter the two variables that it sets for a path.  If all
  rules of a table do, every run that ends does (`enter_keeps`).
-/
import Rulebook.Proofs.StaticFields

namespace Rulebook

/-! ## What single rules keep -/

/-- What the session of a filter is when it runs its sets for a path that passes. -/
def FilterSettings.store (filter : FilterSettings) (session : Session) (path : String) :
    Session :=
  (session.setVariable filter.pathVariable path).setVariable filter.nameVariable
    (Path.fileName path)

/-- Rules with the settings keep a property in what they do themselves.  What rules of
    custom kinds do is not known. -/
def Settings.Keeps [Plugins] (P : Session → Prop) : Settings → Prop
  | .guard _ => True
  | .print settings => ∀ session, P session → P (session.printLine (settings.message.getD ""))
  | .issue settings => ∀ session, P session → P (settings.record session)
  | .filter settings => ∀ session path, P session → P (settings.store session path)
  | .custom _ => False

/-- Whatever the rule resolves to under the variables of a session with the property keeps
    the property. -/
def Rule.Keeps [Plugins] (P : Session → Prop) (rule : Rule) : Prop :=
  ∀ session settings, P session → rule.resolve session.bindings = .ok settings → settings.Keeps P

/-- Runs of sets that end keep a property. -/
def Runner.Keeps (P : Session → Prop) (run : Runner) : Prop :=
  ∀ name input start final, P start → run name input start = some final → P final

/-! ## What runs keep -/

/-- A loop whose steps keep a property keeps it. -/
theorem foldlM_keeps {α β : Type} {P : α → Prop} {step : α → β → Option α}
    (hstep : ∀ a b next, P a → step a b = some next → P next) {bs : List β} {a final : α}
    (h : P a) (hfinal : bs.foldlM step a = some final) : P final := by
  induction bs generalizing a with
  | nil =>
    cases hfinal
    exact h
  | cons b bs ih =>
    rw [List.foldlM_cons] at hfinal
    obtain ⟨next, hnext, hrest⟩ := Option.bind_eq_some_iff.mp hfinal
    exact ih (hstep a b next h hnext) hrest

section Keeps

variable {P : Session → Prop} {fs : FileSystem} {run : Runner} {input : Input}
  {start final : Session}

theorem Runner.Keeps.runAll (hrun : run.Keeps P) {names : List String} (h : P start)
    (hfinal : run.runAll names input start = some final) : P final :=
  foldlM_keeps (fun session name next => hrun name input session next) h hfinal

theorem FilterSettings.visit_keeps (hrun : run.Keeps P) {filter : FilterSettings}
    (hstore : ∀ session path, P session → P (filter.store session path)) {path : String}
    (h : P start) (hfinal : filter.visit fs run start path = some final) : P final := by
  unfold FilterSettings.visit at hfinal
  split at hfinal
  · -- the variables are set before the sets of the filter run
    have hstored : P (filter.store start path) := hstore start path h
    cases htargets : filter.targets with
    | none =>
      rw [htargets] at hfinal
      cases hfinal
      exact hstored
    | some targets =>
      rw [htargets] at hfinal
      exact hrun.runAll hstored hfinal
  · cases hfinal
    exact h

variable [Plugins] [PluginTests] {passed : Bool}

theorem Settings.test_keeps (hrun : run.Keeps P) {settings : Settings} (hkeeps : settings.Keeps P)
    (h : P start) (hfinal : settings.test fs run input start = some (passed, final)) :
    P final := by
  cases settings with
  | guard settings =>
    cases hfinal
    exact h
  | print settings =>
    cases hfinal
    exact hkeeps start h
  | issue settings =>
    cases hfinal
    exact hkeeps start h
  | filter settings =>
    simp only [Settings.test] at hfinal
    cases hpath : input.path? with
    | none =>
      rw [hpath] at hfinal
      cases hfinal
      exact h
    | some path =>
      rw [hpath] at hfinal
      obtain ⟨last, hwalk, hlast⟩ := Option.map_eq_some_iff.mp hfinal
      cases hlast
      exact foldlM_keeps (fun session path next => settings.visit_keeps hrun hkeeps) h hwalk
  | custom stored => exact hkeeps.elim

theorem Rule.test_keeps (hrun : run.Keeps P) {rule : Rule}
    (hform : rule.settings.form = rule.kind.form) (hkeeps : rule.Keeps P) (h : P start)
    (hfinal : rule.test fs run input start = some (passed, final)) : P final := by
  rw [test_eq_resolve hform] at hfinal
  cases hresolve : rule.resolve start.bindings with
  | error e =>
    rw [hresolve] at hfinal
    cases hfinal
    exact h
  | ok settings =>
    rw [hresolve] at hfinal
    exact Settings.test_keeps hrun (hkeeps start settings h hresolve) h hfinal

theorem testRules_keeps (hrun : run.Keeps P) {rules : List Rule}
    (hform : ∀ rule ∈ rules, rule.settings.form = rule.kind.form)
    (hkeeps : ∀ rule ∈ rules, rule.Keeps P) (h : P start)
    (hfinal : testRules fs run input rules start = some (passed, final)) : P final := by
  induction rules generalizing start with
  | nil =>
    cases hfinal
    exact h
  | cons rule rules ih =>
    have hfirst : ∀ verdict next, rule.test fs run input start = some (verdict, next) → P next :=
      fun _ _ => Rule.test_keeps hrun (hform rule (by simp)) (hkeeps rule (by simp)) h
    rw [testRules] at hfinal
    split at hfinal
    · next next hrule =>
      exact ih (fun other hother => hform other (List.mem_cons_of_mem _ hother))
        (fun other hother => hkeeps other (List.mem_cons_of_mem _ hother)) (hfirst true next hrule)
        hfinal
    · -- the rule has failed, and what it left is the outcome
      exact hfirst passed final hfinal

theorem RuleSet.run_keeps (hrun : run.Keeps P) {set : RuleSet}
    (hform : ∀ rule ∈ set.rules, rule.settings.form = rule.kind.form)
    (hkeeps : ∀ rule ∈ set.rules, rule.Keeps P) (h : P start)
    (hfinal : set.run fs run input start = some final) : P final := by
  rw [RuleSet.run] at hfinal
  split at hfinal
  · next next hrules => exact hrun.runAll (testRules_keeps hrun hform hkeeps h hrules) hfinal
  · next next hrules =>
    cases hfinal
    exact testRules_keeps hrun hform hkeeps h hrules
  · cases hfinal

end Keeps

/-- What all rules of a table keep is kept by every run of its sets that ends. -/
theorem enter_keeps [Plugins] [PluginTests] {table : SetTable} (htable : table.IsBuiltin)
    {P : Session → Prop} (hkeeps : ∀ rule, table.HasRule rule → rule.Keeps P)
    (fs : FileSystem) (depth : Nat) :
    (enter table fs depth).Keeps P := by
  -- the sets that a set runs, as children or through a filter, have one level less
  induction depth with
  | zero =>
    intro name input start final h hfinal
    rw [enter] at hfinal
    split at hfinal
    · cases hfinal
    · cases hfinal
      exact h
  | succ depth ih =>
    intro name input start final h hfinal
    rw [enter] at hfinal
    split at hfinal
    · next set hset =>
      exact RuleSet.run_keeps ih (fun rule hrule => (htable name set hset rule hrule).form_eq)
        (fun rule hrule => hkeeps rule ⟨name, set, hset, hrule⟩) h hfinal
    · cases hfinal
      exact h

end Rulebook
