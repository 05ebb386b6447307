/-
  Rulebook.Proofs.Simulation

  Two runs of the same built-in rules side by side.  A relation between sessions
  which every change of a session keeps, and under which dynamic fields resolve
  alike, is kept by whole runs: a run that ends is matched by the run from a related
  session, which may nest as deep or deeper (`enter_simulated`).  For equality this
  says that a larger bound on the depth changes no result (`enter_mono`).
-/
import Rulebook.Evaluation
import Rulebook.Proofs.Builtin

namespace Rulebook

/-! ## Results that match -/

/-- If there is a first result, there is a second one too, and the two are related. -/
def Matched {α : Type} (R : α → α → Prop) (o o' : Option α) : Prop :=
  ∀ a, o = some a → ∃ a', o' = some a' ∧ R a a'

namespace Matched

variable {α β : Type} {R : α → α → Prop} {S : β → β → Prop}

theorem none (o : Option α) : Matched R Option.none o := nofun

theorem some {a a' : α} (h : R a a') : Matched R (.some a) (.some a') := by
  intro b hb
  cases hb
  exact ⟨a', rfl, h⟩

theorem map {f : α → β} {o o' : Option α} (h : Matched R o o')
    (hf : ∀ a a', R a a' → S (f a) (f a')) : Matched S (o.map f) (o'.map f) := by
  intro b hb
  obtain ⟨a, ha, rfl⟩ := Option.map_eq_some_iff.mp hb
  obtain ⟨a', ha', hR⟩ := h a ha
  exact ⟨f a', by rw [ha', Option.map_some], hf a a' hR⟩

/-- A loop whose steps match is matched. -/
theorem foldlM {γ : Type} {step step' : α → γ → Option α}
    (hstep : ∀ c a a', R a a' → Matched R (step a c) (step' a' c)) (cs : List γ) {a a' : α}
    (h : R a a') : Matched R (cs.foldlM step a) (cs.foldlM step' a') := by
  induction cs generalizing a a' with
  | nil => exact .some h
  | cons c cs ih =>
    intro final hfinal
    rw [List.foldlM_cons] at hfinal
    obtain ⟨next, hnext, hrest⟩ := Option.bind_eq_some_iff.mp hfinal
    obtain ⟨next', hnext', hR⟩ := hstep c a a' h next hnext
    obtain ⟨final', hfinal', hlast⟩ := ih hR final hrest
    refine ⟨final', ?_, hlast⟩
    rw [List.foldlM_cons, hnext']
    exact hfinal'

end Matched

/-! ## Relations that runs keep -/

/-- A relation between sessions that is kept when both set a variable, record an issue or
    print a text. -/
structure Session.Congruence (R : Session → Session → Prop) : Prop where
  setVariable : ∀ {s s' : Session}, R s s' → ∀ name value,
    R (s.setVariable name value) (s'.setVariable name value)
  record : ∀ {s s' : Session}, R s s' → ∀ key issue,
    R (s.record key issue) (s'.record key issue)
  printLine : ∀ {s s' : Session}, R s s' → ∀ text, R (s.printLine text) (s'.printLine text)

theorem Session.congruence_eq : Session.Congruence (· = ·) where
  setVariable h _ _ := h ▸ rfl
  record h _ _ := h ▸ rfl
  printLine h _ := h ▸ rfl

/-- The variables of related sessions resolve the dynamic fields of a rule alike. -/
def Rule.ResolvesAlike [Plugins] (R : Session → Session → Prop) (rule : Rule) : Prop :=
  ∀ s s', R s s' → rule.resolve s.bindings = rule.resolve s'.bindings

/-- What one way to run sets does from a session, the other does from a related one. -/
def Runner.SimulatedBy (R : Session → Session → Prop) (run run' : Runner) : Prop :=
  ∀ name input s s', R s s' → Matched R (run name input s) (run' name input s')

/-- Two outcomes of a rule agree on whether it passed and are related in what they left. -/
def SameVerdict (R : Session → Session → Prop) (outcome outcome' : Bool × Session) : Prop :=
  outcome.1 = outcome'.1 ∧ R outcome.2 outcome'.2

section Simulated

variable {R : Session → Session → Prop} {fs : FileSystem} {run run' : Runner}
  {input : Input} {s s' : Session}

theorem Runner.SimulatedBy.runAll (hrun : run.SimulatedBy R run') (names : List String)
    (input : Input) (h : R s s') :
    Matched R (run.runAll names input s) (run'.runAll names input s') :=
  Matched.foldlM (fun name t t' ht => hrun name input t t' ht) names h

theorem IssueSettings.record_related (hR : Session.Congruence R) (settings : IssueSettings)
    (h : R s s') : R (settings.record s) (settings.record s') := by
  unfold IssueSettings.record
  split
  · exact hR.record h _ _
  · exact h

theorem FilterSettings.visit_matched (hR : Session.Congruence R) (hrun : run.SimulatedBy R run')
    (filter : FilterSettings) (path : String) (h : R s s') :
    Matched R (filter.visit fs run s path) (filter.visit fs run' s' path) := by
  unfold FilterSettings.visit
  split
  · -- both store the same texts before they run the sets of the filter
    have hstored := hR.setVariable (hR.setVariable h filter.pathVariable path)
      filter.nameVariable (Path.fileName path)
    cases filter.targets with
    | none => exact .some hstored
    | some targets => exact hrun.runAll (Text.words targets) (.path path) hstored
  · exact .some h

/-- A first rule that passes or fails is matched by a second one that does the same. -/
theorem Matched.exists_of_verdict {o o' : Option (Bool × Session)}
    (h : Matched (SameVerdict R) o o') {passed : Bool} {t : Session}
    (ho : o = Option.some (passed, t)) : ∃ t', o' = Option.some (passed, t') ∧ R t t' := by
  obtain ⟨⟨passed', t'⟩, ho', hpassed, ht⟩ := h _ ho
  obtain rfl : passed = passed' := hpassed
  exact ⟨t', ho', ht⟩

variable [Plugins] [PluginTests]

theorem Settings.test_matched (hR : Session.Congruence R) (hrun : run.SimulatedBy R run')
    {settings : Settings} (hform : ¬ settings.form.IsCustom) (input : Input) (h : R s s') :
    Matched (SameVerdict R) (settings.test fs run input s)
      (settings.test fs run' input s') := by
  cases settings with
  | guard settings => exact .some ⟨rfl, h⟩
  | print settings => exact .some ⟨rfl, hR.printLine h _⟩
  | issue settings => exact .some ⟨rfl, settings.record_related hR h⟩
  | filter settings =>
    simp only [Settings.test]
    cases input.path? with
    | none => exact .some ⟨rfl, h⟩
    | some path =>
      have hwalk : Matched R (settings.walk fs run s path) (settings.walk fs run' s' path) :=
        Matched.foldlM (fun path _ _ ht => settings.visit_matched hR hrun path ht)
          (settings.candidates fs path) h
      exact hwalk.map fun _ _ ht => ⟨rfl, ht⟩
  | custom rule => exact absurd trivial hform

theorem Rule.test_matched (hR : Session.Congruence R) (hrun : run.SimulatedBy R run')
    {rule : Rule} (hrule : rule.IsBuiltin) (halike : rule.ResolvesAlike R) (input : Input)
    (h : R s s') :
    Matched (SameVerdict R) (rule.test fs run input s) (rule.test fs run' input s') := by
  have hform : ¬ rule.settings.form.IsCustom := hrule.form_ne_custom
  unfold Rule.test
  split
  · -- from here on both go on with the same settings
    rw [← halike s s' h]
    cases hresolve : rule.resolve s.bindings with
    | error e => exact .some ⟨rfl, h⟩
    | ok settings =>
      have hsettings : settings.form = rule.settings.form := form_resolve hrule.form_eq hresolve
      exact Settings.test_matched hR hrun (hsettings ▸ hform) input h
  · exact Settings.test_matched hR hrun hform input h

theorem testRules_matched (hR : Session.Congruence R) (hrun : run.SimulatedBy R run')
    {rules : List Rule} (hrules : ∀ rule ∈ rules, rule.IsBuiltin)
    (halike : ∀ rule ∈ rules, rule.ResolvesAlike R) (input : Input) (h : R s s') :
    Matched (SameVerdict R) (testRules fs run input rules s)
      (testRules fs run' input rules s') := by
  induction rules generalizing s s' with
  | nil => exact .some ⟨rfl, h⟩
  | cons rule rules ih =>
    have htest : Matched (SameVerdict R) (rule.test fs run input s) (rule.test fs run' input s') :=
      Rule.test_matched hR hrun (hrules rule (by simp)) (halike rule (by simp)) input h
    rw [testRules, testRules]
    rcases hrule : rule.test fs run input s with _ | ⟨_ | _, t⟩
    · exact .none _
    · obtain ⟨t', hrule', ht⟩ := htest.exists_of_verdict hrule
      rw [hrule']
      exact .some ⟨rfl, ht⟩
    · obtain ⟨t', hrule', ht⟩ := htest.exists_of_verdict hrule
      rw [hrule']
      exact ih (fun other hother => hrules other (List.mem_cons_of_mem _ hother))
        (fun other hother => halike other (List.mem_cons_of_mem _ hother)) ht

theorem RuleSet.run_matched (hR : Session.Congruence R) (hrun : run.SimulatedBy R run')
    {set : RuleSet} (hset : set.IsBuiltin) (halike : ∀ rule ∈ set.rules, rule.ResolvesAlike R)
    (input : Input) (h : R s s') :
    Matched R (set.run fs run input s) (set.run fs run' input s') := by
  have hrules : Matched (SameVerdict R) (testRules fs run input set.rules s)
      (testRules fs run' input set.rules s') :=
    testRules_matched hR hrun hset halike input h
  rw [RuleSet.run, RuleSet.run]
  rcases htest : testRules fs run input set.rules s with _ | ⟨_ | _, t⟩
  · exact .none _
  · obtain ⟨t', htest', ht⟩ := hrules.exists_of_verdict htest
    rw [htest']
    exact .some ht
  · obtain ⟨t', htest', ht⟩ := hrules.exists_of_verdict htest
    rw [htest']
    exact hrun.runAll set.children input ht

end Simulated

/-! ## Runs with bounds on the depth -/

variable [Plugins] [PluginTests]

/-- A name without a set has no effect at any depth. -/
theorem enter_of_not_mem {table : SetTable} {name : String} (h : name ∉ table)
    (fs : FileSystem) (depth : Nat) (input : Input) (session : Session) :
    enter table fs depth name input session = some session := by
  cases depth with
  | zero =>
    rw [enter, if_neg]
    exact h
  | succ depth =>
    have hset : table[name]? = none := by simpa using h
    rw [enter, hset]

/-- Runs of the sets of a table are matched from related sessions, if these may nest at least
    as deep. -/
theorem enter_simulated {table : SetTable} (htable : table.IsBuiltin)
    {R : Session → Session → Prop} (hR : Session.Congruence R)
    (halike : ∀ (name : String) (set : RuleSet), table[name]? = some set →
      ∀ rule ∈ set.rules, rule.ResolvesAlike R) (fs : FileSystem) {depth depth' : Nat}
    (hdepth : depth ≤ depth') :
    (enter table fs depth).SimulatedBy R (enter table fs depth') := by
  induction depth generalizing depth' with
  | zero =>
    intro name input s s' h
    by_cases hname : name ∈ table
    · have hcontains : table.contains name = true := hname
      rw [enter, if_pos hcontains]
      exact .none _
    · rw [enter_of_not_mem hname, enter_of_not_mem hname]
      exact .some h
  | succ depth ih =>
    intro name input s s' h
    obtain ⟨depth', rfl⟩ : ∃ n, depth' = n + 1 := Nat.exists_eq_add_one.mpr (by omega)
    have hrun : (enter table fs depth).SimulatedBy R (enter table fs depth') :=
      ih (by omega)
    rw [enter, enter]
    cases hset : table[name]? with
    | none => exact .some h
    | some set =>
      exact RuleSet.run_matched hR hrun (htable name set hset) (halike name set hset) input h

/-- A run that ends within some depth ends alike within every larger one. -/
theorem enter_mono {table : SetTable} (htable : table.IsBuiltin) {fs : FileSystem}
    {depth depth' : Nat} (hdepth : depth ≤ depth') {name : String} {input : Input}
    {start final : Session} (h : enter table fs depth name input start = some final) :
    enter table fs depth' name input start = some final := by
  have halike : ∀ (name : String) (set : RuleSet), table[name]? = some set →
      ∀ rule ∈ set.rules, rule.ResolvesAlike (· = ·) := by
    intro _ _ _ rule _ s s' hs
    rw [hs]
  obtain ⟨final', hfinal', rfl⟩ :=
    enter_simulated htable Session.congruence_eq halike fs hdepth name input start start rfl
      final h
  exact hfinal'

end Rulebook
