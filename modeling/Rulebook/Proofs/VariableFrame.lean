/-
  Rulebook.Proofs.VariableFrame

  Which variables a test may change: those that file filters set.  All others are
  after a test what they were before, set or not.  Without file filters nothing of a
  test is left behind but its report and its printed text, and both are the same for
  every input and every time (`Engine.test_frame`).
-/
import Rulebook.Engine
import Rulebook.Kind.Custom
import Rulebook.Proofs.Invariance
import Rulebook.Proofs.NameMaps
import Rulebook.Proofs.RunCongruence

namespace Rulebook

/-! ## Variables that rules set -/

theorem IssueSettings.bindings_record (settings : IssueSettings) (session : Session) :
    (settings.record session).bindings = session.bindings := by
  unfold record
  split <;> rfl

theorem FilterSettings.getElem?_bindings_store (filter : FilterSettings) {name : String}
    (hname : name ≠ filter.nameVariable) (hpath : name ≠ filter.pathVariable)
    (session : Session) (path : String) :
    (filter.store session path).bindings[name]? = session.bindings[name]? := by
  simp only [store, Session.setVariable]
  rw [NameMap.getElem?_insert_name, if_neg hname.symm, NameMap.getElem?_insert_name,
    if_neg hpath.symm]

section Frame

variable [Plugins]

/-- The names of the variables that a rule holds to set them: none if it is no file filter. -/
def Rule.outputs (rule : Rule) : List String :=
  match rule.settings with
  | .filter filter => [filter.nameVariable, filter.pathVariable]
  | _ => []

/-- A rule of the table sets the variable. -/
def SetTable.Outputs (table : SetTable) (name : String) : Prop :=
  ∃ rule, table.HasRule rule ∧ name ∈ rule.outputs

/-- The table has no file filter. -/
def SetTable.NoFilter (table : SetTable) : Prop :=
  ∀ rule, table.HasRule rule → rule.kind ≠ .fileFilter

/-- A rule leaves a variable as it is that it does not hold, if the names that it holds
    are not replaced when it is resolved. -/
theorem Rule.IsBuiltin.keeps_variable {rule : Rule} (hrule : rule.IsBuiltin)
    (hname : rule.kind = .fileFilter → "varname" ∉ rule.dynamic.names)
    (hpath : rule.kind = .fileFilter → "varpath" ∉ rule.dynamic.names) {name : String}
    (houtput : name ∉ rule.outputs) (value : Option String) :
    rule.Keeps fun session => session.bindings[name]? = value := by
  intro session settings _ hresolve
  cases settings with
  | guard settings => trivial
  | print settings => exact fun _ h => h
  | issue settings =>
    intro session h
    rw [settings.bindings_record]
    exact h
  | filter filter =>
    obtain ⟨stored, hstored, hkind, -, hnames, hpaths⟩ := hrule.resolve_filter hresolve
    -- the filter that was resolved sets the variables that the rule holds
    simp only [outputs, hstored, List.mem_cons, List.not_mem_nil, or_false, not_or,
      ← hnames (hname hkind), ← hpaths (hpath hkind)] at houtput
    intro session path h
    rw [filter.getElem?_bindings_store houtput.1 houtput.2]
    exact h
  | custom stored => exact absurd hresolve (hrule.resolve_ne_custom stored)

/-- A run leaves all variables as they are that no file filter of its table holds. -/
theorem getElem?_bindings_enter [PluginTests] {table : SetTable} (htable : table.IsBuiltin)
    (hname : table.FilterStatic "varname") (hpath : table.FilterStatic "varpath")
    {name : String} (houtput : ¬ table.Outputs name) {fs : FileSystem} {depth : Nat}
    {root : String} {input : Input} {start final : Session}
    (h : enter table fs depth root input start = some final) :
    final.bindings[name]? = start.bindings[name]? := by
  have hkeeps : ∀ rule, table.HasRule rule →
      rule.Keeps fun session => session.bindings[name]? = start.bindings[name]? := by
    intro rule hrule
    have hbuiltin : rule.IsBuiltin := SetTable.isBuiltin_iff.mp htable rule hrule
    exact hbuiltin.keeps_variable (hname rule hrule) (hpath rule hrule)
      (fun hmem => houtput ⟨rule, hrule, hmem⟩) _
  exact enter_keeps htable hkeeps fs depth root input start final rfl h

/-! ## Tables without file filters -/

namespace SetTable.NoFilter

variable {table : SetTable}

theorem filterStatic (h : table.NoFilter) (field : String) : table.FilterStatic field :=
  fun rule hrule hkind => absurd hkind (h rule hrule)

theorem not_outputs (htable : table.IsBuiltin) (h : table.NoFilter) (name : String) :
    ¬ table.Outputs name := by
  rintro ⟨rule, hrule, hmem⟩
  have hbuiltin : rule.IsBuiltin := SetTable.isBuiltin_iff.mp htable rule hrule
  unfold Rule.outputs at hmem
  split at hmem
  · next filter hsettings =>
    have hform : rule.settings.form = .filter := by
      rw [hsettings]
      rfl
    exact h rule hrule (hbuiltin.kind_eq_fileFilter hform)
  · cases hmem

/-- A run leaves all variables as they are. -/
theorem bindings_enter [PluginTests] (htable : table.IsBuiltin) (h : table.NoFilter)
    {fs : FileSystem} {depth : Nat} {root : String} {input : Input} {start final : Session}
    (hrun : enter table fs depth root input start = some final) :
    final.bindings = start.bindings :=
  Std.ExtTreeMap.ext_getElem? fun name =>
    getElem?_bindings_enter htable (h.filterStatic _) (h.filterStatic _)
      (h.not_outputs htable name) hrun

/-- A run does not depend on its input or on the file system. -/
theorem enter_eq [PluginTests] (htable : table.IsBuiltin) (h : table.NoFilter) (fs fs' : FileSystem)
    (depth : Nat) (root : String) (input input' : Input) (start : Session) :
    enter table fs depth root input start = enter table fs' depth root input' start := by
  induction depth generalizing root start with
  | zero => rfl
  | succ depth ih =>
    rw [enter, enter]
    cases hset : table[root]? with
    | none => rfl
    | some set =>
      have htest : ∀ rule ∈ set.rules, ∀ session,
          rule.test fs (enter table fs depth) input session =
            rule.test fs' (enter table fs' depth) input' session := fun rule hrule =>
        (htable root set hset rule hrule).test_congr_of_ne (h rule ⟨root, set, hset, hrule⟩)
      exact RuleSet.run_congr rfl htest
        (Runner.runAll_congr fun child _ session => ih child session) start

end SetTable.NoFilter

/-! ## Tests one after another -/

namespace Engine

variable [PluginTests]

/-- Tests of one rule set one after another.  Each is run in a file system and on an input of
    its own, with the variables that the tests before it have left. -/
def testEach (engine : Engine) (depth : Nat) (root : String) :
    List (FileSystem × Input) → Option (List Session)
  | [] => some []
  | (fs, input) :: rest => do
    let session ← engine.test fs depth root input
    let sessions ← (engine.after session).testEach depth root rest
    return session :: sessions

/-- If a test comes out alike everywhere and leaves the variables as they are, so do all tests
    that are made. -/
theorem testEach_eq {engine : Engine} {depth : Nat} {root : String} {final : Session}
    (htest : ∀ fs input, engine.test fs depth root input = some final)
    (hbindings : final.bindings = engine.bindings) (steps : List (FileSystem × Input)) :
    engine.testEach depth root steps = some (steps.map fun _ => final) := by
  have hafter : engine.after final = engine := by
    rw [after, hbindings]
  -- each test starts from the engine with which the first one started
  induction steps with
  | nil => rfl
  | cons step steps ih =>
    obtain ⟨fs, input⟩ := step
    simp [testEach, htest, hafter, ih]

/-- If no file filter has a dynamic field for the variables that it sets, a test that ends
    leaves all other variables as they are.  If there is no file filter, it leaves all as they
    are, comes out alike for every input and in every file system, and ends each time that it
    is repeated with the same report and the same printed text. -/
theorem test_frame {engine : Engine} (hbuiltin : engine.sets.IsBuiltin) (root : String) :
    (engine.sets.FilterStatic "varname" → engine.sets.FilterStatic "varpath" →
      ∀ fs depth input final, engine.test fs depth root input = some final →
        ∀ name, ¬ engine.sets.Outputs name → final.bindings[name]? = engine.bindings[name]?) ∧
    (engine.sets.NoFilter →
      (∀ fs fs' depth input input',
        engine.test fs depth root input = engine.test fs' depth root input') ∧
      ∀ fs depth input final, engine.test fs depth root input = some final →
        final.bindings = engine.bindings ∧
        ∀ steps : List (FileSystem × Input),
          engine.testEach depth root steps = some (steps.map fun _ => final)) := by
  constructor
  · intro hname hpath fs depth input final h name houtput
    exact getElem?_bindings_enter hbuiltin hname hpath houtput h
  · intro hfilter
    have halike : ∀ fs fs' depth input input',
        engine.test fs depth root input = engine.test fs' depth root input' :=
      fun fs fs' depth input input' =>
        hfilter.enter_eq hbuiltin fs fs' depth root input input' _
    refine ⟨halike, fun fs depth input final h => ?_⟩
    have hbindings : final.bindings = engine.bindings := hfilter.bindings_enter hbuiltin h
    exact ⟨hbindings, testEach_eq (fun fs' input' => (halike fs' fs depth input' input).trans h)
      hbindings⟩

end Engine

end Frame

namespace Engine

/-- A filter with a dynamic field for the sets that it runs sets `n` and `p` and no other
    variable.  In the second engine the message of a warning is dynamic and read from a
    variable that no test changes. -/
theorem test_frame_filter :
    let leaf : RuleSet := ⟨[⟨.warning, .issue ⟨.warning, none, none, some "p"⟩,
      (∅ : Roster String).set "message" "\x7bx\x7d"⟩], []⟩
    let root : RuleSet := ⟨[⟨.fileFilter, .filter { nameVariable := "n", pathVariable := "p" },
      (∅ : Roster String).set "then" "\x7bt\x7d"⟩], []⟩
    let filtering : Engine :=
      { sets := NameMap.ofEntries [("leaf", leaf), ("root", root)]
        bindings := NameMap.ofEntries [("t", "leaf"), ("x", "1")] }
    let plain : Engine :=
      { sets := NameMap.ofEntries [("leaf", leaf)], bindings := NameMap.ofEntries [("x", "1")] }
    let left (bindings : Variables) : Session :=
      { bindings, report := (∅ : Report).addUnder "" ⟨.warning, "1", "p"⟩ }
    (filtering.sets.IsBuiltin ∧ filtering.sets.FilterStatic "varname" ∧
      filtering.sets.FilterStatic "varpath" ∧
      ∃ final, filtering.test .empty 2 "root" (.path "a/b") = some final ∧
        ∀ name, ¬ filtering.sets.Outputs name →
          final.bindings[name]? = filtering.bindings[name]?) ∧
    plain.sets.IsBuiltin ∧ plain.sets.NoFilter ∧
      plain.test .empty 1 "leaf" .other = some (left plain.bindings) ∧
      ∀ steps : List (FileSystem × Input),
        plain.testEach 1 "leaf" steps = some (steps.map fun _ => left plain.bindings) := by
  intro leaf root filtering plain left
  have hfiltering : filtering.sets.IsBuiltin :=
    SetTable.isBuiltin_iff.mpr (SetTable.forall_hasRule_ofEntries (by decide))
  have hname : filtering.sets.FilterStatic "varname" :=
    SetTable.forall_hasRule_ofEntries (by decide)
  have hpath : filtering.sets.FilterStatic "varpath" :=
    SetTable.forall_hasRule_ofEntries (by decide)
  have hplain : plain.sets.IsBuiltin :=
    SetTable.isBuiltin_iff.mpr (SetTable.forall_hasRule_ofEntries (by decide))
  have hfilter : plain.sets.NoFilter := SetTable.forall_hasRule_ofEntries (by decide)
  have hrun : filtering.test .empty 2 "root" (.path "a/b") =
      some (left (NameMap.ofEntries [("t", "leaf"), ("x", "1"), ("p", "a/b"), ("n", "b")])) := by
    cbv
  have hplainRun : plain.test .empty 1 "leaf" .other = some (left plain.bindings) := by cbv
  have hframe := (test_frame hfiltering "root").1 hname hpath .empty 2 (.path "a/b") _ hrun
  obtain ⟨-, hagain⟩ := ((test_frame hplain "leaf").2 hfilter).2 .empty 1 .other _ hplainRun
  exact ⟨⟨hfiltering, hname, hpath, _, hrun, hframe⟩, hplain, hfilter, hplainRun, hagain⟩

end Engine

end Rulebook
