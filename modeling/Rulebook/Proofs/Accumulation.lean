/-
  Rulebook.Proofs.Accumulation

  The issues that a report already holds do not influence a run of built-in
  rules: the run changes variables and printed text as it would with an empty
  report, and adds to the report the issues that it would record then, one by one.
-/
import Rulebook.Kind.Custom
import Rulebook.Proofs.Trace

namespace Rulebook

/-- A run that starts with some report records the issues that it records when it starts
    with none, in the same order, and sets and prints the same.  So the keys of the report
    stay in front, its groups grow at their ends, and no count falls. -/
theorem RuleSet.run_accumulates [Plugins] [PluginTests] {table : SetTable}
    (htable : table.IsBuiltin) {fs : FileSystem} {name : String} {set : RuleSet}
    (hset : table[name]? = some set) {depth : Nat} {input : Input} {start final : Session}
    (hrun : set.run fs (enter table fs depth) input start = some final) :
    ∃ recorded : List (String × Issue),
      set.trace fs (traceEnter table fs depth) input ⟨start.bindings, [], start.printed⟩ =
        some ⟨final.bindings, recorded, final.printed⟩ ∧
      set.run fs (enter table fs depth) input { start with report := ∅ } =
        some { final with report := (∅ : Report).addAll recorded } ∧
      final.report = start.report.addAll recorded ∧
      start.report.keys <+: final.report.keys ∧
      (∀ key, start.report.issuesUnder key <+: final.report.issuesUnder key) ∧
      ∀ kind, start.report.countOf kind ≤ final.report.countOf kind := by
  -- both runs follow the one trace that starts with these variables
  have hfollows : ∀ report : Report,
      set.run fs (enter table fs depth) input { start with report } =
        (set.trace fs (traceEnter table fs depth) input
          ⟨start.bindings, [], start.printed⟩).map (Trace.session report) :=
    fun report => RuleSet.run_session (enter_session htable fs report depth)
      (htable name set hset) input ⟨start.bindings, [], start.printed⟩
  have hstart := (hfollows start.report).symm.trans hrun
  obtain ⟨t, htrace, rfl⟩ := Option.map_eq_some_iff.mp hstart
  refine ⟨t.recorded, htrace, ?_, rfl, Report.keys_prefix_addAll _ _,
    Report.issuesUnder_prefix_addAll _ _, Report.countOf_le_addAll _ _⟩
  rw [hfollows ∅, htrace]
  rfl

/-- A filter runs a set on a path, which runs again as a child.  Both issues, with the text
    that the filter has stored, go behind the one that the report holds under their key. -/
theorem RuleSet.run_accumulates_filter :
    let leaf : RuleSet := ⟨[⟨.problem, .issue ⟨.problem, some "k", none, some "p"⟩,
      (∅ : Roster String).set "message" "{file-name}"⟩], []⟩
    let root : RuleSet := ⟨[⟨.fileFilter, .filter { targets := some "leaf" }, ∅⟩], ["leaf"]⟩
    let table : SetTable := (Std.ExtTreeMap.insert ∅ "leaf" leaf).insert "root" root
    let start : Session :=
      { bindings := ∅, report := (∅ : Report).addUnder "k" ⟨.warning, "m", "q"⟩ }
    let final : Session :=
      { bindings := (Std.ExtTreeMap.insert ∅ "file-path" "a/b").insert "file-name" "b"
        report := start.report.addAll [("k", ⟨.problem, "b", "p"⟩), ("k", ⟨.problem, "b", "p"⟩)] }
    table.IsBuiltin ∧ table["root"]? = some root ∧
      root.run .empty (enter table .empty 1) (.path "a/b") start = some final ∧
      ∃ recorded : List (String × Issue),
        root.trace .empty (traceEnter table .empty 1) (.path "a/b") ⟨∅, [], ""⟩ =
          some ⟨final.bindings, recorded, final.printed⟩ ∧
        root.run .empty (enter table .empty 1) (.path "a/b") { start with report := ∅ } =
          some { final with report := (∅ : Report).addAll recorded } ∧
        final.report = start.report.addAll recorded ∧
        start.report.keys <+: final.report.keys ∧
        (∀ key, start.report.issuesUnder key <+: final.report.issuesUnder key) ∧
        ∀ kind, start.report.countOf kind ≤ final.report.countOf kind := by
  intro leaf root table start final
  have htable : table.IsBuiltin := by
    intro name set hset
    rw [NameMap.getElem?_insert_name, NameMap.getElem?_insert_name] at hset
    split at hset
    · cases hset
      intro rule hrule
      obtain rfl := List.mem_singleton.mp hrule
      exact ⟨by decide, rfl⟩
    · split at hset
      · cases hset
        intro rule hrule
        obtain rfl := List.mem_singleton.mp hrule
        exact ⟨by decide, rfl⟩
      · simp at hset
  have hroot : table["root"]? = some root := by cbv
  have hrun : root.run .empty (enter table .empty 1) (.path "a/b") start = some final := by cbv
  exact ⟨htable, hroot, hrun, RuleSet.run_accumulates htable hroot hrun⟩

end Rulebook
