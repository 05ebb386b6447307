/-
  Rulebook.Proofs.CommandLine

  What a run of the command line prints, writes and returns, on any disk.  A run that comes to
  its end loads an engine (`Loads`), tests it (`Tests`) and writes the files that its options
  name (`Wrote`).  It prints what the rules print, the summary of the report and its export; the
  file of the issues is written with the same export; and the code tells whether there is a
  problem among the issues (`run_agrees`).

  Of a disk only one law is used, and only to say what is read in the end: that it reads back
  what was written to a path.  A disk that holds a tree of files does so at all paths
  (`FileTree.readsBack_disk`).
-/
import Rulebook.CommandLine.Run
import Rulebook.Kind.Counter
import Rulebook.Proofs.Document.Account
import Rulebook.Proofs.Grouping
import Rulebook.Proofs.Trace
import Rulebook.Proofs.WrittenFiles

namespace Rulebook

/-- A path that is one leads where its names do, from the root or from the working folder. -/
theorem FileTree.resolve_eq_walk {tree : FileTree} {aim : Aim} {path : String}
    {work names : List String} (hzero : path.contains '\x00' = false)
    (hsize : path.utf8ByteSize ≤ maxPathSize) (hempty : path.isEmpty = false)
    (hwork : tree.work = work)
    (hnames : (if Path.isAbsolute path then [] else work) ++ Path.steps path = names) :
    tree.resolve aim path = tree.walk aim names := by
  have hflaw : flaw? path = none := by simp [flaw?, hzero, hsize, hempty]
  rw [resolve, hflaw, startOf, hwork, hnames]

theorem FileTree.readsBack_disk (path : String) : disk.ReadsBack path := by
  intro tree text tree' h
  simp only [disk] at h ⊢
  split at h
  · next next hwrite =>
    cases h
    exact readText_of_writeText hwrite
  · cases h

/-! ## Engines with the built-in kinds -/

/-- What the built-in kinds load has rules of built-in kinds only. -/
theorem Engine.isBuiltin_load [Plugins] (document : Document) :
    (builtin.load document).1.sets.IsBuiltin := by
  intro name set hset rule hrule
  -- all sets come from the document, and all of their rules from lines
  have hnone : builtin.sets[name]? = none := Std.ExtTreeMap.getElem?_empty
  rw [getElem?_sets_load, hnone, Option.or_none] at hset
  obtain ⟨entry, -, rfl⟩ := Option.map_eq_some_iff.mp hset
  obtain ⟨line, -, hparse⟩ := exists_line_of_mem_setOf hrule
  have hregistry : (builtin.load document).1.registry = .builtin := registry_load builtin document
  rw [parse, hregistry] at hparse
  exact Rule.isBuiltin_of_parse hparse

/-- A test comes to what its trace says, with the issues added to an empty report. -/
theorem Engine.test_eq_trace [Plugins] [PluginTests] {engine : Engine}
    (hsets : engine.sets.IsBuiltin) (fs : FileSystem) (depth : Nat) (root : String)
    (input : Input) :
    engine.test fs depth root input =
      (traceEnter engine.sets fs depth root input { bindings := engine.bindings }).map
        (Trace.session ∅) := by
  have hstart : ({ bindings := engine.bindings } : Session) =
      Trace.session ∅ { bindings := engine.bindings } := rfl
  rw [test, hstart]
  exact enter_session hsets fs ∅ depth root input { bindings := engine.bindings }

/-! ## The report of a trace -/

/-- The summary of a ledger, from the counts that run along. -/
def Ledger.summary (ledger : Ledger) : String :=
  let issues := ledger.warnings + ledger.problems
  s!"Issues: {issues} (Warnings: {ledger.warnings}, Problems: {ledger.problems})"

theorem Ledger.Represents.summary_eq {ledger : Ledger} {report : Report}
    (h : ledger.Represents report) : ledger.summary = report.summary := by
  obtain ⟨groups, keys, warnings, problems⟩ := ledger
  obtain rfl : warnings = report.warningCount := h.warnings_eq
  obtain rfl : problems = report.problemCount := h.problems_eq
  rfl

namespace Trace

/-- The issues that the rules record, in the order of the evaluation. -/
def additions (t : Trace) : List Addition :=
  t.recorded.map fun (key, issue) => .under key issue

/-- The report of these issues. -/
def report (t : Trace) : Report := .ofAdditions t.additions

/-- Their report with counts that run along. -/
def ledger (t : Trace) : Ledger := .ofAdditions t.additions

/-- The report that a trace makes of an empty one is that of the calls that add its issues. -/
theorem report_session (t : Trace) : (t.session ∅).report = t.report := by
  rw [report, additions, Report.ofAdditions_eq, List.map_map]
  exact congrArg (Report.addAll ∅) (List.map_id' _).symm

/-- What is printed of a test behind what was printed before. -/
def output (t : Trace) (before : String) : String :=
  before ++ t.printed ++ t.report.summary ++ "\n" ++ t.report.exportText

end Trace

namespace CommandLine

/-- A report without problems is one in which no issue is a problem. -/
theorem exitCode_eq (session : Session) :
    exitCode session =
      if ∃ issue ∈ session.report.issues, issue.kind = .problem then 1 else 0 := by
  have hcount : session.report.problemCount = 0 ↔
      ¬ ∃ issue ∈ session.report.issues, issue.kind = .problem := by
    simp [Report.problemCount, Report.countOf]
  unfold exitCode
  split
  · next hnone => rw [if_neg (hcount.mp hnone), clean]
  · next hsome => rw [if_pos (not_not.mp (mt hcount.mpr hsome)), problemsFound]

section Disks

variable {σ : Type} {disk : Disk σ} {s : σ} {path : Option String} {text : String}

/-! ## Files that are written if they are named -/

/-- A text is written to a file, if one is named, and this leaves the disk in some state. -/
def Wrote (disk : Disk σ) (s : σ) (path : Option String) (text : String) (s' : σ) : Prop :=
  match path with
  | none => s' = s
  | some path => disk.writeText s path text = (.ok (), s')

/-- A file is named to which a text cannot be written. -/
def Refused (disk : Disk σ) (s : σ) (path : Option String) (text : String) : Prop :=
  ∃ file error s', path = some file ∧ disk.writeText s file text = (.error error, s')

theorem wrote_or_refused (disk : Disk σ) (s : σ) (path : Option String) (text : String) :
    (∃ s', Wrote disk s path text s') ∨ Refused disk s path text := by
  cases path with
  | none => exact .inl ⟨s, rfl⟩
  | some file =>
    cases hwrite : disk.writeText s file text with
    | mk result s' =>
      cases result with
      | ok _ => exact .inl ⟨s', hwrite⟩
      | error error => exact .inr ⟨file, error, s', rfl, hwrite⟩

/-- On a disk that reads back what is written the file holds the text. -/
theorem Wrote.readText {s' : σ} (h : Wrote disk s path text s') {file : String}
    (hfile : path = some file) (hdisk : disk.ReadsBack file) :
    disk.readText s' file = .ok text := by
  subst hfile
  exact hdisk s text s' h

/-! ## The parts of the program -/

theorem run_bind_eq {τ α β : Type} {first : StateM τ α} {next : α → StateM τ β} {t t' : τ} {a : α}
    (h : first.run t = (a, t')) : (first >>= next).run t = (next a).run t' := by
  rw [StateT.run_bind, h]
  rfl

variable {nesting code : Nat} {w : Workspace σ}

theorem readText_run (file : String) :
    ((disk.host nesting code).readText file).run w = (disk.readText w.tree file, w) := rfl

theorem writeText_run {file : String} {result : Except FileError Unit} {s' : σ}
    (h : disk.writeText w.tree file text = (result, s')) :
    ((disk.host nesting code).writeText file text).run w = (result, { w with tree := s' }) := by
  have hrun : ((disk.host nesting code).writeText file text).run w =
      ((disk.writeText w.tree file text).1,
        { w with tree := (disk.writeText w.tree file text).2 }) := rfl
  rw [hrun, h]

theorem writeIfNamed_of_wrote {s' : σ} (h : Wrote disk w.tree path text s') :
    (writeIfNamed (disk.host nesting code) path text).run w = (true, { w with tree := s' }) := by
  cases path with
  | none =>
    obtain rfl : s' = w.tree := h
    rfl
  | some file =>
    rw [writeIfNamed, run_bind_eq (writeText_run h)]
    rfl

theorem writeIfNamed_of_refused (h : Refused disk w.tree path text) :
    ∃ s', (writeIfNamed (disk.host nesting code) path text).run w =
      (false, { w with tree := s' }) := by
  obtain ⟨file, error, s', rfl, hwrite⟩ := h
  refine ⟨s', ?_⟩
  rw [writeIfNamed, run_bind_eq (writeText_run hwrite)]
  rfl

theorem forM_printLine_run (w : Workspace σ) (issues : List Issue) :
    (issues.forM fun issue => printLine (disk.host nesting code) issue.text).run w =
      ((), { w with
        output := w.output ++ String.join (issues.map fun issue => issue.text ++ "\n") }) := by
  induction issues generalizing w with
  | nil =>
    rw [List.map_nil, String.join_nil, String.append_empty]
    rfl
  | cons issue issues ih =>
    rw [List.map_cons, String.join_cons, ← String.append_assoc]
    exact ih { w with output := w.output ++ (issue.text ++ "\n") }

/-- The report is printed as its summary, on a line of its own, and its export. -/
theorem printReport_run (w : Workspace σ) (report : Report) :
    (printReport (disk.host nesting code) report).run w =
      ((), { w with output := w.output ++ report.summary ++ "\n" ++ report.exportText }) := by
  have hsummary : w.output ++ report.summary ++ "\n" = w.output ++ (report.summary ++ "\n") :=
    String.append_assoc
  rw [hsummary]
  exact forM_printLine_run { w with output := w.output ++ (report.summary ++ "\n") } report.issues

section Steps

variable [Plugins]

/-! ## The steps of a run -/

/-- The configuration that some options name is a document, and this is loaded into an engine
    with the built-in kinds. -/
def Loads (disk : Disk σ) (options : Options) (s : σ) (engine : Engine) : Prop :=
  ∃ text document, disk.readText s options.config = .ok text ∧
    Document.read text = .ok document ∧ engine = (Engine.builtin.load document).1

theorem Loads.isBuiltin {options : Options} {engine : Engine}
    (h : Loads disk options s engine) : engine.sets.IsBuiltin := by
  obtain ⟨text, document, -, -, rfl⟩ := h
  exact Engine.isBuiltin_load document

/-- A test of an engine comes to its end with some trace.  It looks at the disk as it is after
    the reference was written, if a file is named for that. -/
structure Tests (disk : Disk σ) (nesting : Nat) (options : Options) (engine : Engine) (s tested : σ)
    (t : Trace) : Prop where
  reference : Wrote disk s options.reference engine.registry.documentation tested
  trace : traceEnter engine.sets (disk.view tested) nesting options.root
    (.path options.input) { bindings := engine.bindings } = some t

/-- What a run fails at: reading the configuration, or writing one of the files that its options
    name. -/
inductive Fails (disk : Disk σ) (nesting : Nat) (options : Options) (s : σ) : Prop
  | unread {error : FileError} (h : disk.readText s options.config = .error error)
  | malformed {text : String} {error : DocumentError}
      (htext : disk.readText s options.config = .ok text) (h : Document.read text = .error error)
  | reference {engine : Engine} (hload : Loads disk options s engine)
      (h : Refused disk s options.reference engine.registry.documentation)
  | issues {engine : Engine} {tested : σ} {t : Trace} (hload : Loads disk options s engine)
      (htests : Tests disk nesting options engine s tested t)
      (h : Refused disk tested options.issues t.report.exportText)

/-- The sets of a run nest deeper than there is room for. -/
structure Overflows (disk : Disk σ) (nesting : Nat) (options : Options) (s : σ) (engine : Engine)
    (tested : σ) : Prop where
  load : Loads disk options s engine
  reference : Wrote disk s options.reference engine.registry.documentation tested
  trace : traceEnter engine.sets (disk.view tested) nesting options.root
    (.path options.input) { bindings := engine.bindings } = none

/-- A run that is not ended for want of room comes to its end, or fails. -/
theorem ends_or_fails_or_overflows (disk : Disk σ) (nesting : Nat) (options : Options) (s : σ) :
    (∃ engine tested t final, Loads disk options s engine ∧
      Tests disk nesting options engine s tested t ∧
      Wrote disk tested options.issues t.report.exportText final) ∨
    Fails disk nesting options s ∨
    ∃ engine tested, Overflows disk nesting options s engine tested := by
  -- stage by stage: what is not refused there goes on to the next
  cases htext : disk.readText s options.config with
  | error error => exact .inr (.inl (.unread htext))
  | ok text =>
    cases hread : Document.read text with
    | error error => exact .inr (.inl (.malformed htext hread))
    | ok document =>
      have hload : Loads disk options s (Engine.builtin.load document).1 :=
        ⟨text, document, htext, hread, rfl⟩
      rcases wrote_or_refused disk s options.reference
        (Engine.builtin.load document).1.registry.documentation with ⟨tested, hreference⟩ | hrefused
      · cases htrace : traceEnter (Engine.builtin.load document).1.sets (disk.view tested) nesting
          options.root (.path options.input)
          { bindings := (Engine.builtin.load document).1.bindings } with
        | none => exact .inr (.inr ⟨_, tested, hload, hreference, htrace⟩)
        | some t =>
          have htests : Tests disk nesting options _ s tested t := ⟨hreference, htrace⟩
          rcases wrote_or_refused disk tested options.issues t.report.exportText with
            ⟨final, hissues⟩ | hrefused
          · exact .inl ⟨_, tested, t, final, hload, htests, hissues⟩
          · exact .inr (.inl (.issues hload htests hrefused))
      · exact .inr (.inl (.reference hload hrefused))

variable [PluginTests] {options : Options} {engine : Engine}

/-- A run that loads an engine goes on to test it. -/
theorem run_of_loads (h : Loads disk options w.tree engine) :
    (run (disk.host nesting code) options).run w =
      (test (disk.host nesting code) options engine).run w := by
  obtain ⟨text, document, htext, hread, rfl⟩ := h
  rw [run, run_bind_eq (readText_run options.config), htext]
  simp only [hread]

/-- A test that comes to its end prints its report, and what is left is to write the issues. -/
theorem test_run (hsets : engine.sets.IsBuiltin) {tested : σ} {t : Trace}
    (h : Tests disk nesting options engine w.tree tested t) :
    (test (disk.host nesting code) options engine).run w =
      let (written, after) := (writeIfNamed (disk.host nesting code) options.issues
        t.report.exportText).run ⟨tested, t.output w.output⟩
      (if written then exitCode (t.session ∅) else failed, after) := by
  -- a trace stands for the session that the run ends with
  have hsession : engine.test (disk.view tested) nesting options.root (.path options.input) =
      some (t.session ∅) := by
    rw [Engine.test_eq_trace hsets, h.trace]
    rfl
  have hsurvey : ((disk.host nesting code).survey options.input).run { w with tree := tested } =
      (disk.view tested, { w with tree := tested }) := rfl
  have hprint : ((disk.host nesting code).print (t.session ∅).printed).run
      { w with tree := tested } = ((), { tree := tested, output := w.output ++ t.printed }) := rfl
  have hreport : (printReport (disk.host nesting code) t.report).run
      { tree := tested, output := w.output ++ t.printed } =
        ((), { tree := tested, output := t.output w.output }) := printReport_run _ _
  have hnesting : (disk.host nesting code).nesting = nesting := rfl
  -- the reference is written before the files are looked at
  rw [test, run_bind_eq (writeIfNamed_of_wrote h.reference), if_pos rfl, run_bind_eq hsurvey,
    hnesting, hsession]
  simp only
  rw [run_bind_eq hprint, t.report_session, run_bind_eq hreport]
  generalize hwritten : (writeIfNamed (disk.host nesting code) options.issues
    t.report.exportText).run _ = result
  obtain ⟨written, after⟩ := result
  rw [run_bind_eq hwritten]
  cases written <;> rfl

/-- What the run fails at leads to the code of a failed run, whatever was done before. -/
theorem fst_run_of_fails (h : Fails disk nesting options w.tree) :
    ((run (disk.host nesting code) options).run w).1 = failed := by
  cases h with
  | unread h =>
    rw [run, run_bind_eq (readText_run options.config), h]
    rfl
  | malformed htext h =>
    rw [run, run_bind_eq (readText_run options.config), htext]
    simp only [h]
    rfl
  | reference hload h =>
    obtain ⟨s', hrefused⟩ := writeIfNamed_of_refused h
    rw [run_of_loads hload, test, run_bind_eq hrefused]
    rfl
  | @issues engine tested t hload htests h =>
    -- by now the report is printed, but the disk is as the test has seen it
    have hprinted : Refused disk (⟨tested, t.output w.output⟩ : Workspace σ).tree options.issues
      t.report.exportText := h
    obtain ⟨s', hrefused⟩ := writeIfNamed_of_refused hprinted
    rw [run_of_loads hload, test_run hload.isBuiltin htests, hrefused]
    rfl

/-- A run that comes to its end prints what the rules print, in the order of the evaluation,
    then the summary of the report on a line, and then its export.  The file for the issues is
    written with the same export, and holds it if the disk reads back what is written there.  The
    code is 1 if some issue of the report is a problem and 0 if none is, whatever else the report
    holds and the loading has dropped.  A ledger of the issues that the rules record has the same
    issues, and its counts give the summary and the code.  A run that fails has code 2.  A
    run is of one of these two sorts, unless its sets nest deeper than there is room for. -/
theorem run_agrees (disk : Disk σ) (nesting code : Nat) (options : Options) (w : Workspace σ) :
    let result : Nat × Workspace σ := (run (disk.host nesting code) options).run w
    (∀ engine tested t final, Loads disk options w.tree engine →
      Tests disk nesting options engine w.tree tested t →
      Wrote disk tested options.issues t.report.exportText final →
      let report := t.report
      let ledger := t.ledger
      result.2.output =
        w.output ++ t.printed ++ report.summary ++ "\n" ++ report.exportText ∧
      result.2.tree = final ∧
      (∀ file, options.issues = some file → disk.ReadsBack file →
        disk.readText result.2.tree file = .ok report.exportText) ∧
      result.1 = (if ∃ issue ∈ report.issues, issue.kind = .problem then 1 else 0) ∧
      ledger.issues = report.issues ∧ ledger.summary = report.summary ∧
      result.1 = (if ledger.problems = 0 then 0 else 1)) ∧
    (Fails disk nesting options w.tree → result.1 = 2) ∧
    ((∃ engine tested t final, Loads disk options w.tree engine ∧
        Tests disk nesting options engine w.tree tested t ∧
        Wrote disk tested options.issues t.report.exportText final) ∨
      Fails disk nesting options w.tree ∨
      ∃ engine tested, Overflows disk nesting options w.tree engine tested) := by
  intro result
  refine ⟨fun engine tested t final hload htests hissues => ?_, fun hfails => ?_,
    ends_or_fails_or_overflows disk nesting options w.tree⟩
  · have hwritten : (writeIfNamed (disk.host nesting code) options.issues
        t.report.exportText).run ⟨tested, t.output w.output⟩ =
          (true, ⟨final, t.output w.output⟩) := writeIfNamed_of_wrote hissues
    have hresult : result = (exitCode (t.session ∅), ⟨final, t.output w.output⟩) := by
      unfold result
      rw [run_of_loads hload, test_run hload.isBuiltin htests, hwritten]
      rfl
    have hledger : t.ledger.Represents t.report := Ledger.represents_ofAdditions t.additions
    rw [hresult]
    refine ⟨rfl, rfl, fun file hfile hdisk => hissues.readText hfile hdisk, ?_, hledger.issues_eq,
      hledger.summary_eq, ?_⟩
    · rw [exitCode_eq, t.report_session]
    · rw [exitCode, t.report_session, hledger.problems_eq]
      rfl
  · exact fst_run_of_fails hfails

end Steps

end Disks

section Counters

open Counter

/-- A run that prints a message and then records a problem.  It is started in a folder, finds the
    configuration next to this and writes the issues to a path from the root on.  Where there is
    no folder for the issues, or no configuration, the run fails. -/
theorem run_agrees_problem :
    let text := "\x7b\"rulesets\":\x7b\".\":\x7b\"rules\":" ++
      "[\"print --message a\",\"problem --message m --path p\"]\x7d\x7d\x7d"
    let set : SetEntry := ⟨true, ["print --message a", "problem --message m --path p"], []⟩
    let document : Document := { sets := NameMap.ofEntries [(".", set)] }
    let options : Options :=
      { config := "../c", root := ".", issues := some "/tmp/out", reference := none, input := "in" }
    let holding (tmp : FileNode.Entries) (config : ByteArray) : FileTree :=
      { entries := [("home", .folder []), ("tmp", .folder tmp), ("c", .file config)]
        work := ["home"] }
    let tree : FileTree := holding [] text.toUTF8
    let final : FileTree := holding [("out", .file "[p]: m\n".toUTF8)] text.toUTF8
    let engine : Engine := (Engine.builtin.load document).1
    let t : Trace := ⟨∅, [("", ⟨.problem, "m", "p"⟩)], "a\n"⟩
    let result (options : Options) : Nat × Workspace :=
      (run (FileTree.disk.host 1 aborted) options).run { tree }
    Loads FileTree.disk options tree engine ∧
      Tests FileTree.disk 1 options engine tree tree t ∧
      Wrote FileTree.disk tree options.issues t.report.exportText final ∧
      (result options).1 = 1 ∧
      (result options).2.output = "a\nIssues: 1 (Warnings: 0, Problems: 1)\n[p]: m\n" ∧
      (result options).2.tree.readText "/tmp/out" = .ok "[p]: m\n" ∧
      Fails FileTree.disk 1 { options with issues := some "/none/out" } tree ∧
      (result { options with issues := some "/none/out" }).1 = 2 ∧
      Fails FileTree.disk 1 { options with config := "c" } tree ∧
      (result { options with config := "c" }).1 = 2 := by
  intro text set document options holding tree final engine t result
  -- where a path leads depends on the names in it, and not on what the files hold
  have hpath : ∀ tree aim, tree.work = ["home"] →
      FileTree.resolve tree aim "../c" = tree.walk aim ["home", "..", "c"] ∧
      FileTree.resolve tree aim "c" = tree.walk aim ["home", "c"] ∧
      FileTree.resolve tree aim "/tmp/out" = tree.walk aim ["tmp", "out"] ∧
      FileTree.resolve tree aim "/none/out" = tree.walk aim ["none", "out"] := by
    intro tree aim hwork
    refine ⟨?_, ?_, ?_, ?_⟩
    all_goals
      exact FileTree.resolve_eq_walk (by simp) (by decide) (by simp) hwork (by decide +kernel)
  have hsize : "home".utf8ByteSize = 4 ∧ "tmp".utf8ByteSize = 3 ∧ "none".utf8ByteSize = 4 ∧
      "out".utf8ByteSize = 3 ∧ "c".utf8ByteSize = 1 := by decide
  have hwrite : ∀ config, FileTree.write ⟨[("home", .folder []), ("tmp", .folder [])], ["home"]⟩
      "../c" config = .ok (holding [] config) := by
    intro config
    rw [FileTree.write, (hpath _ _ rfl).1]
    simp [holding, FileTree.walk, FileTree.follow, FileTree.maxNameSize, hsize, FileTree.top,
      FileTree.Spot.node?, FileTree.Spot.enter, FileTree.Spot.leave, FileTree.Spot.put,
      FileTree.changedAt, FileTree.Spot.rootEntries, FileTree.Spot.entriesAround, Roster.lookupIn,
      Roster.changeIn]
  have hconfig : tree.readText "../c" = .ok text :=
    FileTree.readText_of_writeText (hwrite text.toUTF8)
  have hdocument : Document.read text = .ok document := by
    unfold text document set
    cbv
  have hloads : Loads FileTree.disk options tree engine :=
    ⟨text, document, hconfig, hdocument, rfl⟩
  have hexport : t.report.exportText = "[p]: m\n" := by decide +kernel
  have hissues : ∀ config content, (holding [] config).write "/tmp/out" content =
      .ok (holding [("out", .file content)] config) := by
    intro config content
    rw [FileTree.write, (hpath _ _ rfl).2.2.1]
    simp [holding, FileTree.walk, FileTree.follow, FileTree.maxNameSize, hsize, FileTree.top,
      FileTree.Spot.node?, FileTree.Spot.enter, FileTree.Spot.put, FileTree.changedAt,
      FileTree.Spot.rootEntries, FileTree.Spot.entriesAround, Roster.lookupIn, Roster.changeIn]
  have hrefused : ∀ config content, (holding [] config).write "/none/out" content =
      .error .notFound := by
    intro config content
    rw [FileTree.write, (hpath _ _ rfl).2.2.2]
    simp [holding, FileTree.walk, FileTree.follow, FileTree.maxNameSize, hsize, FileTree.top,
      FileTree.Spot.node?, Roster.lookupIn]
  have hunread : ∀ config, (holding [] config).readText "c" = .error .notFound := by
    intro config
    rw [FileTree.readText, FileTree.find, (hpath _ _ rfl).2.1]
    simp [holding, FileTree.walk, FileTree.follow, FileTree.maxNameSize, hsize, FileTree.top,
      FileTree.Spot.node?, FileTree.Spot.enter, Roster.lookupIn]
  have htrace : traceEnter engine.sets tree.view 1 "." (.path "in")
      { bindings := engine.bindings } = some t := by
    have hregistry : engine.registry = .builtin := Engine.registry_load Engine.builtin document
    have hbindings : engine.bindings = ∅ := by
      unfold engine
      rw [Engine.load_eq]
      rfl
    have hprint : engine.parse "print --message a" = .ok ⟨.print, .print ⟨some "a"⟩, ∅⟩ := by
      rw [Engine.parse, hregistry, hbindings]
      decide +kernel
    have hproblem : engine.parse "problem --message m --path p" =
        .ok ⟨.problem, .issue ⟨.problem, none, some "m", some "p"⟩, ∅⟩ := by
      rw [Engine.parse, hregistry, hbindings]
      decide +kernel
    have hentry : document.sets["."]? = some set := by simp [document, NameMap.ofEntries]
    have hset : engine.sets["."]? = some (engine.setOf set) :=
      Engine.getElem?_sets_load_of_enabled Engine.builtin hentry rfl
    rw [traceEnter, hset, Engine.setOf]
    simp only [set, List.filterMap_cons, List.filterMap_nil, hprint, hproblem, hbindings]
    rfl
  have htests : Tests FileTree.disk 1 options engine tree tree t := ⟨rfl, htrace⟩
  have hwrote : Wrote FileTree.disk tree options.issues t.report.exportText final := by
    rw [hexport]
    simp only [Wrote, options, FileTree.disk, FileTree.writeText, tree, final, hissues]
  have hunwritten : Fails FileTree.disk 1 { options with issues := some "/none/out" } tree := by
    have htests' : Tests FileTree.disk 1 { options with issues := some "/none/out" } engine tree
      tree t := ⟨rfl, htrace⟩
    refine .issues hloads htests' ⟨"/none/out", .notFound, tree, rfl, ?_⟩
    rw [hexport]
    simp only [FileTree.disk, FileTree.writeText, tree, hrefused]
  have hmissing : Fails FileTree.disk 1 { options with config := "c" } tree :=
    .unread (hunread text.toUTF8)
  obtain ⟨hends, -, -⟩ := run_agrees FileTree.disk 1 aborted options { tree }
  obtain ⟨houtput, -, hfile, hcode, -⟩ := hends engine tree t final hloads htests hwrote
  have hsummary : t.report.summary = "Issues: 1 (Warnings: 0, Problems: 1)" := by
    decide +kernel
  have hissue : t.report.issues = [⟨.problem, "m", "p"⟩] := by decide +kernel
  have hread := hfile "/tmp/out" rfl (FileTree.readsBack_disk "/tmp/out")
  simp only [hissue, hsummary, hexport] at hread hcode houtput
  exact ⟨hloads, htests, hwrote, by simpa using hcode, houtput, hread, hunwritten,
    (run_agrees FileTree.disk 1 aborted _ { tree }).2.1 hunwritten, hmissing,
    (run_agrees FileTree.disk 1 aborted _ { tree }).2.1 hmissing⟩

end Counters

end CommandLine

end Rulebook
