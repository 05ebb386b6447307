/-
  Rulebook.Proofs.NamesInLines

  Names that a rule line gives to a file filter.  The field of a line holds the name with
  every slash in it turned into a backslash, and a filter means by this what children and
  placeholders mean by it: the set that it runs is the one that a child of that name is,
  and the variables that it sets are the ones that placeholders of their names stand for
  (`parse_names`).  So only a name without slashes is the same in all places.
-/
import Rulebook.Kind.Custom
import Rulebook.Proofs.LineGroups
import Rulebook.Proofs.Reassignment
import Rulebook.Proofs.RegisteredKinds
import Rulebook.Proofs.Simulation
import Rulebook.Proofs.Traversal

namespace Rulebook

open Line (Assignment Plain tokensOf)

/-! ## Names with backslashes for slashes -/

theorem toList_separatorsUnified (text : String) :
    (separatorsUnified text).toList = text.toList.map fun c => if c = '/' then '\\' else c := by
  rw [separatorsUnified, String.toList_ofList]

/-- Only a slash is replaced. -/
theorem separatorsUnified_eq_self_iff {text : String} :
    separatorsUnified text = text ↔ '/' ∉ text.toList := by
  have hchar : ∀ c : Char, (if c = '/' then '\\' else c) = c ↔ c ≠ '/' := by
    intro c
    by_cases hc : c = '/'
    · subst hc
      decide
    · simp [hc]
  rw [← String.toList_inj, toList_separatorsUnified]
  generalize text.toList = s
  induction s with
  | nil => simp
  | cons c rest ih =>
    rw [List.map_cons, List.cons.injEq, List.mem_cons, not_or]
    exact and_congr ((hchar c).trans ne_comm) ih

/-- A word stays one word. -/
theorem isWord_separatorsUnified {text : String} (h : Text.IsWord text.toList) :
    Text.IsWord (separatorsUnified text).toList := by
  have hbackslash : Text.isBlank '\\' = false := by decide
  rw [toList_separatorsUnified]
  refine ⟨by simpa using h.1, fun d hd => ?_⟩
  obtain ⟨c, hc, rfl⟩ := List.mem_map.mp hd
  split
  · exact hbackslash
  · exact h.2 c hc

theorem closing_not_mem_separatorsUnified {text : String} (h : '}' ∉ text.toList) :
    '}' ∉ (separatorsUnified text).toList := by
  rw [toList_separatorsUnified]
  intro hmem
  obtain ⟨c, hc, heq⟩ := List.mem_map.mp hmem
  split at heq
  · exact absurd heq (by decide)
  · exact h (heq ▸ hc)

/-! ## The last word of a line on a field -/

namespace Line

/-- A line of a kind gives a field a value: the field has the value, and no other, in one of
    the groups of the line.  No later group is for the field, and none makes it dynamic: a
    template would be assigned again in each test, whatever the line says after it. -/
def Gives (line kind field value : String) : Prop :=
  ∃ lead trail : List (List Char),
    tokensOf line.toList =
      kind.toList :: (lead ++ staticToken field :: value.toList :: trail) ∧
    StartsGroup trail ∧ staticToken field ∉ trail ∧ dynamicToken field ∉ lead ++ trail

/-- The last thing that a line says of a field that it gives a value is that value, and it says
    nothing of it that is dynamic. -/
theorem Gives.exists_definition {line kind field value : String}
    (h : Gives line kind field value) (hmark : field.toList.getLast? ≠ some '$')
    (hvalue : Plain value.toList) :
    ∃ definition, Definition.read? line = some definition ∧ definition.kind = kind ∧
      Roster.lastIn field (definition.assignments.map (·.entry)) = some value ∧
      ∀ a ∈ definition.assignments, a.field = field → a.dynamic = false := by
  obtain ⟨lead, trail, htokens, htrail, hstatic, hdynamic⟩ := h
  rw [List.mem_append, not_or] at hdynamic
  have hgroup : StartsGroup (staticToken field :: value.toList :: trail) := by
    simp [StartsGroup, staticToken, fieldToken?]
  have hread : Definition.read? line = some
      ⟨kind, assignmentsOf lead ++ ⟨field, false, value⟩ :: assignmentsOf trail⟩ := by
    rw [Definition.read?, htokens, Definition.ofTokens?, assignmentsOf_append hgroup,
      assignmentsOf_plain hmark hvalue htrail, String.ofList_toList]
  -- what stands in front of the group is overruled, and nothing behind it is for the field
  refine ⟨_, hread, rfl, ?_, fun a ha hfield => ?_⟩
  · have hlater : field ∉ ((assignmentsOf trail).map (·.entry)).map Prod.fst := by
      rw [List.map_map, List.mem_map]
      rintro ⟨a, ha, hfield⟩
      exact field_ne_of_mem_assignmentsOf hdynamic.2 hstatic ha hfield
    rw [List.map_append, List.map_cons, Roster.lastIn_append, Roster.lastIn_cons,
      Roster.lastIn_of_not_mem hlater]
    simp [Assignment.entry]
  · rcases List.mem_append.mp ha with ha | ha
    · exact dynamic_eq_false_of_mem_assignmentsOf hdynamic.1 ha hfield
    · rcases List.mem_cons.mp ha with rfl | ha
      · rfl
      · exact dynamic_eq_false_of_mem_assignmentsOf hdynamic.2 ha hfield

end Line

/-! ## What a file filter sets -/

namespace FilterSettings

/-- For each path that passes, the placeholder of the name stands for the value that the path
    gives, in the session in which the filter runs its sets. -/
def SetsVariable (filter : FilterSettings) (name : String) (value : String → String) : Prop :=
  ∀ fs run session path, filter.passes fs path = true →
    ∃ stored : Session,
      filter.visit fs run session path = filter.callTargets run path stored ∧
        stored.bindings.substitute (Variables.placeholder name) = value path

variable {filter : FilterSettings} {name : String}

theorem setsVariable_name (hname : filter.nameVariable = name) (hclosing : '}' ∉ name.toList) :
    filter.SetsVariable name Path.fileName := by
  intro fs run session path hpasses
  refine ⟨filter.store session path, visit_of_passes hpasses session, ?_⟩
  rw [Variables.substitute_placeholder _ hclosing, Variables.text, ← hname,
    getElem?_nameVariable_store, Option.getD_some]

theorem setsVariable_path (hpath : filter.pathVariable = name) (hclosing : '}' ∉ name.toList) :
    filter.SetsVariable name fun path =>
      if filter.nameVariable = name then Path.fileName path else path := by
  -- the path is stored first, so a name that both variables share ends as the file name
  by_cases hname : filter.nameVariable = name
  · simp only [if_pos hname]
    exact setsVariable_name hname hclosing
  · simp only [if_neg hname]
    intro fs run session path hpasses
    refine ⟨filter.store session path, visit_of_passes hpasses session, ?_⟩
    rw [Variables.substitute_placeholder _ hclosing, Variables.text, ← hpath,
      getElem?_pathVariable_store (hpath ▸ hname), Option.getD_some]

end FilterSettings

section Names

variable [Plugins]

/-! ## What the field of a resolved rule holds -/

namespace Rule

variable {registry : Registry} {bindings : Variables} {line : String} {rule : Rule}

/-- A field holds what its line gives it, however the rule is resolved. -/
theorem read_resolve_of_gives {kind : RuleKind} (hbuiltin : kind ∈ RuleKind.builtins)
    (hkind : registry.get? kind.name = some kind)
    (hparse : parse registry bindings line = .ok rule) {field : Field}
    (hfield : field ∈ kind.fields) (hstring : field.kind = .string) {value : String}
    (hvalue : Plain value.toList) (hgives : Line.Gives line kind.name field.name value)
    {bindings' : Variables} {settings : Settings}
    (hresolve : rule.resolve bindings' = .ok settings) :
    settings.form = kind.form ∧
      field.slot.read settings = some (.text (some (separatorsUnified value))) := by
  have hregular : kind.Regular := RuleKind.regular_of_mem_builtins hbuiltin
  have hflaw : kind.flaw? = none := RuleKind.flaw?_of_mem_builtins kind hbuiltin
  obtain ⟨definition, hread, hname, hlast, hstatic⟩ :=
    hgives.exists_definition (RuleKind.isFieldName_of_flaw? hflaw hfield).unmarked hvalue
  obtain ⟨definition', kind', hread', hkind', haccepted, hrule⟩ := eq_of_parse hparse
  obtain rfl : definition' = definition := Option.some.inj (hread'.symm.trans hread)
  obtain rfl : kind' = kind := Option.some.inj (hkind'.symm.trans (hname ▸ hkind))
  have hbuiltinRule : rule.IsBuiltin :=
    ⟨hrule ▸ hbuiltin, (form_of_parse hparse).2⟩
  have hform : settings.form = kind'.form := by
    rw [form_resolve hbuiltinRule.form_eq hresolve, hbuiltinRule.form_eq, hrule]
  -- so there is no template that could replace what the field holds
  have hnames : field.name ∉ rule.dynamic.names :=
    hrule ▸ not_mem_names_templatesAfter hstatic
  refine ⟨hform, ?_⟩
  calc field.slot.read settings
      = field.slot.read rule.settings :=
        hbuiltinRule.read_resolve hresolve (hrule ▸ hfield) hnames
    _ = field.content? (bindings.substitute value) := by
        rw [hrule, hregular.read_updateAll hfield rfl bindings haccepted, hlast, Option.elim_some]
    _ = some (.text (some (separatorsUnified value))) := by
        rw [hvalue.substitute_eq,
          Field.content?_of_string hstring (hregular.slot_not_custom hfield)]

end Rule

/-! ## What a file filter runs -/

variable [PluginTests]

/-- A set with one child and no rules runs what the child is. -/
theorem RuleSet.run_child (fs : FileSystem) (run : Runner) (name : String) (input : Input)
    (session : Session) :
    RuleSet.run fs run ⟨[], [name]⟩ input session = run name input session := by
  simp [RuleSet.run, testRules, Runner.runAll]

namespace FilterSettings

/-- The filter runs the set that a child of the name is, once for each path that passes. -/
structure RunsChild (filter : FilterSettings) (name : String) : Prop where
  /-- It does what a set does that has this child and no rules. -/
  visit_eq_run : ∀ fs run session path, filter.passes fs path = true →
    filter.visit fs run session path =
      RuleSet.run fs run ⟨[], [name]⟩ (.path path) (filter.store session path)
  visit_eq_of_set : ∀ (table : SetTable) fs depth session path set,
    filter.passes fs path = true → table[name]? = some set →
      filter.visit fs (enter table fs (depth + 1)) session path =
        set.run fs (enter table fs depth) (.path path) (filter.store session path)
  visit_eq_of_no_set : ∀ (table : SetTable) fs depth session path,
    filter.passes fs path = true → table[name]? = none →
      filter.visit fs (enter table fs depth) session path = some (filter.store session path)

variable {filter : FilterSettings} {name : String}

theorem runsChild_of_targets (htargets : filter.targets = some name)
    (hname : Text.IsWord name.toList) : filter.RunsChild name := by
  have hwords : Text.words name = [name] := by
    have hjoin : " ".intercalate [name] = name := rfl
    rw [← hjoin]
    exact Text.words_intercalate (by simpa using hname)
  have hvisit : ∀ fs run session path, filter.passes fs path = true →
      filter.visit fs run session path = run name (.path path) (filter.store session path) := by
    intro fs run session path hpasses
    rw [visit_of_passes hpasses, callTargets, htargets]
    simp [Runner.call, hwords, Runner.runAll]
  refine ⟨?_, ?_, ?_⟩
  · intro fs run session path hpasses
    rw [hvisit fs run session path hpasses, RuleSet.run_child]
  · intro table fs depth session path set hpasses hset
    rw [hvisit fs _ session path hpasses, enter, hset]
  · intro table fs depth session path hpasses hnone
    have hmem : name ∉ table := by simpa using hnone
    rw [hvisit fs _ session path hpasses, enter_of_not_mem hmem]

end FilterSettings

/-! ## Names in lines -/

namespace Rule

/-- Whenever the rule is tested, a dynamic field of it does not convert and it fails, or what it
    resolves to is a file filter with the property, and it is tested as that. -/
def TestsAs (rule : Rule) (P : FilterSettings → Prop) : Prop :=
  ∀ fs run input session,
    (∃ e, rule.resolve session.bindings = .error e ∧
      rule.test fs run input session = some (false, session)) ∨
    ∃ filter, rule.resolve session.bindings = .ok (.filter filter) ∧ P filter ∧
      rule.test fs run input session = (Settings.filter filter).test fs run input session

variable {registry : Registry} {bindings : Variables} {line : String} {rule : Rule}
  {P : FilterSettings → Prop} {name : String}

theorem testsAs_of_resolve (hform : rule.settings.form = rule.kind.form)
    (h : ∀ bindings settings, rule.resolve bindings = .ok settings →
      ∃ filter, settings = .filter filter ∧ P filter) : rule.TestsAs P := by
  intro fs run input session
  rw [test_eq_resolve hform]
  cases hresolve : rule.resolve session.bindings with
  | error e => exact .inl ⟨e, rfl, rfl⟩
  | ok settings =>
    obtain ⟨filter, rfl, hfilter⟩ := h _ _ hresolve
    exact .inr ⟨filter, rfl, hfilter, rfl⟩

/-- What a line gives a field of texts of a file filter, the filter holds in every test. -/
theorem testsAs_of_gives (hkind : registry.get? "file-filter" = some .fileFilter)
    (hparse : parse registry bindings line = .ok rule) {field : Field}
    (hfield : field ∈ RuleKind.fileFilter.fields) (hstring : field.kind = .string)
    (hname : Plain name.toList) (hgives : Line.Gives line "file-filter" field.name name)
    (h : ∀ filter, field.slot.read (.filter filter) =
      some (.text (some (separatorsUnified name))) → P filter) : rule.TestsAs P := by
  refine testsAs_of_resolve (form_of_parse hparse).2 fun bindings' settings hresolve => ?_
  have hbuiltin : RuleKind.fileFilter ∈ RuleKind.builtins := by simp [RuleKind.builtins]
  obtain ⟨hform, hread⟩ :=
    read_resolve_of_gives hbuiltin hkind hparse hfield hstring hname hgives hresolve
  cases settings with
  | filter filter => exact ⟨filter, rfl, h filter hread⟩
  | _ => cases hform

/-- A file filter means the same by a name as children and placeholders do, once its slashes
    are backslashes.  It runs the set that a child of that name is, or none if the name has
    none, and it sets the variables that placeholders of the names read. -/
theorem parse_names (hkind : registry.get? "file-filter" = some .fileFilter)
    (hparse : parse registry bindings line = .ok rule) (hname : Plain name.toList) :
    let meant := separatorsUnified name
    (meant = name ↔ '/' ∉ name.toList) ∧
    (Line.Gives line "file-filter" "then" name →
      rule.TestsAs fun filter => filter.RunsChild meant) ∧
    (Line.Gives line "file-filter" "varname" name →
      rule.TestsAs fun filter => filter.SetsVariable meant Path.fileName) ∧
    (Line.Gives line "file-filter" "varpath" name →
      rule.TestsAs fun filter => filter.SetsVariable meant fun path =>
        if filter.nameVariable = meant then Path.fileName path else path) := by
  intro meant
  have hword : Text.IsWord meant.toList := isWord_separatorsUnified hname.isWord
  have hclosing : '}' ∉ meant.toList := closing_not_mem_separatorsUnified hname.unclosed
  have hfields : ∀ field slot, (∃ f ∈ RuleKind.fileFilter.fields, f.name = field ∧
      f.slot = slot ∧ f.kind = .string) → Line.Gives line "file-filter" field name →
      ∀ {P : FilterSettings → Prop}, (∀ filter, slot.read (.filter filter) =
        some (.text (some meant)) → P filter) → rule.TestsAs P := by
    rintro _ _ ⟨f, hf, rfl, rfl, hstring⟩ hgives P h
    exact testsAs_of_gives hkind hparse hf hstring hname hgives h
  refine ⟨separatorsUnified_eq_self_iff, fun hgives => ?_, fun hgives => ?_, fun hgives => ?_⟩
  all_goals simp only [RuleKind.fileFilter] at hfields
  · refine hfields "then" .filterTargets (by simp [Field.kind, Slot.kind]) hgives
      fun filter hread => ?_
    exact FilterSettings.runsChild_of_targets (by simpa [Slot.read] using hread) hword
  · refine hfields "varname" .filterNameVariable (by simp [Field.kind, Slot.kind]) hgives
      fun filter hread => ?_
    exact FilterSettings.setsVariable_name (by simpa [Slot.read] using hread) hclosing
  · refine hfields "varpath" .filterPathVariable (by simp [Field.kind, Slot.kind]) hgives
      fun filter hread => ?_
    exact FilterSettings.setsVariable_path (by simpa [Slot.read] using hread) hclosing

end Rule

end Names

namespace Rule

/-- One name with a slash for the set and for both variables; the name of the entry that is
    looked for is dynamic. -/
theorem parse_names_thrice :
    let line := "file-filter --varname x --then a/b --varname a/b --name$ \x7bn\x7d --varpath a/b"
    Registry.builtin.get? "file-filter" = some .fileFilter ∧ Plain "a/b".toList ∧
      ∃ rule, parse .builtin ∅ line = .ok rule ∧
        (Line.Gives line "file-filter" "then" "a/b" ∧
          rule.TestsAs fun filter => filter.RunsChild "a\\b") ∧
        (Line.Gives line "file-filter" "varname" "a/b" ∧
          rule.TestsAs fun filter => filter.SetsVariable "a\\b" Path.fileName) ∧
        Line.Gives line "file-filter" "varpath" "a/b" ∧
          rule.TestsAs fun filter => filter.SetsVariable "a\\b" fun path =>
            if filter.nameVariable = "a\\b" then Path.fileName path else path := by
  intro line
  have hkind : Registry.builtin.get? "file-filter" = some .fileFilter := rfl
  have hname : Plain "a/b".toList := by decide
  have htokens : tokensOf line.toList = ["file-filter", "--varname", "x", "--then", "a/b",
      "--varname", "a/b", "--name$", "\x7bn\x7d", "--varpath", "a/b"].map String.toList := by
    decide +kernel
  have hread : Line.Definition.read? line = some ⟨"file-filter", [⟨"varname", false, "x"⟩,
      ⟨"then", false, "a/b"⟩, ⟨"varname", false, "a/b"⟩, ⟨"name", true, "\x7bn\x7d"⟩,
      ⟨"varpath", false, "a/b"⟩]⟩ := by decide +kernel
  have haccepted : RuleKind.fileFilter.firstRefusal? (Variables.valuesOf ∅ [("varname", "x"),
      ("then", "a/b"), ("varname", "a/b"), ("name", "\x7bn\x7d"), ("varpath", "a/b")]) =
        none := by decide +kernel
  have hparse := parse_eq hread hkind ∅
  simp only [List.map_cons, List.map_nil, Assignment.entry, haccepted] at hparse
  have hthen : Line.Gives line "file-filter" "then" "a/b" :=
    ⟨["--varname".toList, "x".toList],
      ["--varname", "a/b", "--name$", "\x7bn\x7d", "--varpath", "a/b"].map String.toList,
      htokens, by decide, by decide, by decide⟩
  have hvarname : Line.Gives line "file-filter" "varname" "a/b" :=
    ⟨["--varname", "x", "--then", "a/b"].map String.toList,
      ["--name$", "\x7bn\x7d", "--varpath", "a/b"].map String.toList,
      htokens, by decide, by decide, by decide⟩
  have hvarpath : Line.Gives line "file-filter" "varpath" "a/b" :=
    ⟨["--varname", "x", "--then", "a/b", "--varname", "a/b", "--name$",
        "\x7bn\x7d"].map String.toList,
      [], htokens, by decide, by decide, by decide⟩
  have hmeant : separatorsUnified "a/b" = "a\\b" := by decide
  obtain ⟨-, hruns, hstores, hpath⟩ := parse_names hkind hparse hname
  rw [hmeant] at hruns hstores hpath
  exact ⟨hkind, hname, _, hparse, ⟨hthen, hruns hthen⟩, ⟨hvarname, hstores hvarname⟩, hvarpath,
    hpath hvarpath⟩

/-- The filter of the line runs nothing, although a child of the name that the line gives is
    a set that prints a line. -/
theorem parse_names_slash :
    let line := "file-filter --then a/b"
    let filter : FilterSettings := { targets := some "a\\b" }
    let set : RuleSet := ⟨[⟨.print, .print ⟨some "hit"⟩, ∅⟩], []⟩
    let table : SetTable := NameMap.ofEntries [("a/b", set)]
    let start : Session := { bindings := ∅ }
    Plain "a/b".toList ∧ Line.Gives line "file-filter" "then" "a/b" ∧
      parse .builtin ∅ line = .ok ⟨.fileFilter, .filter filter, ∅⟩ ∧
      filter.passes .empty "x" = true ∧
      filter.visit .empty (enter table .empty 1) start "x" = some (filter.store start "x") ∧
      RuleSet.run .empty (enter table .empty 1) ⟨[], ["a/b"]⟩ (.path "x")
        (filter.store start "x") = some ((filter.store start "x").printLine "hit") ∧
      ¬ filter.RunsChild "a/b" := by
  intro line filter set table start
  have hkind : Registry.builtin.get? "file-filter" = some .fileFilter := rfl
  have hread : Line.Definition.read? line =
      some ⟨"file-filter", [⟨"then", false, "a/b"⟩]⟩ := by decide +kernel
  have haccepted : RuleKind.fileFilter.firstRefusal?
      (Variables.valuesOf ∅ [("then", "a/b")]) = none := by decide +kernel
  have hstored : RuleKind.fileFilter.updateAll RuleKind.fileFilter.blank
      (Variables.valuesOf ∅ [("then", "a/b")]) = .filter filter := by decide +kernel
  have hparse := parse_eq hread hkind ∅
  simp only [List.map_cons, List.map_nil, Assignment.entry, haccepted, hstored] at hparse
  have htokens : tokensOf line.toList = ["file-filter", "--then", "a/b"].map String.toList := by
    decide +kernel
  have hgives : Line.Gives line "file-filter" "then" "a/b" :=
    ⟨[], [], htokens, by decide, by decide, by decide⟩
  have hpasses : filter.passes .empty "x" = true := rfl
  have hset : table["a/b"]? = some set := by simp [table, NameMap.ofEntries]
  have hnone : table["a\\b"]? = none := by simp [table, NameMap.ofEntries]
  have hruns : filter.RunsChild "a\\b" := FilterSettings.runsChild_of_targets rfl (by decide)
  have hvisit : filter.visit .empty (enter table .empty 1) start "x" =
      some (filter.store start "x") :=
    hruns.visit_eq_of_no_set table .empty 1 start "x" hpasses hnone
  have hchild : RuleSet.run .empty (enter table .empty 1) ⟨[], ["a/b"]⟩ (.path "x")
      (filter.store start "x") = some ((filter.store start "x").printLine "hit") := by
    rw [RuleSet.run_child, enter, hset]
    rfl
  refine ⟨by decide, hgives, hparse, hpasses, hvisit, hchild, fun h => ?_⟩
  have hsame := h.visit_eq_run .empty (enter table .empty 1) start "x" hpasses
  rw [hvisit, hchild] at hsame
  exact absurd (congrArg Session.printed (Option.some.inj hsame)) (by decide)

end Rule

end Rulebook
