/-
  Rulebook.Proofs.Separators

  Reports without slashes.  A field of texts stores a text with backslashes for its
  slashes, wherever the text comes from.  So a rule of a built-in kind that was read from a
  line holds no slash, neither as the line has left it nor as it is resolved in a test
  (`Rule.IsBuiltin.slashFree_resolve`).  What a test reports are texts that its rules hold,
  and has no slash even if the variables and the input have some (`Engine.test_slashFree`).
-/
import Rulebook.Kind.Custom
import Rulebook.Proofs.Document.Account
import Rulebook.Proofs.Invariance
import Rulebook.Proofs.NamesInLines
import Rulebook.Proofs.Report

namespace Rulebook

theorem slash_not_mem_separatorsUnified (text : String) :
    '/' ∉ (separatorsUnified text).toList := by
  rw [toList_separatorsUnified]
  intro hmem
  obtain ⟨c, -, heq⟩ := List.mem_map.mp hmem
  split at heq
  · exact absurd heq (by decide)
  · next hne => exact hne heq

/-! ## What reports hold -/

namespace Report

/-- No key of a report, and no message or path of an issue in it, has a slash. -/
structure SlashFree (report : Report) : Prop where
  key : ∀ key ∈ report.keys, '/' ∉ key.toList
  message : ∀ issue ∈ report.issues, '/' ∉ issue.message.toList
  path : ∀ issue ∈ report.issues, '/' ∉ issue.path.toList

variable {report : Report}

theorem slashFree_empty : (∅ : Report).SlashFree := ⟨nofun, nofun, nofun⟩

theorem SlashFree.addUnder (h : report.SlashFree) {key : String} {issue : Issue}
    (hkey : '/' ∉ key.toList) (hmessage : '/' ∉ issue.message.toList)
    (hpath : '/' ∉ issue.path.toList) : (report.addUnder key issue).SlashFree := by
  constructor
  · intro other hother
    rcases mem_keys_addUnder.mp hother with rfl | hold
    · exact hkey
    · exact h.key other hold
  · intro other hother
    rcases mem_issues_addUnder.mp hother with rfl | hold
    · exact hmessage
    · exact h.message other hold
  · intro other hother
    rcases mem_issues_addUnder.mp hother with rfl | hold
    · exact hpath
    · exact h.path other hold

/-- Besides messages and paths an export holds brackets, colons, blanks and line feeds. -/
theorem SlashFree.exportText (h : report.SlashFree) : '/' ∉ report.exportText.toList := by
  rw [Report.exportText, String.toList_join, List.mem_flatMap]
  rintro ⟨piece, hpiece, hslash⟩
  obtain ⟨issue, hissue, rfl⟩ := List.mem_map.mp hpiece
  simp [Issue.text, IssueLine.text, Issue.line, h.message issue hissue, h.path issue hissue]
    at hslash

end Report

section Free

variable [Plugins]

/-! ## What fields store -/

/-- A text that a field of a built-in kind stores has no slash. -/
theorem Field.slash_not_mem_of_content? {field : Field} (hform : ¬ field.slot.form.IsCustom)
    {text stored : String} (h : field.content? text = some (.text (some stored))) :
    '/' ∉ stored.toList := by
  by_cases hstring : field.kind = .string
  · obtain rfl : separatorsUnified text = stored := by
      simpa [Field.content?_of_string hstring hform] using h
    exact slash_not_mem_separatorsUnified text
  · -- what is left stores truth values
    obtain ⟨value, -, hcontent⟩ := Option.bind_eq_some_iff.mp h
    unfold Field.kind at hstring
    cases hslot : field.slot <;> simp_all [Slot.kind, Slot.form, Slot.content?, Form.IsCustom]

/-- No text that the settings hold has a slash. -/
def Settings.SlashFree (settings : Settings) : Prop :=
  ∀ slot text, Slot.read slot settings = some (.text (some text)) → '/' ∉ text.toList

namespace RuleKind

variable {kind : RuleKind}

theorem slashFree_blank (h : kind ∈ builtins) : kind.blank.SlashFree := by
  intro slot text hread
  -- the only texts in blank settings are the variables that file filters set by default
  have htext : text = "file-name" ∨ text = "file-path" := by
    simp only [builtins, List.mem_cons, List.not_mem_nil, or_false] at h
    rcases h with rfl | rfl | rfl | rfl | rfl <;> cases slot <;>
      simp_all [Slot.read, guard, print, warning, problem, fileFilter]
  rcases htext with rfl | rfl <;> decide

/-- Assigning fields keeps settings free of slashes, whatever the variables hold. -/
theorem slashFree_updateAll (hkind : kind ∈ builtins) {settings : Settings}
    (hform : settings.form = kind.form) (h : settings.SlashFree) (bindings : Variables)
    {templates : List (String × String)}
    (haccepted : kind.firstRefusal? (bindings.valuesOf templates) = none) :
    (kind.updateAll settings (bindings.valuesOf templates)).SlashFree := by
  have hregular : kind.Regular := regular_of_mem_builtins hkind
  intro slot text hread
  by_cases hslot : ∃ field ∈ kind.fields, slot = field.slot
  · obtain ⟨field, hfield, rfl⟩ := hslot
    rw [hregular.read_updateAll hfield hform bindings haccepted] at hread
    cases hlast : Roster.lastIn field.name templates with
    | none => exact h field.slot text (by simpa [hlast] using hread)
    | some template =>
      exact Field.slash_not_mem_of_content? (hregular.slot_not_custom hfield)
        (by simpa [hlast] using hread)
  · -- no field writes this part
    rw [read_updateAll_of_slot_ne hform fun field hfield hsame => hslot ⟨field, hfield, hsame⟩]
      at hread
    exact h slot text hread

end RuleKind

/-! ## Where rules come from -/

/-- Only built-in kinds are registered. -/
def Registry.OnlyBuiltin (registry : Registry) : Prop :=
  ∀ kind ∈ registry.toList, kind ∈ RuleKind.builtins

namespace Rule

/-- A rule that an engine with no other than the built-in kinds has made, whatever its
    variables were: from a line, or for a rule set that it has loaded. -/
inductive Produced : Rule → Prop
  | parsed {engine : Engine} {line : String} {rule : Rule} :
    engine.registry.OnlyBuiltin → engine.parse line = .ok rule → Produced rule
  | loaded {engine : Engine} {document : Document} {name : String} {set : RuleSet}
      {rule : Rule} :
    engine.registry.OnlyBuiltin → name ∈ (engine.load document).2.loaded →
      (engine.load document).1.sets[name]? = some set → rule ∈ set.rules → Produced rule

variable {rule : Rule}

/-- A rule of a rule set that was loaded is read from one of its lines. -/
theorem Produced.exists_line (h : rule.Produced) :
    ∃ engine line, Registry.OnlyBuiltin engine.registry ∧ Engine.parse engine line = .ok rule := by
  cases h with
  | parsed hregistry hparse => exact ⟨_, _, hregistry, hparse⟩
  | @loaded engine document name set rule hregistry hloaded hset hrule =>
    rw [Engine.load_eq] at hloaded
    obtain ⟨entry, hentry, henabled⟩ := Engine.mem_map_enabledOf.mp hloaded
    rw [Engine.getElem?_sets_load_of_enabled engine hentry henabled] at hset
    cases hset
    obtain ⟨line, -, hparse⟩ := Engine.exists_line_of_mem_setOf hrule
    -- loading changes the variables, but not the kinds
    exact ⟨_, line, by rwa [Engine.registry_load], hparse⟩

theorem Produced.isBuiltin (h : rule.Produced) : rule.IsBuiltin := by
  obtain ⟨engine, line, hregistry, hparse⟩ := h.exists_line
  exact ⟨hregistry rule.kind (form_of_parse hparse).1, (form_of_parse hparse).2⟩

/-- What a rule holds from its line has no slash. -/
theorem Produced.slashFree_settings (h : rule.Produced) : rule.settings.SlashFree := by
  have hkind : rule.kind ∈ RuleKind.builtins := h.isBuiltin.kind_mem
  obtain ⟨engine, line, -, hparse⟩ := h.exists_line
  obtain ⟨definition, kind, -, -, haccepted, rfl⟩ := eq_of_parse hparse
  exact RuleKind.slashFree_updateAll hkind rfl (RuleKind.slashFree_blank hkind) _ haccepted

/-- What it holds when it is tested has none either. -/
theorem IsBuiltin.slashFree_resolve (hrule : rule.IsBuiltin) (h : rule.settings.SlashFree)
    {bindings : Variables} {settings : Settings} (hresolve : rule.resolve bindings = .ok settings) :
    settings.SlashFree := by
  rw [resolve_eq hrule.form_eq] at hresolve
  split at hresolve
  · cases hresolve
  · next haccepted =>
    cases hresolve
    exact RuleKind.slashFree_updateAll hrule.kind_mem hrule.form_eq h bindings haccepted

end Rule

/-! ## What runs report -/

theorem IssueSettings.slashFree_record {settings : IssueSettings}
    (hsettings : (Settings.issue settings).SlashFree) {session : Session}
    (h : session.report.SlashFree) : (settings.record session).report.SlashFree := by
  unfold record
  split
  · next message path hmessage hpath =>
    have hkey : '/' ∉ (settings.key.getD "").toList := by
      cases hkey : settings.key with
      | none => decide
      | some key => exact hsettings .issueKey key (by simp [Slot.read, hkey])
    exact h.addUnder hkey (hsettings .issueMessage message (by simp [Slot.read, hmessage]))
      (hsettings .issuePath path (by simp [Slot.read, hpath]))
  · exact h

/-- A rule without slashes adds none to a report, whatever variables it is resolved under. -/
theorem Rule.IsBuiltin.keeps_slashFree {rule : Rule} (hrule : rule.IsBuiltin)
    (h : rule.settings.SlashFree) : rule.Keeps (·.report.SlashFree) := by
  intro session settings _ hresolve
  have hsettings : settings.SlashFree := hrule.slashFree_resolve h hresolve
  cases settings with
  | guard settings => trivial
  | print settings => exact fun _ hreport => hreport
  | issue settings => exact fun _ hreport => IssueSettings.slashFree_record hsettings hreport
  | filter settings => exact fun _ _ hreport => hreport
  | custom held => exact absurd hresolve (hrule.resolve_ne_custom held)

namespace Engine

/-- No test that ends reports a slash, and so its export has none, if all rules were read under
    the built-in kinds.  This is so for all variables that the engine has or that file filters
    set, for dynamic fields as for static ones, for every input and in every file system. -/
theorem test_slashFree [PluginTests] {engine : Engine}
    (hproduced : ∀ rule, engine.sets.HasRule rule → rule.Produced) {fs : FileSystem}
    {depth : Nat} {root : String} {input : Input} {final : Session}
    (htest : engine.test fs depth root input = some final) :
    final.report.SlashFree ∧ '/' ∉ final.report.exportText.toList := by
  have hbuiltin : engine.sets.IsBuiltin :=
    SetTable.isBuiltin_iff.mpr fun rule hrule => (hproduced rule hrule).isBuiltin
  have hkeeps : ∀ rule, engine.sets.HasRule rule → rule.Keeps (·.report.SlashFree) :=
    fun rule hrule =>
      (hproduced rule hrule).isBuiltin.keeps_slashFree (hproduced rule hrule).slashFree_settings
  have hreport : final.report.SlashFree :=
    enter_keeps hbuiltin hkeeps fs depth root input _ final Report.slashFree_empty htest
  exact ⟨hreport, hreport.exportText⟩

end Engine

end Free

namespace Engine

/-- One rule set is loaded, and its rule has a slash in its static key and in the variable of
    its static path.  The other rule is read on its own; it stores a path with a slash, which
    the dynamic message reads. -/
theorem test_slashFree_paths :
    let line := "warning --key k/k --message$ \x7bfile-path\x7d --path \x7bfile-path\x7d"
    let document : Document :=
      { bindings := NameMap.ofEntries [("file-path", "x/y")]
        sets := NameMap.ofEntries [("leaf", ⟨true, [line], []⟩)] }
    let warning : Rule := ⟨.warning, .issue ⟨.warning, some "k\\k", some "x\\y", some "x\\y"⟩,
      (∅ : Roster String).set "message" "\x7bfile-path\x7d"⟩
    let filter : Rule := ⟨.fileFilter, .filter { targets := some "leaf" }, ∅⟩
    let engine : Engine :=
      { registry := .builtin, sets := NameMap.ofEntries [("leaf", ⟨[warning], []⟩),
          ("root", ⟨[filter], []⟩)]
        bindings := NameMap.ofEntries [("file-path", "x/y")] }
    let final : Session :=
      { bindings := NameMap.ofEntries [("file-path", "a/b"), ("file-name", "b")]
        report := (∅ : Report).addUnder "k\\k" ⟨.warning, "a\\b", "x\\y"⟩ }
    (builtin.load document).1.sets["leaf"]? = some ⟨[warning], []⟩ ∧
      builtin.parse "file-filter --then leaf" = .ok filter ∧
      (∀ rule, engine.sets.HasRule rule → rule.Produced) ∧
      engine.test .empty 2 "root" (.path "a/b") = some final ∧
      final.report.SlashFree ∧ '/' ∉ final.report.exportText.toList := by
  intro line document warning filter engine final
  have hregistry : builtin.registry.OnlyBuiltin := fun _ h => h
  have hfilter : builtin.parse "file-filter --then leaf" = .ok filter := by decide +kernel
  have hbindings : (builtin.load document).1.bindings = document.bindings := by
    have hsingle : document.bindings.toList = [("file-path", "x/y")] :=
      NameMap.toList_ofEntries_singleton _ _
    rw [load_eq, hsingle]
    rfl
  have hwarning : (builtin.load document).1.parse line = .ok warning := by
    rw [parse, registry_load, hbindings]
    decide +kernel
  have hentry : document.sets["leaf"]? = some ⟨true, [line], []⟩ := by
    simp [document, NameMap.ofEntries]
  have hloaded : "leaf" ∈ (builtin.load document).2.loaded := by
    rw [load_eq]
    exact mem_map_enabledOf.mpr ⟨_, hentry, rfl⟩
  have hset : (builtin.load document).1.sets["leaf"]? = some ⟨[warning], []⟩ := by
    rw [getElem?_sets_load_of_enabled builtin hentry rfl, setOf]
    simp only [List.filterMap_cons, List.filterMap_nil, hwarning]
    rfl
  have hproduced : ∀ rule, engine.sets.HasRule rule → rule.Produced := by
    refine SetTable.forall_hasRule_ofEntries ?_
    simp only [List.forall_mem_cons]
    exact ⟨⟨.loaded hregistry hloaded hset (List.mem_singleton_self _), List.forall_mem_nil _⟩,
      ⟨.parsed hregistry hfilter, List.forall_mem_nil _⟩, List.forall_mem_nil _⟩
  have htest : engine.test .empty 2 "root" (.path "a/b") = some final := by cbv
  exact ⟨hset, hfilter, hproduced, htest, test_slashFree hproduced htest⟩

end Engine

end Rulebook
