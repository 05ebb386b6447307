/-
  Rulebook.Proofs.Document.Account

  The account of a load.  Every rule set of a document is either loaded or
  disabled; of a loaded one, every line is either a rule of the set or among the
  dropped lines; and what the document does not mention stays as it was
  (`load_accounts`).

  The sets of a document do not influence each other: a line is read under the
  kinds and the variables of the engine, which loading a set does not change.  So
  the load is described by one pass over the entries (`foldl_loadSet`), from
  which each part of the account is read off.
-/
import Mathlib.Data.String.Basic
import Rulebook.Document.Load
import Rulebook.Proofs.NameMaps

namespace Rulebook.Engine

attribute [ext] Engine

variable {name : String} {entry : SetEntry}

/-! ## The entries of a document -/

/-- The entries that are enabled. -/
def enabledOf (entries : List (String × SetEntry)) : List (String × SetEntry) :=
  entries.filter (·.2.enabled)

/-- The entries that are not. -/
def disabledOf (entries : List (String × SetEntry)) : List (String × SetEntry) :=
  entries.filter (!·.2.enabled)

theorem mem_map_enabledOf {sets : NameMap SetEntry} :
    name ∈ (enabledOf sets.toList).map Prod.fst ↔
      ∃ entry, sets[name]? = some entry ∧ entry.enabled = true := by
  simp [enabledOf, Std.ExtTreeMap.mem_toList_iff_getElem?_eq_some]

theorem mem_map_disabledOf {sets : NameMap SetEntry} :
    name ∈ (disabledOf sets.toList).map Prod.fst ↔
      ∃ entry, sets[name]? = some entry ∧ entry.enabled = false := by
  simp [disabledOf, Std.ExtTreeMap.mem_toList_iff_getElem?_eq_some]

theorem mem_enabledOf {sets : NameMap SetEntry} (hentry : sets[name]? = some entry)
    (henabled : entry.enabled = true) : (name, entry) ∈ enabledOf sets.toList :=
  List.mem_filter.mpr ⟨Std.ExtTreeMap.mem_toList_iff_getElem?_eq_some.mpr hentry, henabled⟩

theorem nodup_map_enabledOf {sets : NameMap SetEntry} :
    ((enabledOf sets.toList).map Prod.fst).Nodup :=
  sets.nodup_map_fst_toList.sublist (List.filter_sublist.map _)

/-- The names of some entries of a map are in strictly increasing order. -/
theorem pairwise_map_filter (sets : NameMap SetEntry) (p : String × SetEntry → Bool) :
    ((sets.toList.filter p).map Prod.fst).Pairwise (· < ·) := by
  refine List.pairwise_map.mpr ((sets.pairwise_toList.filter p).imp ?_)
  intro a b h
  exact compare_lt_iff_lt.mp h

variable [Plugins] {engine : Engine}

/-! ## The lines of a rule set -/

/-- The lines that do not parse, with their errors. -/
def failures (engine : Engine) (name : String) (lines : List String) : List DroppedLine :=
  lines.filterMap fun line =>
    match engine.parse line with
    | .ok _ => none
    | .error error => some ⟨name, line, error⟩

/-- The rule set that an entry gives: the rules of the lines that parse, and the words of
    the texts that name children. -/
def setOf (engine : Engine) (entry : SetEntry) : RuleSet where
  rules := entry.rules.filterMap fun line => (engine.parse line).toOption
  children := entry.children.flatMap Text.words

theorem parseLines_eq (engine : Engine) (name : String) (lines : List String) :
    engine.parseLines name lines =
      (lines.filterMap fun line => (engine.parse line).toOption, engine.failures name lines) := by
  induction lines with
  | nil => rfl
  | cons line lines ih =>
    rw [parseLines, ih]
    cases h : engine.parse line <;> simp [failures, h, Except.toOption]

theorem set_eq_of_mem_failures {lines : List String} {dropped : DroppedLine}
    (h : dropped ∈ engine.failures name lines) : dropped.set = name := by
  obtain ⟨line, -, hline⟩ := List.mem_filterMap.mp h
  split at hline
  · cases hline
  · cases hline
    rfl

/-- The rules of the rule set of an entry are those of its lines. -/
theorem exists_line_of_mem_setOf {rule : Rule} (h : rule ∈ (engine.setOf entry).rules) :
    ∃ line ∈ entry.rules, engine.parse line = .ok rule := by
  obtain ⟨line, hline, hrule⟩ := List.mem_filterMap.mp h
  cases hparse : engine.parse line with
  | error error => simp [hparse, Except.toOption] at hrule
  | ok other =>
    obtain rfl : other = rule := by simpa [hparse, Except.toOption] using hrule
    exact ⟨line, hline, hparse⟩

/-- The rule set of an entry depends on the kinds and the variables only. -/
theorem setOf_congr {engine engine' : Engine} (hregistry : engine.registry = engine'.registry)
    (hbindings : engine.bindings = engine'.bindings) : engine.setOf = engine'.setOf := by
  funext entry
  simp only [setOf, parse, hregistry, hbindings]

/-! ## A set that was added

  It changes neither the kinds nor the variables, so all lines read as before. -/

@[simp] theorem registry_insertSet (engine : Engine) (name : String) (set : RuleSet) :
    (engine.insertSet name set).registry = engine.registry := rfl

@[simp] theorem bindings_insertSet (engine : Engine) (name : String) (set : RuleSet) :
    (engine.insertSet name set).bindings = engine.bindings := rfl

@[simp] theorem sets_insertSet (engine : Engine) (name : String) (set : RuleSet) :
    (engine.insertSet name set).sets = engine.sets.insert name set := rfl

@[simp] theorem failures_insertSet (engine : Engine) (name : String) (set : RuleSet) :
    (engine.insertSet name set).failures = engine.failures := rfl

@[simp] theorem setOf_insertSet (engine : Engine) (name : String) (set : RuleSet) :
    (engine.insertSet name set).setOf = engine.setOf := rfl

/-! ## One entry -/

theorem loadSet_of_enabled (engine : Engine) (report : LoadReport) (name : String)
    (h : entry.enabled = true) :
    loadSet (engine, report) (name, entry) =
      (engine.insertSet name (engine.setOf entry),
        { report with
          loaded := report.loaded ++ [name]
          dropped := report.dropped ++ engine.failures name entry.rules }) := by
  simp only [loadSet, h, if_true, parseLines_eq]
  rfl

theorem loadSet_of_disabled (engine : Engine) (report : LoadReport) (name : String)
    (h : entry.enabled = false) :
    loadSet (engine, report) (name, entry) =
      (engine, { report with disabled := report.disabled ++ [name] }) := by
  simp [loadSet, h]

/-! ## All entries -/

/-- Loading one entry after the other adds, for each part of the engine and of the report,
    what each of them gives on its own. -/
theorem foldl_loadSet (entries : List (String × SetEntry)) (engine : Engine)
    (report : LoadReport) :
    entries.foldl loadSet (engine, report) =
      ({ engine with
          sets := engine.sets.insertAll
            ((enabledOf entries).map fun (name, entry) => (name, engine.setOf entry)) },
        { report with
          loaded := report.loaded ++ (enabledOf entries).map Prod.fst
          disabled := report.disabled ++ (disabledOf entries).map Prod.fst
          dropped := report.dropped ++ (enabledOf entries).flatMap fun (name, entry) =>
            engine.failures name entry.rules }) := by
  induction entries generalizing engine report with
  | nil => simp [enabledOf, disabledOf, NameMap.insertAll]
  | cons first entries ih =>
    obtain ⟨name, entry⟩ := first
    rw [List.foldl_cons]
    cases h : entry.enabled with
    | true =>
      -- the rest is loaded into an engine with one more set, under which lines read alike
      rw [loadSet_of_enabled engine report name h, ih]
      simp [enabledOf, disabledOf, h, NameMap.insertAll]
    | false =>
      rw [loadSet_of_disabled engine report name h, ih]
      simp [enabledOf, disabledOf, h]

/-- The variables of a document are set first, so all its lines are read under them. -/
theorem load_eq (engine : Engine) (document : Document) :
    let bound := { engine with bindings := engine.bindings.insertAll document.bindings.toList }
    let enabled := enabledOf document.sets.toList
    engine.load document =
      ({ bound with
          sets := engine.sets.insertAll
            (enabled.map fun (name, entry) => (name, bound.setOf entry)) },
        { loaded := enabled.map Prod.fst
          disabled := (disabledOf document.sets.toList).map Prod.fst
          dropped := enabled.flatMap fun (name, entry) => bound.failures name entry.rules
          ignored := document.ignored }) :=
  foldl_loadSet document.sets.toList _ _

/-! ## The lines that were dropped -/

theorem filter_failures (engine : Engine) (name other : String) (lines : List String) :
    (engine.failures other lines).filter (·.set = name) =
      if other = name then engine.failures other lines else [] := by
  split
  · next heq =>
    refine List.filter_eq_self.mpr fun dropped hdropped => ?_
    simpa [heq] using set_eq_of_mem_failures hdropped
  · next hne =>
    refine List.filter_eq_nil_iff.mpr fun dropped hdropped => ?_
    simpa [set_eq_of_mem_failures hdropped] using hne

/-- Of the dropped lines of several sets, those of one set are the lines of that set which
    do not parse. -/
theorem filter_flatMap_failures {entries : List (String × SetEntry)}
    (hnodup : (entries.map Prod.fst).Nodup) (h : (name, entry) ∈ entries) :
    (entries.flatMap fun (name, entry) => engine.failures name entry.rules).filter (·.set = name) =
      engine.failures name entry.rules := by
  simp only [List.filter_flatMap, filter_failures]
  induction entries with
  | nil => cases h
  | cons first entries ih =>
    rw [List.map_cons, List.nodup_cons] at hnodup
    rw [List.flatMap_cons]
    rcases List.mem_cons.mp h with rfl | hlater
    · -- the name does not come again
      have hrest : (entries.flatMap fun other =>
          if other.1 = name then engine.failures other.1 other.2.rules else []) = [] := by
        refine List.flatMap_eq_nil_iff.mpr fun other hother => if_neg ?_
        rintro rfl
        exact hnodup.1 (List.mem_map.mpr ⟨_, hother, rfl⟩)
      rw [hrest, if_pos rfl, List.append_nil]
    · have hne : first.1 ≠ name := by
        rintro rfl
        exact hnodup.1 (List.mem_map.mpr ⟨_, hlater, rfl⟩)
      rw [if_neg hne, List.nil_append]
      exact ih hnodup.2 hlater

/-! ## Look-up after a load -/

theorem registry_load (engine : Engine) (document : Document) :
    (engine.load document).1.registry = engine.registry := by
  rw [load_eq]

theorem ignored_load (engine : Engine) (document : Document) :
    (engine.load document).2.ignored = document.ignored := by
  rw [load_eq]

theorem getElem?_bindings_load (engine : Engine) (document : Document) (name : String) :
    (engine.load document).1.bindings[name]? =
      document.bindings[name]?.or engine.bindings[name]? := by
  rw [load_eq]
  exact NameMap.getElem?_insertAll_toList _ _ _

theorem getElem?_sets_load_of_enabled (engine : Engine) {document : Document}
    (hentry : document.sets[name]? = some entry) (henabled : entry.enabled = true) :
    (engine.load document).1.sets[name]? = some ((engine.load document).1.setOf entry) := by
  rw [load_eq]
  refine NameMap.getElem?_insertAll_of_mem _ ?_
    (List.mem_map_of_mem (mem_enabledOf hentry henabled))
  rw [List.map_map]
  exact nodup_map_enabledOf

theorem getElem?_sets_load_of_not_enabled (engine : Engine) {document : Document}
    (h : ∀ entry, document.sets[name]? = some entry → entry.enabled = false) :
    (engine.load document).1.sets[name]? = engine.sets[name]? := by
  rw [load_eq]
  refine NameMap.getElem?_insertAll_of_not_mem _ ?_
  rw [List.map_map]
  intro hmem
  obtain ⟨entry, hentry, henabled⟩ := mem_map_enabledOf.mp hmem
  rw [h entry hentry] at henabled
  cases henabled

/-- A name has the set that the document gives it, if this is enabled, and else the one that
    it had. -/
theorem getElem?_sets_load (engine : Engine) (document : Document) (name : String) :
    (engine.load document).1.sets[name]? =
      ((document.sets[name]?.filter (·.enabled)).map (engine.load document).1.setOf).or
        engine.sets[name]? := by
  cases hentry : document.sets[name]? with
  | none =>
    refine getElem?_sets_load_of_not_enabled engine fun entry h => ?_
    rw [hentry] at h
    cases h
  | some entry =>
    cases henabled : entry.enabled with
    | true =>
      rw [getElem?_sets_load_of_enabled engine hentry henabled]
      simp [Option.filter, henabled]
    | false =>
      have hnot : ∀ other, document.sets[name]? = some other → other.enabled = false := by
        intro other hother
        obtain rfl : entry = other := Option.some.inj (hentry.symm.trans hother)
        exact henabled
      rw [getElem?_sets_load_of_not_enabled engine hnot]
      simp [Option.filter, henabled]

/-! ## The account -/

/-- What a load does with each rule set and each line of a document, and what it leaves as
    it was. -/
structure LoadAccount (engine : Engine) (document : Document) (after : Engine)
    (report : LoadReport) : Prop where
  /-- The loaded sets are named in order, each once. -/
  loaded_sorted : report.loaded.Pairwise (· < ·)
  /-- The disabled sets are named in order, each once. -/
  disabled_sorted : report.disabled.Pairwise (· < ·)
  mem_loaded_iff (name : String) : name ∈ report.loaded ↔
    ∃ entry, document.sets[name]? = some entry ∧ entry.enabled = true
  mem_disabled_iff (name : String) : name ∈ report.disabled ↔
    ∃ entry, document.sets[name]? = some entry ∧ entry.enabled = false
  /-- A variable of the document has the text that it has there, and others keep theirs. -/
  getElem?_bindings (name : String) :
    after.bindings[name]? = document.bindings[name]?.or engine.bindings[name]?
  registry_eq : after.registry = engine.registry
  /-- A loaded set has the rules of its lines, as they are read under these variables. -/
  set_loaded (name : String) (entry : SetEntry) : document.sets[name]? = some entry →
    entry.enabled = true → after.sets[name]? = some (after.setOf entry)
  /-- The lines that are not among its rules were dropped. -/
  dropped_loaded (name : String) (entry : SetEntry) : document.sets[name]? = some entry →
    entry.enabled = true →
    report.dropped.filter (·.set = name) = after.failures name entry.rules
  /-- No other lines were dropped. -/
  set_of_dropped (dropped : DroppedLine) : dropped ∈ report.dropped →
    dropped.set ∈ report.loaded
  set_not_loaded (name : String) : name ∉ report.loaded →
    after.sets[name]? = engine.sets[name]?

/-- Loading a document accounts for all of its rule sets and all of their lines. -/
theorem load_accounts (engine : Engine) (document : Document) :
    engine.LoadAccount document (engine.load document).1 (engine.load document).2 where
  loaded_sorted := by
    rw [load_eq]
    exact pairwise_map_filter document.sets _
  disabled_sorted := by
    rw [load_eq]
    exact pairwise_map_filter document.sets _
  mem_loaded_iff name := by
    rw [load_eq]
    exact mem_map_enabledOf
  mem_disabled_iff name := by
    rw [load_eq]
    exact mem_map_disabledOf
  getElem?_bindings := getElem?_bindings_load engine document
  registry_eq := registry_load engine document
  set_loaded name entry := getElem?_sets_load_of_enabled engine
  dropped_loaded name entry hentry henabled := by
    rw [load_eq]
    exact filter_flatMap_failures nodup_map_enabledOf (mem_enabledOf hentry henabled)
  set_of_dropped dropped hdropped := by
    rw [load_eq] at hdropped ⊢
    obtain ⟨⟨name, entry⟩, hentry, hfailure⟩ := List.mem_flatMap.mp hdropped
    rw [set_eq_of_mem_failures hfailure]
    exact List.mem_map_of_mem hentry
  set_not_loaded name hname := by
    rw [load_eq] at hname
    refine getElem?_sets_load_of_not_enabled engine fun entry hentry => ?_
    exact Bool.eq_false_iff.mpr fun henabled =>
      hname (List.mem_map_of_mem (mem_enabledOf hentry henabled))

end Rulebook.Engine
