/-
  Rulebook.Proofs.Document.LoadOrder

  Documents that are loaded one after the other.  A load reads its lines under the kinds
  and the variables that the engine has once those of the document are set; the rule sets
  that it finds have no part in it (`load_eq_bound`).  So once its variables are set, the
  rule sets of a document may be loaded one by one and in any order (`load_parts`), and
  of a document whose variables and enabled rule sets all come again in the next one
  nothing is left (`load_absorbs`).
-/
import Rulebook.Kind.Custom
import Rulebook.Proofs.Document.Account

namespace Rulebook

namespace Document

/-- The document that has the variables of another one, and nothing else. -/
def variablesOnly (document : Document) : Document := { bindings := document.bindings }

/-- The document that has one rule set, and nothing else. -/
def ofSet (entry : String × SetEntry) : Document := { sets := NameMap.ofEntries [entry] }

/-- The document has an enabled rule set of the name. -/
def Enables (document : Document) (name : String) : Prop :=
  ∃ entry, document.sets[name]? = some entry ∧ entry.enabled = true

/-- Every variable and every enabled rule set of a document comes again in another one. -/
structure CoveredBy (document later : Document) : Prop where
  bindings : ∀ name : String, name ∈ document.bindings → name ∈ later.bindings
  enabled : ∀ name, document.Enables name → later.Enables name

end Document

namespace Engine

theorem filter_eq_flatMap {α : Type} (p : α → Bool) (as : List α) :
    as.filter p = as.flatMap fun a => [a].filter p := by
  induction as with
  | nil => rfl
  | cons a as ih =>
    rw [List.flatMap_cons, ← ih, ← List.filter_append, List.singleton_append]

section Parts

variable [Plugins]

/-! ## What a load reads, and what it leaves -/

/-- The engine with the variables of a document set. -/
def bound (engine : Engine) (document : Document) : Engine :=
  { engine with bindings := engine.bindings.insertAll document.bindings.toList }

/-- The rule sets that entries give, under their names. -/
def setsOf (engine : Engine) (entries : List (String × SetEntry)) : List (String × RuleSet) :=
  (enabledOf entries).map fun (name, entry) => (name, engine.setOf entry)

/-- The engine with rule sets added. -/
def insertSets (engine : Engine) (sets : List (String × RuleSet)) : Engine :=
  { engine with sets := engine.sets.insertAll sets }

/-- What is reported of entries. -/
def reportOf (engine : Engine) (entries : List (String × SetEntry)) : LoadReport where
  loaded := (enabledOf entries).map Prod.fst
  disabled := (disabledOf entries).map Prod.fst
  dropped := (enabledOf entries).flatMap fun (name, entry) => engine.failures name entry.rules

theorem load_eq_bound (engine : Engine) (document : Document) :
    engine.load document =
      ((engine.bound document).insertSets
          ((engine.bound document).setsOf document.sets.toList),
        { (engine.bound document).reportOf document.sets.toList with
          ignored := document.ignored }) :=
  load_eq engine document

/-- Lines are read under the kinds and the variables, whatever rule sets there are. -/
theorem parse_congr {engine engine' : Engine} (hregistry : engine.registry = engine'.registry)
    (hbindings : engine.bindings = engine'.bindings) : engine.parse = engine'.parse := by
  funext line
  rw [parse, parse, hregistry, hbindings]

theorem setsOf_congr {engine engine' : Engine} (hregistry : engine.registry = engine'.registry)
    (hbindings : engine.bindings = engine'.bindings) : engine.setsOf = engine'.setsOf := by
  funext entries
  rw [setsOf, setsOf, setOf_congr hregistry hbindings]

theorem reportOf_congr {engine engine' : Engine} (hregistry : engine.registry = engine'.registry)
    (hbindings : engine.bindings = engine'.bindings) : engine.reportOf = engine'.reportOf := by
  funext entries
  simp only [reportOf, failures, parse_congr hregistry hbindings]

theorem map_fst_setsOf (engine : Engine) (entries : List (String × SetEntry)) :
    (engine.setsOf entries).map Prod.fst = (enabledOf entries).map Prod.fst := by
  rw [setsOf, List.map_map]
  rfl

theorem insertSets_append (engine : Engine) (sets later : List (String × RuleSet)) :
    engine.insertSets (sets ++ later) = (engine.insertSets sets).insertSets later := by
  rw [insertSets, NameMap.insertAll_append]
  rfl

/-- Two engines load a document alike if they have the same kinds and come, with what the
    document gives, to the same variables and the same rule sets. -/
theorem load_congr {engine engine' : Engine} {document : Document}
    (hregistry : engine.registry = engine'.registry)
    (hbindings : (engine.bound document).bindings = (engine'.bound document).bindings)
    (hsets : engine.sets.insertAll ((engine'.bound document).setsOf document.sets.toList) =
      engine'.sets.insertAll ((engine'.bound document).setsOf document.sets.toList)) :
    engine.load document = engine'.load document := by
  have hkinds : (engine.bound document).registry = (engine'.bound document).registry := hregistry
  -- the lines of the document are read under the same kinds and variables both times
  have hengine : (engine.bound document).insertSets
      ((engine'.bound document).setsOf document.sets.toList) =
        (engine'.bound document).insertSets
          ((engine'.bound document).setsOf document.sets.toList) :=
    Engine.ext hkinds hsets hbindings
  rw [load_eq_bound, load_eq_bound, setsOf_congr hkinds hbindings,
    reportOf_congr hkinds hbindings, hengine]

/-! ## Loads in parts -/

/-- Load documents one after the other.  The result holds the report of each. -/
def loadEach (engine : Engine) : List Document → Engine × List LoadReport
  | [] => (engine, [])
  | document :: rest =>
    let (engine, report) := engine.load document
    let (engine, reports) := engine.loadEach rest
    (engine, report :: reports)

theorem load_variablesOnly (engine : Engine) (document : Document) :
    (engine.load document.variablesOnly).1 = engine.bound document := rfl

theorem load_ofSet (engine : Engine) (entry : String × SetEntry) :
    engine.load (.ofSet entry) =
      (engine.insertSets (engine.setsOf [entry]), engine.reportOf [entry]) := by
  have hbound : engine.bound (.ofSet entry) = engine := rfl
  have hsets : (Document.ofSet entry).sets.toList = [entry] :=
    NameMap.toList_ofEntries_singleton entry.1 entry.2
  rw [load_eq_bound, hbound, hsets]
  rfl

theorem setsOf_cons (engine : Engine) (entry : String × SetEntry)
    (entries : List (String × SetEntry)) :
    engine.setsOf (entry :: entries) = engine.setsOf [entry] ++ engine.setsOf entries := by
  rw [setsOf, setsOf, setsOf, ← List.map_append]
  congr 1
  exact List.filter_append [entry] entries

/-- Rule sets that are loaded one by one are each read, and reported of, as if it were the
    first. -/
theorem loadEach_map_ofSet (engine : Engine) (entries : List (String × SetEntry)) :
    engine.loadEach (entries.map .ofSet) =
      (engine.insertSets (engine.setsOf entries),
        entries.map fun entry => engine.reportOf [entry]) := by
  induction entries generalizing engine with
  | nil => rfl
  | cons entry entries ih =>
    rw [List.map_cons, loadEach, load_ofSet]
    -- the sets that are loaded so far do not change what the others give
    simp only [ih]
    rw [engine.setsOf_cons entry entries, insertSets_append]
    rfl

/-- What is reported of entries is, list by list, what is reported of each of them. -/
theorem reportOf_eq_flatMap (engine : Engine) (entries : List (String × SetEntry)) :
    engine.reportOf entries =
      { loaded := entries.flatMap fun entry => (engine.reportOf [entry]).loaded
        disabled := entries.flatMap fun entry => (engine.reportOf [entry]).disabled
        dropped := entries.flatMap fun entry => (engine.reportOf [entry]).dropped } := by
  have henabled : enabledOf entries = entries.flatMap fun entry => enabledOf [entry] :=
    filter_eq_flatMap _ _
  have hdisabled : disabledOf entries = entries.flatMap fun entry => disabledOf [entry] :=
    filter_eq_flatMap _ _
  rw [reportOf, henabled, hdisabled, List.map_flatMap, List.map_flatMap, List.flatMap_assoc]
  rfl

/-- Once the variables of a document are set, its rule sets may be loaded one by one in any
    order: they come to the engine to which the document comes as a whole.  What the whole
    load reports is, in the order of the names, what the single loads report. -/
theorem load_parts (engine : Engine) (document : Document) {entries : List (String × SetEntry)}
    (hperm : entries.Perm document.sets.toList) :
    let whole := engine.load document
    let bound := (engine.load document.variablesOnly).1
    let single (entry : String × SetEntry) : LoadReport := (bound.load (.ofSet entry)).2
    bound.loadEach (entries.map .ofSet) = (whole.1, entries.map single) ∧
      (document.sets.toList.map Prod.fst).Pairwise (· < ·) ∧
      whole.2.loaded = document.sets.toList.flatMap (fun entry => (single entry).loaded) ∧
      whole.2.disabled = document.sets.toList.flatMap (fun entry => (single entry).disabled) ∧
      whole.2.dropped = document.sets.toList.flatMap (fun entry => (single entry).dropped) := by
  intro whole bound single
  have hbound : bound = engine.bound document := load_variablesOnly engine document
  have hwhole := load_eq_bound engine document
  have hsingle : single = fun entry => (engine.bound document).reportOf [entry] := by
    funext entry
    exact congrArg Prod.snd (load_ofSet _ entry)
  have hnames : (document.sets.toList.map Prod.fst).Pairwise (· < ·) := by
    have hall := pairwise_map_filter document.sets fun _ => true
    rwa [List.filter_true] at hall
  have hnodup : (((engine.bound document).setsOf entries).map Prod.fst).Nodup := by
    have hentries : (entries.map Prod.fst).Nodup :=
      (hperm.map Prod.fst).nodup_iff.mpr document.sets.nodup_map_fst_toList
    rw [map_fst_setsOf]
    exact hentries.sublist (List.filter_sublist.map _)
  have hsets : (engine.bound document).insertSets ((engine.bound document).setsOf entries) =
      whole.1 := by
    rw [congrArg Prod.fst hwhole, insertSets,
      NameMap.insertAll_eq_of_perm _ hnodup ((hperm.filter _).map _)]
    rfl
  rw [hbound, hsingle, loadEach_map_ofSet, hsets]
  rw [reportOf_eq_flatMap] at hwhole
  rw [congrArg Prod.snd hwhole]
  exact ⟨rfl, hnames, rfl, rfl, rfl⟩

end Parts

/-- Three rule sets are loaded from the last to the first.  The second is disabled, and a line of
    the first does not parse. -/
theorem load_parts_reversed :
    let sets : List (String × SetEntry) :=
      [("a", ⟨true, ["print --message$ \x7bx\x7d", "unknown"], ["b c"]⟩), ("b", ⟨false, [], []⟩),
        ("c", ⟨true, ["warning --message \x7bx\x7d --path p"], []⟩)]
    let document : Document :=
      { bindings := NameMap.ofEntries [("x", "1")], sets := NameMap.ofEntries sets }
    let whole := builtin.load document
    let bound := (builtin.load document.variablesOnly).1
    let single (entry : String × SetEntry) : LoadReport := (bound.load (.ofSet entry)).2
    sets.reverse.Perm document.sets.toList ∧
      bound.loadEach (sets.reverse.map .ofSet) = (whole.1, sets.reverse.map single) ∧
      (document.sets.toList.map Prod.fst).Pairwise (· < ·) ∧
      whole.2.loaded = document.sets.toList.flatMap (fun entry => (single entry).loaded) ∧
      whole.2.disabled = document.sets.toList.flatMap (fun entry => (single entry).disabled) ∧
      whole.2.dropped = document.sets.toList.flatMap (fun entry => (single entry).dropped) := by
  intro sets document whole bound single
  have hsets : document.sets.toList = sets := by decide +kernel
  have hperm : sets.reverse.Perm document.sets.toList := by
    rw [hsets]
    exact sets.reverse_perm
  exact ⟨hperm, load_parts builtin document hperm⟩

/-! ## Loads that come again -/

/-- Of a document whose variables and enabled rule sets all come again in the next one nothing
    is left: loading both is loading the next one, with the same report.  So a document that is
    loaded a second time changes nothing. -/
theorem load_absorbs [Plugins] (engine : Engine) (document : Document) :
    (∀ earlier : Document, earlier.CoveredBy document →
      (engine.load earlier).1.load document = engine.load document) ∧
    (engine.load document).1.load document = engine.load document := by
  have habsorbs : ∀ earlier : Document, earlier.CoveredBy document →
      (engine.load earlier).1.load document = engine.load document := by
    intro earlier hcovered
    refine load_congr (registry_load engine earlier) ?_ ?_
    · rw [load_eq_bound engine earlier]
      refine NameMap.insertAll_insertAll engine.bindings document.bindings.nodup_map_fst_toList ?_
      simpa only [NameMap.mem_map_fst_toList] using hcovered.bindings
    · rw [load_eq_bound engine earlier]
      refine NameMap.insertAll_insertAll engine.sets ?_ ?_
      · rw [map_fst_setsOf]
        exact nodup_map_enabledOf
      · simp only [map_fst_setsOf, mem_map_enabledOf]
        exact hcovered.enabled
  exact ⟨habsorbs, habsorbs document ⟨fun _ h => h, fun _ h => h⟩⟩

/-- The later document gives the variable and the set anew, with another text and another rule.
    What the earlier one disables the later one does not mention. -/
theorem load_absorbs_renewed :
    let earlier : Document :=
      { bindings := NameMap.ofEntries [("x", "1")]
        sets := NameMap.ofEntries [("a", ⟨true, ["print --message$ \x7bx\x7d"], ["b c"]⟩),
          ("b", ⟨false, [], []⟩)] }
    let later : Document :=
      { bindings := NameMap.ofEntries [("x", "2"), ("y", "")]
        sets := NameMap.ofEntries [("a", ⟨true, ["warning --message \x7bx\x7d --path p"], []⟩)] }
    earlier.CoveredBy later ∧ (builtin.load earlier).1.load later = builtin.load later := by
  intro earlier later
  have hcovered : earlier.CoveredBy later := by
    constructor
    · intro name hname
      obtain rfl : "x" = name := by simpa [earlier, NameMap.ofEntries] using hname
      simp [later, NameMap.ofEntries]
    · rintro name ⟨entry, hentry, henabled⟩
      have hmem := NameMap.mem_of_getElem?_ofEntries hentry
      simp only [List.mem_cons, Prod.mk.injEq, List.not_mem_nil, or_false] at hmem
      rcases hmem with ⟨rfl, rfl⟩ | ⟨rfl, rfl⟩
      · refine ⟨⟨true, ["warning --message \x7bx\x7d --path p"], []⟩, ?_, rfl⟩
        simp [later, NameMap.ofEntries]
      · cases henabled
  exact ⟨hcovered, (load_absorbs builtin later).1 earlier hcovered⟩

end Engine

end Rulebook
