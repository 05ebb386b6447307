/-
  Rulebook.Proofs.Cycle.Nesting

  How deep sets nest when one of them is run.  Where no rule runs sets itself, the
  sets that are being run at one time are a path along the references of the table.
  Without a cycle no name is twice on a path, so there is never need for more levels
  than there are sets (`exists_enter`).  A set on a cycle of sets without rules comes
  back to itself on every level, so no number of levels suffices (`enter_eq_none`).
-/
import Rulebook.Kind.Custom
import Rulebook.Proofs.Cycle.Acyclic
import Rulebook.Proofs.NameMaps
import Rulebook.Proofs.Simulation

namespace Rulebook

/-! ## Rules that run no sets -/

/-- A guard, or a rule that prints a text or records an issue. -/
structure Rule.IsLeaf [Plugins] (rule : Rule) : Prop where
  kind_mem : rule.kind ∈ [RuleKind.guard, .print, .warning, .problem]
  form_eq : rule.settings.form = rule.kind.form

theorem Rule.IsLeaf.isBuiltin [Plugins] {rule : Rule} (h : rule.IsLeaf) : rule.IsBuiltin := by
  have hkinds : [RuleKind.guard, .print, .warning, .problem] ⊆ RuleKind.builtins := by
    simp [RuleKind.builtins]
  exact ⟨hkinds h.kind_mem, h.form_eq⟩

/-- All rules of all sets of a table run no sets. -/
def SetTable.IsLeafOnly [Plugins] (table : SetTable) : Prop :=
  ∀ (name : String) (set : RuleSet), table[name]? = some set → ∀ rule ∈ set.rules, rule.IsLeaf

theorem SetTable.IsLeafOnly.isBuiltin [Plugins] {table : SetTable} (h : table.IsLeafOnly) :
    table.IsBuiltin :=
  fun name set hset rule hrule => (h name set hset rule hrule).isBuiltin

section Leaf

variable [Plugins] [PluginTests] (fs : FileSystem) (run : Runner) (input : Input)

theorem Settings.exists_test {settings : Settings} (hfilter : settings.form ≠ .filter)
    (hcustom : ¬ settings.form.IsCustom) (session : Session) :
    ∃ passed final, settings.test fs run input session = some (passed, final) := by
  cases settings with
  | guard settings => exact ⟨_, _, rfl⟩
  | print settings => exact ⟨_, _, rfl⟩
  | issue settings => exact ⟨_, _, rfl⟩
  | filter settings => exact absurd rfl hfilter
  | custom rule => exact absurd trivial hcustom

/-- A rule that runs no sets has an outcome, whatever running a set would come to. -/
theorem Rule.IsLeaf.exists_test {rule : Rule} (h : rule.IsLeaf) (session : Session) :
    ∃ passed final, rule.test fs run input session = some (passed, final) := by
  have hforms : ∀ kind ∈ [RuleKind.guard, .print, .warning, .problem],
      kind.form ≠ .filter ∧ ¬ kind.form.IsCustom := by
    simp only [List.forall_mem_cons]
    exact ⟨⟨nofun, id⟩, ⟨nofun, id⟩, ⟨nofun, id⟩, ⟨nofun, id⟩, nofun⟩
  obtain ⟨hfilter, hcustom⟩ := hforms rule.kind h.kind_mem
  rw [← h.form_eq] at hfilter hcustom
  unfold Rule.test
  split
  · cases hresolve : rule.resolve session.bindings with
    | error e => exact ⟨false, session, rfl⟩
    | ok settings =>
      -- resolving has not made a filter of the rule
      have hsettings : settings.form = rule.settings.form := form_resolve h.form_eq hresolve
      rw [← hsettings] at hfilter hcustom
      exact Settings.exists_test fs run input hfilter hcustom session
  · exact Settings.exists_test fs run input hfilter hcustom session

theorem exists_testRules {rules : List Rule} (h : ∀ rule ∈ rules, rule.IsLeaf)
    (session : Session) :
    ∃ passed final, testRules fs run input rules session = some (passed, final) := by
  induction rules generalizing session with
  | nil => exact ⟨true, session, rfl⟩
  | cons rule rules ih =>
    obtain ⟨passed, next, hrule⟩ := (h rule (by simp)).exists_test fs run input session
    rw [testRules, hrule]
    cases passed with
    | false => exact ⟨false, next, rfl⟩
    | true => exact ih (fun other hother => h other (List.mem_cons_of_mem _ hother)) next

end Leaf

/-! ## Running some sets in order -/

theorem Runner.exists_runAll {run : Runner} {names : List String} {input : Input}
    (h : ∀ name ∈ names, ∀ session, ∃ final, run name input session = some final)
    (session : Session) : ∃ final, run.runAll names input session = some final := by
  induction names generalizing session with
  | nil => exact ⟨session, rfl⟩
  | cons name names ih =>
    obtain ⟨next, hnext⟩ := h name (by simp) session
    obtain ⟨final, hfinal⟩ := ih (fun other hother => h other (List.mem_cons_of_mem _ hother)) next
    refine ⟨final, ?_⟩
    rw [Runner.runAll, List.foldlM_cons, hnext]
    exact hfinal

/-- One set without a result leaves the whole row without one. -/
theorem Runner.runAll_eq_none {run : Runner} {name : String} {names : List String}
    {input : Input} (hname : name ∈ names) (h : ∀ session, run name input session = none)
    (session : Session) : run.runAll names input session = none := by
  induction names generalizing session with
  | nil => cases hname
  | cons first names ih =>
    rw [Runner.runAll, List.foldlM_cons]
    rcases List.mem_cons.mp hname with rfl | hname
    · rw [h session]
      rfl
    · cases run first input session with
      | none => rfl
      | some next => exact ih hname next

namespace Cycle

section Nesting

variable [Plugins] {table : SetTable}

/-! ## Paths without a cycle -/

/-- Without a cycle no name is twice on a path. -/
theorem nodup_of_linked (hacyclic : table.Acyclic) {names : List String}
    (h : names.IsChain fun child parent => table.Refers parent child) : names.Nodup := by
  induction names with
  | nil => exact List.nodup_nil
  | cons name names ih =>
    refine List.nodup_cons.mpr ⟨?_, ih h.tail⟩
    intro hmem
    exact hacyclic name (Search.transGen_of_linked h hmem)

/-- Without a cycle a path is no longer than the table has sets. -/
theorem length_le_of_linked (hacyclic : table.Acyclic) {names : List String}
    (h : names.IsChain fun child parent => table.Refers parent child)
    (hmem : ∀ name ∈ names, name ∈ table) : names.length ≤ table.size := by
  have hsub : names ⊆ table.keys := by
    intro name hname
    rw [Std.ExtTreeMap.mem_keys]
    exact hmem name hname
  have hle : names.length ≤ table.keys.length :=
    List.Nodup.length_le_of_subset (nodup_of_linked hacyclic h) hsub
  rw [Std.ExtTreeMap.length_keys] at hle
  exact hle

variable [PluginTests]

/-- A set that is run within others has a result if the levels that are left make up, with
    those in use, for the number of sets. -/
theorem exists_enter (hacyclic : table.Acyclic) (hleaf : table.IsLeafOnly) (fs : FileSystem)
    {depth : Nat} {name : String} {above : List String}
    (hlinked : (name :: above).IsChain fun child parent => table.Refers parent child)
    (hmem : ∀ other ∈ name :: above, other ∈ table)
    (hdepth : table.size ≤ above.length + depth) (input : Input) (session : Session) :
    ∃ final, enter table fs depth name input session = some final := by
  induction depth generalizing name above session with
  | zero =>
    -- the path has one name more than there are sets
    have hlength := length_le_of_linked hacyclic hlinked hmem
    rw [List.length_cons] at hlength
    omega
  | succ depth ih =>
    obtain ⟨set, hset⟩ : ∃ set, table[name]? = some set := by
      have hname := hmem name (by simp)
      rwa [NameMap.mem_iff_getElem?_ne_none, Option.ne_none_iff_exists'] at hname
    have hchildren : ∀ child ∈ set.children, ∀ session,
        ∃ final, enter table fs depth child input session = some final := by
      intro child hchild session
      by_cases hregistered : child ∈ table
      · have hedge : table.Refers name child := ⟨set, hset, hchild, hregistered⟩
        refine ih (.cons_cons hedge hlinked) ?_ ?_ session
        · intro other hother
          rcases List.mem_cons.mp hother with rfl | hother
          · exact hregistered
          · exact hmem other hother
        · rw [List.length_cons]
          omega
      · exact ⟨session, enter_of_not_mem hregistered fs depth input session⟩
    obtain ⟨passed, next, hrules⟩ :=
      exists_testRules fs (enter table fs depth) input (hleaf name set hset) session
    rw [enter, hset]
    simp only [RuleSet.run, hrules]
    cases passed with
    | false => exact ⟨next, rfl⟩
    | true => exact Runner.exists_runAll hchildren next

/-! ## Sets on a cycle -/

/-- A set that reaches itself through sets without rules has no result at any depth. -/
theorem enter_eq_none (hbare : ∀ (name : String) (set : RuleSet), table[name]? = some set →
      set.rules = []) (fs : FileSystem) {first : String}
    (hcycle : Relation.TransGen table.Refers first first) (depth : Nat) (input : Input)
    (session : Session) : enter table fs depth first input session = none := by
  -- what carries the induction is that a name reaches the cycle, not that it lies on it
  suffices h : ∀ name, Relation.TransGen table.Refers name first → ∀ session,
      enter table fs depth name input session = none from h first hcycle session
  induction depth with
  | zero =>
    intro name hname session
    obtain ⟨next, hedge, -⟩ := Relation.TransGen.head'_iff.mp hname
    have hcontains : table.contains name = true := hedge.parent_mem
    rw [enter, if_pos hcontains]
  | succ depth ih =>
    intro name hname session
    obtain ⟨next, ⟨set, hset, hchild, -⟩, hrest⟩ := Relation.TransGen.head'_iff.mp hname
    have hnext : Relation.TransGen table.Refers next first :=
      Relation.TransGen.trans_right hrest hcycle
    have hrules : set.rules = [] := hbare name set hset
    rw [enter, hset]
    simp only [RuleSet.run, hrules, testRules]
    exact Runner.runAll_eq_none hchild (ih next hnext) session

/-! ## What the check decides -/

/-- If the check of a table finds nothing and no rule runs sets itself, then every set can be
    run with as many levels as there are sets, and more levels change nothing.  If it reports
    a cycle and the sets hold no rules, then running the first set that it reports exceeds
    every number of levels. -/
theorem find?_decides_nesting (table : SetTable) (fs : FileSystem) :
    (find? table = none → table.IsLeafOnly → ∀ root input start, ∃ final,
      ∀ depth, table.size ≤ depth → enter table fs depth root input start = some final) ∧
    (∀ names, find? table = some names →
      (∀ (name : String) (set : RuleSet), table[name]? = some set → set.rules = []) →
      ∃ first rest, names = first :: rest ∧
        ∀ depth input start, enter table fs depth first input start = none) := by
  obtain ⟨last, hreached, hends⟩ := Search.find?_ends table
  have hvalid := Search.valid_of_reached hreached
  constructor
  · intro hnone hleaf root input start
    have hacyclic : table.Acyclic := by
      rcases hends with ⟨hfinished, -⟩ | ⟨names, -, hsome⟩
      · exact hvalid.acyclic hfinished
      · rw [hnone] at hsome
        cases hsome
    have hend : ∃ final, enter table fs table.size root input start = some final := by
      by_cases hroot : root ∈ table
      · -- nothing is above the root
        have hlinked : [root].IsChain fun child parent => table.Refers parent child :=
          .singleton root
        have hmem : ∀ other ∈ [root], other ∈ table := by
          intro other hother
          rw [List.mem_singleton.mp hother]
          exact hroot
        exact exists_enter hacyclic hleaf fs hlinked hmem (by simp) input start
      · exact ⟨start, enter_of_not_mem hroot fs table.size input start⟩
    obtain ⟨final, hfinal⟩ := hend
    exact ⟨final, fun depth hdepth => enter_mono hleaf.isBuiltin hdepth hfinal⟩
  · intro names hnames hbare
    rcases hends with ⟨-, hnone⟩ | ⟨names', hcycle, hsome⟩
    · rw [hnames] at hnone
      cases hnone
    · obtain rfl : names = names' := Option.some.inj (hnames.symm.trans hsome)
      obtain ⟨first, rest, hfirst, hitself⟩ := hvalid.head_reaches_itself hcycle
      exact ⟨first, rest, hfirst, enter_eq_none hbare fs hitself⟩

end Nesting

/-- Two sets share a child, which records an issue under the variables of the time; then two
    sets are children of each other. -/
theorem find?_decides_nesting_diamond :
    let leaf : RuleSet := ⟨[⟨.warning, .issue ⟨.warning, none, none, some "p"⟩,
      (∅ : Roster String).set "message" "{m}"⟩], []⟩
    let diamond : SetTable := NameMap.ofEntries
      [(".", ⟨[], ["a", "b", "none"]⟩), ("a", ⟨[], ["c"]⟩), ("b", ⟨[], ["c"]⟩), ("c", leaf)]
    let start : Session := { bindings := Std.ExtTreeMap.insert ∅ "m" "t" }
    let pair : SetTable := NameMap.ofEntries [("a", ⟨[], ["b"]⟩), ("b", ⟨[], ["a"]⟩)]
    find? diamond = none ∧ diamond.IsLeafOnly ∧
      (∀ depth, 4 ≤ depth → enter diamond .empty depth "." .other start = some
        ((start.record "" ⟨.warning, "t", "p"⟩).record "" ⟨.warning, "t", "p"⟩)) ∧
      find? pair = some ["a", "b", "a"] ∧
      (∀ depth input start, enter pair .empty depth "a" input start = none) := by
  intro leaf diamond start pair
  have hnone : find? diamond = none := by cbv
  have hleaf : diamond.IsLeafOnly := by
    intro name set hset
    have hmem := NameMap.mem_of_getElem?_ofEntries hset
    simp only [List.mem_cons, Prod.mk.injEq, List.not_mem_nil, or_false] at hmem
    rcases hmem with ⟨-, rfl⟩ | ⟨-, rfl⟩ | ⟨-, rfl⟩ | ⟨-, rfl⟩
    · simp
    · simp
    · simp
    · intro rule hrule
      obtain rfl := List.mem_singleton.mp hrule
      exact ⟨by decide, rfl⟩
  have hsome : find? pair = some ["a", "b", "a"] := by cbv
  have hbare : ∀ (name : String) (set : RuleSet), pair[name]? = some set → set.rules = [] := by
    intro name set hset
    have hmem := NameMap.mem_of_getElem?_ofEntries hset
    simp only [List.mem_cons, Prod.mk.injEq, List.not_mem_nil, or_false] at hmem
    rcases hmem with ⟨-, rfl⟩ | ⟨-, rfl⟩ <;> rfl
  have hsize : diamond.size = 4 := by rfl
  have hfour : enter diamond .empty 4 "." .other start = some
      ((start.record "" ⟨.warning, "t", "p"⟩).record "" ⟨.warning, "t", "p"⟩) := by cbv
  obtain ⟨final, hfinal⟩ := (find?_decides_nesting diamond .empty).1 hnone hleaf "." .other start
  rw [hsize] at hfinal
  obtain rfl := Option.some.inj ((hfinal 4 (Nat.le_refl 4)).symm.trans hfour)
  obtain ⟨first, rest, hnames, hnever⟩ := (find?_decides_nesting pair .empty).2 _ hsome hbare
  obtain ⟨rfl, -⟩ := List.cons.inj hnames
  exact ⟨hnone, hleaf, hfinal, hsome, hnever⟩

end Cycle

end Rulebook
