/-
  Rulebook.Proofs.Reachability

  Which sets of a table have a part in running one of them: those that are reached from
  it through children and through what file filters run.  Tables that agree on these,
  up to names that stand for nothing, give the same runs (`enter_eq_of_agreesAt`).  So
  a set that is not reached may be added or removed, and so may a child that has no set
  (`Engine.test_reachable`).
-/
import Mathlib.Logic.Relation
import Rulebook.Engine
import Rulebook.Kind.Custom
import Rulebook.Proofs.RunCongruence
import Rulebook.Proofs.Simulation

namespace Rulebook

/-- Names without effect may be left out. -/
theorem Runner.runAll_filter {run : Runner} {keep : String → Bool} {names : List String}
    {input : Input}
    (h : ∀ name ∈ names, keep name = false → ∀ session, run name input session = some session)
    (session : Session) :
    run.runAll (names.filter keep) input session = run.runAll names input session :=
  foldlM_filter_eq h session

section Reached

variable [Plugins]

/-! ## Names that are reached -/

/-- The names of the sets that a rule runs: none if it is no file filter. -/
def Rule.references (rule : Rule) : List String :=
  match rule.settings with
  | .filter filter => Text.words (filter.targets.getD "")
  | _ => []

/-- The names that a set refers to, by its children and by its rules. -/
def RuleSet.references (set : RuleSet) : List String :=
  set.children ++ set.rules.flatMap Rule.references

theorem RuleSet.mem_references_of_child {set : RuleSet} {child : String}
    (h : child ∈ set.children) : child ∈ set.references :=
  List.mem_append_left _ h

theorem RuleSet.mem_references_of_rule {set : RuleSet} {rule : Rule} (hrule : rule ∈ set.rules)
    {name : String} (h : name ∈ rule.references) : name ∈ set.references :=
  List.mem_append_right _ (List.mem_flatMap.mpr ⟨rule, hrule, h⟩)

namespace SetTable

/-- The set of one name refers to another name, whether that has a set or not. -/
def Mentions (table : SetTable) (name other : String) : Prop :=
  ∃ set, table[name]? = some set ∧ other ∈ set.references

/-- A name is reached from another one: from set to set through the names that they refer to. -/
def Reaches (table : SetTable) (name other : String) : Prop :=
  Relation.ReflTransGen table.Mentions name other

/-- A name to which no set refers is reached from itself alone. -/
theorem not_reaches_of_not_mentions {table : SetTable} {root name : String} (hne : name ≠ root)
    (h : ∀ other, ¬ table.Mentions other name) : ¬ table.Reaches root name := by
  intro hreaches
  rcases Relation.ReflTransGen.cases_tail hreaches with rfl | ⟨other, -, hmentions⟩
  · exact hne rfl
  · exact h other hmentions

/-! ## Tables that agree -/

/-- At least one of two tables has a set of the name. -/
def either (table table' : SetTable) (name : String) : Bool :=
  table.contains name || table'.contains name

/-- Two tables agree on a name.  Neither has a set of it, or both have one, with the same rules
    and the same children up to names of which neither table has a set. -/
def AgreesAt (table table' : SetTable) (name : String) : Prop :=
  (table[name]? = none ∧ table'[name]? = none) ∨
  ∃ set set', table[name]? = some set ∧ table'[name]? = some set' ∧ set.rules = set'.rules ∧
    set.children.filter (table.either table') = set'.children.filter (table.either table')

variable {table table' : SetTable} {name : String}

theorem agreesAt_of_getElem?_eq (h : table[name]? = table'[name]?) :
    table.AgreesAt table' name := by
  cases hset : table[name]? with
  | none => exact .inl ⟨hset, h ▸ hset⟩
  | some set => exact .inr ⟨set, set, hset, h ▸ hset, rfl, rfl⟩

theorem AgreesAt.contains_eq (h : table.AgreesAt table' name) :
    table.contains name = table'.contains name := by
  rw [Std.ExtTreeMap.contains_eq_isSome_getElem?, Std.ExtTreeMap.contains_eq_isSome_getElem?]
  rcases h with ⟨hset, hset'⟩ | ⟨set, set', hset, hset', -⟩
  · rw [hset, hset']
  · rw [hset, hset']
    rfl

theorem not_mem_of_either_eq_false (h : table.either table' name = false) :
    name ∉ table ∧ name ∉ table' := by
  rw [either, Bool.or_eq_false_iff] at h
  exact ⟨Bool.eq_false_iff.mp h.1, Bool.eq_false_iff.mp h.2⟩

end SetTable

/-! ## Runs over tables that agree -/

/-- Two ways to run sets do the same in a rule if they do for the sets that the rule runs. -/
theorem Rule.IsBuiltin.test_congr [PluginTests] {fs : FileSystem} {run run' : Runner} {rule : Rule}
    (hrule : rule.IsBuiltin)
    (hthen : rule.kind = .fileFilter → "then" ∉ rule.dynamic.names)
    (hrun : ∀ name ∈ rule.references, ∀ input session,
      run name input session = run' name input session) (input : Input) (session : Session) :
    rule.test fs run input session = rule.test fs run' input session := by
  rw [test_eq_resolve hrule.form_eq, test_eq_resolve hrule.form_eq]
  cases hresolve : rule.resolve session.bindings with
  | error e => rfl
  | ok settings =>
    cases settings with
    | filter filter =>
      obtain ⟨stored, hstored, hkind, htargets, -⟩ := hrule.resolve_filter hresolve
      -- the filter that was resolved runs the sets to which the rule refers
      have hreferences : rule.references = Text.words (filter.targets.getD "") := by
        simp only [references, hstored, htargets (hthen hkind)]
      have hvisit : filter.visit fs run = filter.visit fs run' := by
        funext session path
        unfold FilterSettings.visit
        split
        · cases hsome : filter.targets with
          | none => rfl
          | some targets =>
            rw [hsome, Option.getD_some] at hreferences
            refine Runner.runAll_congr (fun name hname => hrun name ?_ _) _
            rw [hreferences]
            exact hname
        · rfl
      simp only [Settings.test, FilterSettings.walk, hvisit]
    | custom stored => exact absurd hresolve (hrule.resolve_ne_custom stored)
    | _ => rfl

/-- Runs of a set come out the same over two tables that agree on all names that it reaches. -/
theorem enter_eq_of_agreesAt [PluginTests] {table table' : SetTable} (htable : table.IsBuiltin)
    (hthen : table.FilterStatic "then") {root : String}
    (hagree : ∀ name, table.Reaches root name → table.AgreesAt table' name) (fs : FileSystem)
    (depth : Nat) (input : Input) (session : Session) :
    enter table fs depth root input session = enter table' fs depth root input session := by
  -- what carries the induction is that all names reached from the root agree: a name that the
  -- root refers to reaches no others
  induction depth generalizing root input session with
  | zero => rw [enter, enter, (hagree root .refl).contains_eq]
  | succ depth ih =>
    rw [enter, enter]
    rcases hagree root .refl with ⟨hset, hset'⟩ | ⟨set, set', hset, hset', hrules, hchildren⟩
    · rw [hset, hset']
    · rw [hset, hset']
      have hname : ∀ name ∈ set.references, ∀ input session,
          enter table fs depth name input session = enter table' fs depth name input session :=
        fun name hname => ih fun other hother => hagree other (.head ⟨set, hset, hname⟩ hother)
      have htest : ∀ rule ∈ set.rules, ∀ session,
          rule.test fs (enter table fs depth) input session =
            rule.test fs (enter table' fs depth) input session := fun rule hrule =>
        (htable root set hset rule hrule).test_congr (hthen rule ⟨root, set, hset, hrule⟩)
          (fun name hmem => hname name (RuleSet.mem_references_of_rule hrule hmem)) input
      have hnone : ∀ name, table.either table' name = false → name ∉ table ∧ name ∉ table' :=
        fun _ => SetTable.not_mem_of_either_eq_false
      refine RuleSet.run_congr hrules htest (fun session => ?_) session
      -- children without a set in either table have no effect in either run
      calc (enter table fs depth).runAll set.children input session
          = (enter table fs depth).runAll (set.children.filter (table.either table')) input
              session :=
            (Runner.runAll_filter (fun name _ h => enter_of_not_mem (hnone name h).1 _ _ _)
              session).symm
        _ = (enter table' fs depth).runAll (set.children.filter (table.either table')) input
              session :=
            Runner.runAll_congr (fun name h => hname name
              (RuleSet.mem_references_of_child (List.mem_filter.mp h).1) input) session
        _ = (enter table' fs depth).runAll (set'.children.filter (table.either table')) input
              session := by rw [hchildren]
        _ = (enter table' fs depth).runAll set'.children input session :=
            Runner.runAll_filter (fun name _ h => enter_of_not_mem (hnone name h).2 _ _ _) session

/-! ## Changes of a table that no run sees -/

namespace SetTable

variable {table : SetTable} {name : String}

/-- A set may be given other children in place of its own that have no set. -/
theorem agreesAt_insert_children {set : RuleSet} (hset : table[name]? = some set)
    {children : List String}
    (hchildren : children.filter (table.contains ·) = table.childrenOf name) (other : String) :
    table.AgreesAt (table.insert name { set with children }) other := by
  by_cases hother : name = other
  · subst hother
    -- the new table has sets of the same names
    have hcontains : table.either (table.insert name { set with children }) = table.contains := by
      funext child
      have hname : table.contains name = true := by
        rw [Std.ExtTreeMap.contains_eq_isSome_getElem?, hset]
        rfl
      simp only [either, Std.ExtTreeMap.contains_insert]
      by_cases hchild : name = child
      · simp [← hchild, hname]
      · simp [hchild]
    refine .inr ⟨set, { set with children }, hset, ?_, rfl, ?_⟩
    · rw [NameMap.getElem?_insert_name, if_pos rfl]
    · simp only [childrenOf, hset] at hchildren
      rw [hcontains]
      exact hchildren.symm
  · refine agreesAt_of_getElem?_eq ?_
    rw [NameMap.getElem?_insert_name, if_neg hother]

end SetTable

/-- A test depends only on the sets that are reached from its root.  If the sets that file
    filters run are not dynamic, engines with the same variables that agree on all names that
    are reached give the same result.  So a set that is not reached may be put in or removed,
    and children that have no set may be given to a set or taken from it. -/
theorem Engine.test_reachable [PluginTests] {engine : Engine}
    (hbuiltin : engine.sets.IsBuiltin)
    (hthen : engine.sets.FilterStatic "then") (root : String) :
    (∀ engine' : Engine, engine.bindings = engine'.bindings →
      (∀ name, engine.sets.Reaches root name → engine.sets.AgreesAt engine'.sets name) →
      ∀ fs depth input, engine.test fs depth root input = engine'.test fs depth root input) ∧
    (∀ name, ¬ engine.sets.Reaches root name → ∀ fs depth input,
      (∀ set, engine.test fs depth root input =
        (engine.insertSet name set).test fs depth root input) ∧
      engine.test fs depth root input = (engine.removeSet name).test fs depth root input) ∧
    ∀ name set children, engine.sets[name]? = some set →
      children.filter (engine.sets.contains ·) = engine.sets.childrenOf name →
      ∀ fs depth input, engine.test fs depth root input =
        (engine.insertSet name { set with children }).test fs depth root input := by
  have hagreeing : ∀ engine' : Engine, engine.bindings = engine'.bindings →
      (∀ name, engine.sets.Reaches root name → engine.sets.AgreesAt engine'.sets name) →
      ∀ fs depth input, engine.test fs depth root input = engine'.test fs depth root input := by
    intro engine' hbindings hagree fs depth input
    rw [test, test, hbindings]
    exact enter_eq_of_agreesAt hbuiltin hthen hagree fs depth input _
  refine ⟨hagreeing, ?_, ?_⟩
  · intro name hname fs depth input
    have hne : ∀ other, engine.sets.Reaches root other → ¬ name = other := by
      rintro other hother rfl
      exact hname hother
    constructor
    · intro set
      refine hagreeing (engine.insertSet name set) rfl
        (fun other hother => SetTable.agreesAt_of_getElem?_eq ?_) fs depth input
      rw [insertSet, NameMap.getElem?_insert_name, if_neg (hne other hother)]
    · refine hagreeing (engine.removeSet name) rfl
        (fun other hother => SetTable.agreesAt_of_getElem?_eq ?_) fs depth input
      simp [removeSet, Std.ExtTreeMap.getElem?_erase, hne other hother]
  · intro name set children hset hchildren
    exact hagreeing (engine.insertSet name { set with children }) rfl
      fun other _ => SetTable.agreesAt_insert_children hset hchildren other

end Reached

/-- The root runs `leaf` as a filter and as a child.  The set `lost` refers to the root, but
    nothing refers to it.  The second engine has lost it, and names without sets have come and
    gone among the children of the root. -/
theorem Engine.test_reachable_filter :
    let leaf : RuleSet := ⟨[⟨.problem, .issue ⟨.problem, none, none, some "p"⟩,
      (∅ : Roster String).set "message" "\x7bv\x7d"⟩], []⟩
    let root : RuleSet := ⟨[⟨.fileFilter, .filter { targets := some "leaf gone" },
      (∅ : Roster String).set "varname" "v"⟩], ["leaf", "none"]⟩
    let engine : Engine :=
      { sets := NameMap.ofEntries [("leaf", leaf), ("lost", ⟨[], ["root"]⟩), ("root", root)] }
    let engine' : Engine :=
      (engine.removeSet "lost").insertSet "root" { root with children := ["gone", "leaf"] }
    let final : Session :=
      { bindings := NameMap.ofEntries [("file-path", "a/b"), ("v", "b")]
        report := ((∅ : Report).addUnder "" ⟨.problem, "b", "p"⟩).addUnder "" ⟨.problem, "b", "p"⟩ }
    engine.sets.IsBuiltin ∧ engine.sets.FilterStatic "then" ∧
      (∀ name, engine.sets.Reaches "root" name → engine.sets.AgreesAt engine'.sets name) ∧
      engine'.test .empty 2 "root" (.path "a/b") = some final ∧
      engine.test .empty 2 "root" (.path "a/b") = some final ∧
      ¬ engine.sets.Reaches "root" "lost" ∧
      (engine.insertSet "lost" leaf).test .empty 2 "root" (.path "a/b") = some final ∧
      (engine.removeSet "lost").test .empty 2 "root" (.path "a/b") = some final ∧
      ["leaf"].filter (engine.sets.contains ·) = engine.sets.childrenOf "root" ∧
      (engine.insertSet "root" { root with children := ["leaf"] }).test .empty 2 "root"
        (.path "a/b") = some final := by
  intro leaf root engine engine' final
  have hbuiltin : engine.sets.IsBuiltin :=
    SetTable.isBuiltin_iff.mpr (SetTable.forall_hasRule_ofEntries (by decide))
  have hthen : engine.sets.FilterStatic "then" := SetTable.forall_hasRule_ofEntries (by decide)
  have hlost : ¬ engine.sets.Reaches "root" "lost" := by
    refine SetTable.not_reaches_of_not_mentions (by decide) ?_
    rintro other ⟨set, hset, hmem⟩
    have hentry := NameMap.mem_of_getElem?_ofEntries hset
    simp only [List.mem_cons, Prod.mk.injEq, List.not_mem_nil, or_false] at hentry
    rcases hentry with ⟨-, rfl⟩ | ⟨-, rfl⟩ | ⟨-, rfl⟩ <;> revert hmem <;> decide +kernel
  have hroot : engine.sets["root"]? = some root := by cbv
  have hagree : ∀ name, engine.sets.Reaches "root" name →
      engine.sets.AgreesAt engine'.sets name := by
    intro name hname
    have hne : ¬ "lost" = name := by
      rintro rfl
      exact hlost hname
    by_cases hroot' : "root" = name
    · subst hroot'
      refine .inr ⟨root, { root with children := ["gone", "leaf"] }, hroot, ?_, rfl, by cbv⟩
      simp [engine', insertSet]
    · refine SetTable.agreesAt_of_getElem?_eq ?_
      simp [engine', insertSet, removeSet, NameMap.getElem?_insert_name, hroot',
        Std.ExtTreeMap.getElem?_erase, hne]
  have hrun : engine.test .empty 2 "root" (.path "a/b") = some final := by cbv
  have hchildren : ["leaf"].filter (engine.sets.contains ·) = engine.sets.childrenOf "root" := by
    cbv
  obtain ⟨hagreeing, hunreached, hunregistered⟩ := test_reachable hbuiltin hthen "root"
  obtain ⟨hinsert, hremove⟩ := hunreached "lost" hlost .empty 2 (.path "a/b")
  have hagreed := hagreeing engine' rfl hagree .empty 2 (.path "a/b")
  have hreplaced := hunregistered "root" root ["leaf"] hroot hchildren .empty 2 (.path "a/b")
  exact ⟨hbuiltin, hthen, hagree, hagreed.symm.trans hrun, hrun, hlost,
    (hinsert leaf).symm.trans hrun, hremove.symm.trans hrun, hchildren, hreplaced.symm.trans hrun⟩

end Rulebook
