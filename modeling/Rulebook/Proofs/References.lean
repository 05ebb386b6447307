/-
  Rulebook.Proofs.References

  The references between the sets of a table: an edge from a set to each of its
  children that has a set itself.  `SetTable.Acyclic` says that no set reaches
  itself along them.
-/
import Mathlib.Logic.Relation
import Rulebook.RuleSet

namespace Rulebook

/-! ## Names of finite maps -/

theorem NameMap.mem_iff_getElem?_ne_none {α : Type} {map : NameMap α} {name : String} :
    name ∈ map ↔ map[name]? ≠ none := by
  rw [Std.ExtTreeMap.mem_iff_isSome_getElem?, Option.isSome_iff_ne_none]

namespace SetTable

variable [Plugins]

/-! ## Edges -/

/-- A set of the table has another set of the table among its children. -/
def Refers (table : SetTable) (parent child : String) : Prop :=
  ∃ set, table[parent]? = some set ∧ child ∈ set.children ∧ child ∈ table

theorem mem_childrenOf {table : SetTable} {parent child : String} :
    child ∈ table.childrenOf parent ↔ table.Refers parent child := by
  unfold childrenOf Refers
  split
  · next set hset => simp [hset]
  · next hset => simp [hset]

theorem Refers.child_mem {table : SetTable} {parent child : String}
    (h : table.Refers parent child) : child ∈ table := by
  obtain ⟨_, _, _, hmem⟩ := h
  exact hmem

theorem Refers.parent_mem {table : SetTable} {parent child : String}
    (h : table.Refers parent child) : parent ∈ table := by
  obtain ⟨set, hset, _⟩ := h
  rw [NameMap.mem_iff_getElem?_ne_none, hset]
  simp

/-! ## Cycles -/

/-- No set reaches itself, neither through other sets nor as a child of its own. -/
def Acyclic (table : SetTable) : Prop :=
  ∀ name, ¬ Relation.TransGen table.Refers name name

/-- A cycle passes through registered names only. -/
theorem mem_of_cycle {table : SetTable} {name : String}
    (h : Relation.TransGen table.Refers name name) : name ∈ table := by
  obtain ⟨next, hedge, _⟩ := Relation.TransGen.head'_iff.mp h
  exact hedge.parent_mem

end SetTable

end Rulebook
