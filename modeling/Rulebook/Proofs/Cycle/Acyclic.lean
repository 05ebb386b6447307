/-
  Rulebook.Proofs.Cycle.Acyclic

  The check of a table is exact: it finds nothing if and only if the references
  between the sets of the table have no cycle.  What it finds is a part of the path,
  from the first place of the name that the path comes to again
  (`Search.Valid.exists_closing`).
-/
import Rulebook.Proofs.Cycle.Invariant

namespace Rulebook

/-! ## Chains -/

/-- Along a chain the first element leads to all that follow. -/
theorem transGen_of_isChain {α : Type} {r : α → α → Prop} {first other : α} {rest : List α}
    (h : (first :: rest).IsChain r) (hmem : other ∈ rest) : Relation.TransGen r first other := by
  have hpairs : (first :: rest).Pairwise (Relation.TransGen r) :=
    (h.imp fun _ _ => Relation.TransGen.single).pairwise
  exact List.rel_of_pairwise_cons hpairs hmem

theorem reflTransGen_of_isChain {α : Type} {r : α → α → Prop} {first other : α} {rest : List α}
    (h : (first :: rest).IsChain r) (hmem : other ∈ first :: rest) :
    Relation.ReflTransGen r first other := by
  rcases List.mem_cons.mp hmem with rfl | hmem
  · exact .refl
  · exact (transGen_of_isChain h hmem).to_reflTransGen

namespace Cycle

namespace Search

variable {s : Search}

/-! ## The path -/

/-- The place of a name is behind the names of the path that come in front of it. -/
theorem place?_of_split {below above : List String} {child : String}
    (hsplit : s.path = below ++ child :: above) (hbelow : child ∉ below) :
    s.place? child = some below.length := by
  have hpass : below.findIdx? (· == child) = none := by
    rw [List.findIdx?_eq_none_iff]
    intro other hother
    rw [beq_eq_false_iff_ne]
    rintro rfl
    exact hbelow hother
  rw [place?, hsplit, List.findIdx?_append, hpass, List.findIdx?_cons]
  simp

variable [Plugins] {table : SetTable} {names : List String}

/-- The path goes along references, from the name that the search started from. -/
theorem Valid.isChain_path (h : Valid table s) : s.path.IsChain table.Refers := by
  rw [path, List.isChain_reverse]
  exact h.linked

/-- A cycle is found where the path comes to a name for the second time.  The names below its
    first place on the path are left out of the report. -/
theorem Valid.exists_closing (h : Valid table s) (hstep : s.step table = .cycle names) :
    ∃ below child above, s.path = below ++ child :: above ∧ names = child :: above ++ [child] ∧
      (s.path ++ [child]).IsChain table.Refers := by
  obtain ⟨name, child, pending, frames, hframes, hmark, rfl⟩ := step_eq_cycle_iff.mp hstep
  have hpath : s.path = (frames.map Frame.name).reverse ++ [name] := by
    simp [path, hframes]
  have honPath : child ∈ s.path := by
    have hframe := (h.onPath_iff child).mp hmark
    simpa [path] using hframe
  -- the child is looked for from the start of the path, and is there
  obtain ⟨below, above, hsplit, hbelow⟩ := List.eq_append_cons_of_mem honPath
  have hclosed : s.closedBy child = child :: above ++ [child] := by
    rw [closedBy, place?_of_split hsplit hbelow, Option.getD_some, hsplit, List.drop_left]
  have hedge : table.Refers name child :=
    h.pending_refers ⟨name, child :: pending⟩ (by simp [hframes]) child (by simp)
  refine ⟨below, child, above, hsplit, hclosed, ?_⟩
  -- the path ends with the name that has the child
  apply List.IsChain.append h.isChain_path (.singleton child)
  intro last hlast next hnext
  obtain rfl : name = last := by simpa [hpath] using hlast
  obtain rfl : child = next := by simpa using hnext
  exact hedge

/-- Each name that is reported has the next among its children. -/
theorem Valid.isChain_of_step (h : Valid table s) (hstep : s.step table = .cycle names) :
    names.IsChain table.Refers := by
  obtain ⟨below, child, above, hsplit, rfl, hlinked⟩ := h.exists_closing hstep
  rw [hsplit, List.append_assoc] at hlinked
  exact hlinked.right_of_append

/-- On a path, each name is reached from those below it. -/
theorem transGen_of_linked {name other : String} {names : List String}
    (h : (name :: names).IsChain fun child parent => table.Refers parent child)
    (hmem : other ∈ names) : Relation.TransGen table.Refers other name :=
  Relation.transGen_swap.mp (transGen_of_isChain h hmem)

/-- The first name that is reported for a cycle reaches itself. -/
theorem Valid.head_reaches_itself (h : Valid table s) (hstep : s.step table = .cycle names) :
    ∃ first rest, names = first :: rest ∧ Relation.TransGen table.Refers first first := by
  have hlinked := h.isChain_of_step hstep
  obtain ⟨below, child, above, hsplit, rfl, -⟩ := h.exists_closing hstep
  -- it is the last one as well
  exact ⟨child, above ++ [child], rfl, transGen_of_isChain hlinked (by simp)⟩

/-- A step that ends a search with a cycle has met one. -/
theorem Valid.exists_cycle (h : Valid table s) (hstep : s.step table = .cycle names) :
    ∃ name, Relation.TransGen table.Refers name name := by
  obtain ⟨first, -, -, hcycle⟩ := h.head_reaches_itself hstep
  exact ⟨first, hcycle⟩

/-- When a search ends without a cycle, all sets have been searched, so none lies on one. -/
theorem Valid.acyclic (h : Valid table s) (hstep : s.step table = .finished) :
    table.Acyclic := by
  obtain ⟨hframes, hstarts⟩ := step_eq_finished_iff.mp hstep
  intro name hcycle
  have hmarked : s.marks[name]? ≠ none := by
    have hor := h.started name (SetTable.mem_of_cycle hcycle)
    rw [hstarts] at hor
    exact hor.resolve_left List.not_mem_nil
  match hmark : s.marks[name]? with
  | none => exact hmarked hmark
  | some .onPath =>
    -- the path is empty at the end
    have honPath := (h.onPath_iff name).mp hmark
    rw [hframes] at honPath
    exact List.not_mem_nil honPath
  | some .done => exact h.done_acyclic name hmark hcycle

end Search

/-- The search of every table ends, and finds nothing exactly if no set of the table
    reaches itself. -/
theorem find?_eq_none_iff_acyclic [Plugins] (table : SetTable) :
    (∃ last, Search.Reached table last ∧ Search.Ends table last (find? table)) ∧
      (find? table = none ↔ table.Acyclic) := by
  obtain ⟨last, hreached, hends⟩ := Search.find?_ends table
  have hvalid := Search.valid_of_reached hreached
  refine ⟨⟨last, hreached, hends⟩, ?_⟩
  rcases hends with ⟨hfinished, hnone⟩ | ⟨names, hcycle, hsome⟩
  · exact ⟨fun _ => hvalid.acyclic hfinished, fun _ => hnone⟩
  · constructor
    · intro hnone
      rw [hsome] at hnone
      cases hnone
    · intro hacyclic
      obtain ⟨name, hname⟩ := hvalid.exists_cycle hcycle
      exact absurd hname (hacyclic name)

end Cycle

end Rulebook
