/-
  Rulebook.Proofs.Cycle.Reported

  The names that the check of a table reports.  They are cut out of the path where the
  child that closes the cycle stands on it, so they go once round a cycle
  (`Search.Valid.isCycle_of_step`).  The path starts from the least name from which any
  cycle can be reached: names are started from in increasing order, and all that the
  earlier ones reach has been searched (`Search.ordered_of_reached`), which no cycle
  survives.
-/
import Mathlib.Data.List.Nodup
import Rulebook.Kind.Custom
import Rulebook.Proofs.Cycle.Acyclic

namespace Rulebook

namespace SetTable

variable [Plugins]

/-! ## Cycles as lists of names -/

/-- The names go once round a cycle of references, and end with the one that they start
    with. -/
structure IsCycle (table : SetTable) (names : List String) : Prop where
  two_le_length : 2 ≤ names.length
  head?_eq_getLast? : names.head? = names.getLast?
  /-- No other name comes twice. -/
  nodup : names.dropLast.Nodup
  mem : ∀ name ∈ names, name ∈ table
  /-- Each name but the last has the next among its children. -/
  linked : names.IsChain table.Refers

/-- References lead from a name to a cycle, which may pass through the name itself. -/
def ReachesCycle (table : SetTable) (name : String) : Prop :=
  ∃ other, Relation.ReflTransGen table.Refers name other ∧
    Relation.TransGen table.Refers other other

end SetTable

namespace Cycle

namespace Search

variable [Plugins] {table : SetTable} {s : Search} {names : List String}

/-! ## The names of a cycle on the path -/

theorem Valid.mem_of_mem_path (h : Valid table s) {name : String} (hmem : name ∈ s.path) :
    name ∈ table := by
  have honPath : s.marks[name]? = some .onPath :=
    (h.onPath_iff name).mpr (by simpa [path] using hmem)
  exact h.marked_mem name (by simp [honPath])

theorem Valid.mem_path_of_step (h : Valid table s) (hstep : s.step table = .cycle names)
    {name : String} (hname : name ∈ names) : name ∈ s.path := by
  obtain ⟨below, child, above, hsplit, rfl, -⟩ := h.exists_closing hstep
  rw [hsplit]
  rcases List.mem_append.mp hname with hname | hname
  · exact List.mem_append_right below hname
  · -- the child comes a second time
    simp [List.mem_singleton.mp hname]

/-- What a step reports goes once round a cycle. -/
theorem Valid.isCycle_of_step (h : Valid table s) (hstep : s.step table = .cycle names) :
    table.IsCycle names := by
  have hlinked := h.isChain_of_step hstep
  have hmem : ∀ name ∈ names, name ∈ table := fun name hname =>
    h.mem_of_mem_path (h.mem_path_of_step hstep hname)
  have hnodup : s.path.Nodup := by
    rw [path, List.nodup_reverse]
    exact h.nodup
  obtain ⟨below, child, above, hsplit, rfl, -⟩ := h.exists_closing hstep
  constructor
  case two_le_length =>
    simp only [List.length_append, List.length_cons, List.length_nil]
    omega
  case head?_eq_getLast? =>
    rw [List.getLast?_concat]
    rfl
  case nodup =>
    rw [List.dropLast_concat]
    rw [hsplit] at hnodup
    exact (List.nodup_append.mp hnodup).2.1
  case mem => exact hmem
  case linked => exact hlinked

/-- All names that a step reports are reached from the name that the path starts from. -/
theorem Valid.exists_start (h : Valid table s) (hstep : s.step table = .cycle names) :
    ∃ root, s.path.head? = some root ∧
      ∀ name ∈ names, Relation.ReflTransGen table.Refers root name := by
  obtain ⟨below, child, above, hsplit, -, -⟩ := h.exists_closing hstep
  cases hpath : s.path with
  | nil => simp [hpath] at hsplit
  | cons root rest =>
    refine ⟨root, rfl, fun name hname => ?_⟩
    have hlinked := h.isChain_path
    have honPath := h.mem_path_of_step hstep hname
    rw [hpath] at hlinked honPath
    exact reflTransGen_of_isChain hlinked honPath

/-! ## The order in which names are started from -/

/-- What has been searched leads to no cycle. -/
theorem Valid.not_reachesCycle (h : Valid table s) {name : String}
    (hdone : s.marks[name]? = some .done) : ¬ table.ReachesCycle name := by
  rintro ⟨other, hreach, hcycle⟩
  exact h.done_acyclic other (h.done_of_reflTransGen hdone hreach) hcycle

/-- The names of a table are, in increasing order, names that have been searched, the one that
    the path starts from, and those that are still to be started from. -/
def Ordered (table : SetTable) (s : Search) : Prop :=
  ∃ earlier, table.keys = earlier ++ s.path.head?.toList ++ s.starts ∧
    ∀ name ∈ earlier, s.marks[name]? = some .done

theorem ordered_initial (table : SetTable) : Ordered table (initial table) :=
  ⟨[], rfl, by simp⟩

/-- Where the path starts, it starts still when a name is put on it. -/
theorem head?_path_enter {name : String} {frame : Frame} {frames : List Frame}
    {marks : NameMap Mark} {starts : List String} :
    (enter table name ⟨marks, frame :: frames, starts⟩).path.head? =
      (path ⟨marks, frame :: frames, starts⟩).head? := by
  simp [enter, path]

/-- Each step keeps the order of the names. -/
theorem Ordered.next {t : Search} (h : Ordered table s) (hvalid : Valid table s)
    (hnext : Next table s t) : Ordered table t := by
  obtain ⟨earlier, hkeys, hdone⟩ := h
  cases hnext with
  | @skip marks name starts hmark =>
    refine ⟨earlier ++ [name], by simpa [path] using hkeys, ?_⟩
    intro other hother
    rcases List.mem_append.mp hother with hother | hother
    · exact hdone other hother
    · -- the path is empty, so a name that was entered has been searched
      obtain rfl := List.mem_singleton.mp hother
      obtain ⟨mark, hentered⟩ := Option.ne_none_iff_exists'.mp hmark
      cases mark with
      | onPath => cases (hvalid.onPath_iff other).mp hentered
      | done => exact hentered
  | @start marks name starts hmark =>
    refine ⟨earlier, by simpa [enter, path] using hkeys, fun other hother => ?_⟩
    exact (done_insert_onPath_iff hmark).mpr (hdone other hother)
  | @leave marks name frames starts =>
    have hkept : ∀ other ∈ earlier, (marks.insert name .done)[other]? = some .done :=
      fun other hother => done_insert_done_iff.mpr (.inr (hdone other hother))
    cases frames with
    | nil =>
      -- the name that the path started from has been searched
      refine ⟨earlier ++ [name], by simpa [path] using hkeys, fun other hother => ?_⟩
      rcases List.mem_append.mp hother with hother | hother
      · exact hkept other hother
      · exact done_insert_done_iff.mpr (.inl (List.mem_singleton.mp hother))
    | cons frame frames => exact ⟨earlier, by simpa [path] using hkeys, hkept⟩
  | pass hmark => exact ⟨earlier, hkeys, hdone⟩
  | descend hmark =>
    refine ⟨earlier, ?_, fun other hother => ?_⟩
    · rw [head?_path_enter]
      exact hkeys
    · exact (done_insert_onPath_iff hmark).mpr (hdone other hother)

/-- The names come in this order in every state that the search of a table goes through. -/
theorem ordered_of_reached (h : Reached table s) : Ordered table s := by
  induction h with
  | refl => exact ordered_initial table
  | tail hreached hnext ih => exact ih.next (valid_of_reached hreached) hnext

/-- A name that is less than the one that the path starts from leads to no cycle. -/
theorem Ordered.not_reachesCycle (h : Ordered table s) (hvalid : Valid table s)
    {root other : String} (hroot : s.path.head? = some root) (hother : other ∈ table)
    (hless : compare other root = .lt) : ¬ table.ReachesCycle other := by
  obtain ⟨earlier, hkeys, hdone⟩ := h
  have hsorted : table.keys.Pairwise fun a b => compare a b = .lt :=
    Std.ExtTreeMap.ordered_keys
  have hmem : other ∈ table.keys := Std.ExtTreeMap.mem_keys.mpr hother
  rw [hkeys, hroot, Option.toList_some, List.append_assoc, List.mem_append] at hmem
  rcases hmem with hearlier | hlater
  · exact hvalid.not_reachesCycle (hdone other hearlier)
  · -- what comes behind the start of the path is not less than it
    rw [hkeys, hroot, Option.toList_some, List.append_assoc] at hsorted
    have hbehind := (List.pairwise_append.mp hsorted).2.1
    rcases List.mem_cons.mp hlater with rfl | hlater
    · simp at hless
    · have hgreater : compare root other = .lt := List.rel_of_pairwise_cons hbehind hlater
      rw [← Std.OrientedCmp.gt_iff_lt, hless] at hgreater
      cases hgreater

end Search

/-! ## What is reported -/

/-- The names that the check of a table reports go once round a cycle, and all of them are
    reached from the least name from which any cycle can be reached. -/
theorem find?_isCycle [Plugins] {table : SetTable} {names : List String}
    (h : find? table = some names) :
    table.IsCycle names ∧
      ∃ root ∈ table, table.ReachesCycle root ∧
        (∀ other ∈ table, compare other root = .lt → ¬ table.ReachesCycle other) ∧
        ∀ name ∈ names, Relation.ReflTransGen table.Refers root name := by
  obtain ⟨last, hreached, hends⟩ := Search.find?_ends table
  have hvalid : Search.Valid table last := Search.valid_of_reached hreached
  have hordered : Search.Ordered table last := Search.ordered_of_reached hreached
  obtain ⟨names', hstep, hnames⟩ : ∃ names', last.step table = .cycle names' ∧
      find? table = some names' := by
    rcases hends with ⟨-, hnone⟩ | hcycle
    · rw [h] at hnone
      cases hnone
    · exact hcycle
  obtain rfl : names = names' := Option.some.inj (h.symm.trans hnames)
  obtain ⟨root, hroot, hreach⟩ := hvalid.exists_start hstep
  obtain ⟨first, rest, hfirst, hitself⟩ := hvalid.head_reaches_itself hstep
  have hmem : root ∈ table := hvalid.mem_of_mem_path (List.mem_of_mem_head? hroot)
  have hcycle : table.ReachesCycle root := ⟨first, hreach first (by simp [hfirst]), hitself⟩
  refine ⟨hvalid.isCycle_of_step hstep, root, hmem, hcycle, fun other hother hless => ?_, hreach⟩
  exact hordered.not_reachesCycle hvalid hroot hother hless

/-- The search starts from `a`, which leads to no cycle, and then from `c`, which leads to one
    but does not lie on it.  The report starts with the child of `c`, not with the least name
    of the cycle. -/
theorem find?_isCycle_three :
    let table : SetTable := NameMap.ofEntries [("a", ⟨[], ["b", "none"]⟩), ("b", ⟨[], []⟩),
      ("c", ⟨[], ["b", "y"]⟩), ("x", ⟨[], ["a", "y"]⟩), ("y", ⟨[], ["a", "z"]⟩),
      ("z", ⟨[], ["b", "x", "y"]⟩)]
    find? table = some ["y", "z", "x", "y"] ∧ table.IsCycle ["y", "z", "x", "y"] ∧
      ∃ root ∈ table, table.ReachesCycle root ∧
        (∀ other ∈ table, compare other root = .lt → ¬ table.ReachesCycle other) ∧
        ∀ name ∈ ["y", "z", "x", "y"], Relation.ReflTransGen table.Refers root name := by
  intro table
  have hreport : find? table = some ["y", "z", "x", "y"] := by cbv
  exact ⟨hreport, find?_isCycle hreport⟩

end Cycle

end Rulebook
