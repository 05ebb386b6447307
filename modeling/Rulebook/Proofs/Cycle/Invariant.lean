/-
  Rulebook.Proofs.Cycle.Invariant

  What holds in every state of the search for a cycle (`valid_of_reached`): the
  marked names are the path and the names behind which all has been searched, the
  path follows references, and no cycle passes through a searched name.

  The last of these carries the check.  It is kept when a name is left: all its
  children are then searched, searched names refer to searched names only, and a
  cycle through the name would make the name itself, which is on the path, one of
  them.
-/
import Mathlib.Data.List.Chain
import Rulebook.Proofs.Cycle.Steps
import Rulebook.Proofs.References

namespace Rulebook.Cycle.Search

/-! ## Marks -/

/-- Marks keep what is searched when a new name is entered. -/
theorem done_insert_onPath_iff {marks : NameMap Mark} {name other : String}
    (hnew : marks[name]? = none) :
    (marks.insert name .onPath)[other]? = some .done ↔ marks[other]? = some .done := by
  rw [NameMap.getElem?_insert_name]
  split
  · next he => simp [← he, hnew]
  · rfl

theorem done_insert_done_iff {marks : NameMap Mark} {name other : String} :
    (marks.insert name .done)[other]? = some .done ↔
      other = name ∨ marks[other]? = some .done := by
  rw [NameMap.getElem?_insert_name]
  split
  · next he => simp [he]
  · next he => simp [Ne.symm he]

variable [Plugins] {table : SetTable}

/-! ## The invariant -/

/-- Each child of a name on the path is still to be looked at, has been searched, or
    is the name that lies above on the path. -/
def Looked (table : SetTable) (marks : NameMap Mark) : Option String → List Frame → Prop
  | _, [] => True
  | above, frame :: frames =>
    (∀ child, table.Refers frame.name child →
      child ∈ frame.pending ∨ marks[child]? = some .done ∨ above = some child) ∧
    Looked table marks (some frame.name) frames

/-- What holds in every state of a search. -/
structure Valid (table : SetTable) (s : Search) : Prop where
  onPath_iff : ∀ name, s.marks[name]? = some .onPath ↔ name ∈ s.frames.map Frame.name
  nodup : (s.frames.map Frame.name).Nodup
  linked : (s.frames.map Frame.name).IsChain fun child parent => table.Refers parent child
  pending_refers : ∀ frame ∈ s.frames, ∀ child ∈ frame.pending, table.Refers frame.name child
  looked : Looked table s.marks none s.frames
  marked_mem : ∀ name, s.marks[name]? ≠ none → name ∈ table
  starts_mem : ∀ name ∈ s.starts, name ∈ table
  started : ∀ name ∈ table, name ∈ s.starts ∨ s.marks[name]? ≠ none
  done_closed : ∀ name child, s.marks[name]? = some .done → table.Refers name child →
    s.marks[child]? = some .done
  done_acyclic : ∀ name, s.marks[name]? = some .done →
    ¬ Relation.TransGen table.Refers name name

theorem Looked.mono {marks marks' : NameMap Mark}
    (hdone : ∀ name : String, marks[name]? = some .done → marks'[name]? = some .done)
    {above : Option String} {frames : List Frame} (h : Looked table marks above frames) :
    Looked table marks' above frames := by
  induction frames generalizing above with
  | nil => trivial
  | cons frame frames ih =>
    obtain ⟨hhead, htail⟩ := h
    refine ⟨?_, ih htail⟩
    intro child hedge
    rcases hhead child hedge with hp | hd | ha
    · exact .inl hp
    · exact .inr (.inl (hdone child hd))
    · exact .inr (.inr ha)

/-- A child that is looked at need no longer be pending, if it has been searched or is put
    on the path above. -/
theorem Looked.tail {marks : NameMap Mark} {name child : String} {pending : List String}
    {frames : List Frame} {above : Option String}
    (h : Looked table marks none (⟨name, child :: pending⟩ :: frames))
    (hchild : marks[child]? = some .done ∨ above = some child) :
    Looked table marks above (⟨name, pending⟩ :: frames) := by
  obtain ⟨hhead, htail⟩ := h
  refine ⟨?_, htail⟩
  intro other hedge
  rcases hhead other hedge with hp | hd | ha
  · rcases List.mem_cons.mp hp with rfl | hp
    · exact .inr hchild
    · exact .inl hp
  · exact .inr (.inl hd)
  · cases ha

/-- A name above the path that has been searched need not be excepted. -/
theorem Looked.of_done {marks : NameMap Mark} {name : String} {frames : List Frame}
    (hname : marks[name]? = some .done) (h : Looked table marks (some name) frames) :
    Looked table marks none frames := by
  cases frames with
  | nil => trivial
  | cons frame frames =>
    obtain ⟨hhead, htail⟩ := h
    refine ⟨?_, htail⟩
    intro child hedge
    rcases hhead child hedge with hp | hd | ha
    · exact .inl hp
    · exact .inr (.inl hd)
    · rw [← Option.some.inj ha]
      exact .inr (.inl hname)

/-! ## The first state -/

theorem valid_initial (table : SetTable) : Valid table (initial table) where
  onPath_iff := by simp [initial]
  nodup := by simp [initial]
  linked := by simp [initial]
  pending_refers := by simp [initial]
  looked := by simp [initial, Looked]
  marked_mem := by simp [initial]
  starts_mem := by simp [initial]
  started := by
    intro name hname
    exact .inl (by simpa [initial] using hname)
  done_closed := by simp [initial]
  done_acyclic := by simp [initial]

/-! ## Entering a name -/

/-- Entering a name keeps the invariant, if the name is a child of the path's last name,
    or the path is empty.  The state `t` differs from a valid one by what it still has
    to look at. -/
theorem Valid.enter {s t : Search} {name : String} (h : Valid table s)
    (hnew : s.marks[name]? = none) (hmem : name ∈ table) (hmarks : t.marks = s.marks)
    (hnames : t.frames.map Frame.name = s.frames.map Frame.name)
    (hlinked : (name :: t.frames.map Frame.name).IsChain fun child parent =>
      table.Refers parent child)
    (hpending : ∀ frame ∈ t.frames, ∀ child ∈ frame.pending, table.Refers frame.name child)
    (hlooked : Looked table t.marks (some name) t.frames)
    (hstarts : ∀ other ∈ t.starts, other ∈ table)
    (hstarted : ∀ other ∈ table, other ∈ t.starts ∨ other = name ∨ s.marks[other]? ≠ none) :
    Valid table (Search.enter table name t) := by
  have hfresh : name ∉ t.frames.map Frame.name := by
    rw [hnames, ← h.onPath_iff, hnew]
    simp
  constructor
  case onPath_iff =>
    intro other
    simp only [Search.enter, NameMap.getElem?_insert_name, List.map_cons, List.mem_cons]
    by_cases he : name = other
    · simp [he]
    · rw [if_neg he, hmarks, h.onPath_iff, hnames]
      simp [Ne.symm he]
  case nodup =>
    have hrest : (t.frames.map Frame.name).Nodup := hnames ▸ h.nodup
    exact List.nodup_cons.mpr ⟨hfresh, hrest⟩
  case linked => exact hlinked
  case pending_refers =>
    intro frame hframe child hchild
    rcases List.mem_cons.mp hframe with rfl | hframe
    · exact SetTable.mem_childrenOf.mp hchild
    · exact hpending frame hframe child hchild
  case looked =>
    refine ⟨?_, hlooked.mono fun other hd => ?_⟩
    · intro child hedge
      exact .inl (SetTable.mem_childrenOf.mpr hedge)
    · exact (done_insert_onPath_iff (hmarks ▸ hnew)).mpr hd
  case marked_mem =>
    intro other hother
    simp only [Search.enter, NameMap.getElem?_insert_name] at hother
    split at hother
    · next he => exact he ▸ hmem
    · exact h.marked_mem other (hmarks ▸ hother)
  case starts_mem => exact hstarts
  case started =>
    intro other hother
    simp only [Search.enter, NameMap.getElem?_insert_name, hmarks]
    rcases hstarted other hother with hs | he | hm
    · exact .inl hs
    · exact .inr (by simp [he])
    · exact .inr (by split <;> simp [hm])
  case done_closed =>
    intro other child hd hedge
    simp only [Search.enter, hmarks, done_insert_onPath_iff hnew] at hd ⊢
    exact h.done_closed other child hd hedge
  case done_acyclic =>
    intro other hd
    simp only [Search.enter, hmarks, done_insert_onPath_iff hnew] at hd
    exact h.done_acyclic other hd

/-! ## Leaving a name -/

/-- A searched name reaches searched names only. -/
theorem Valid.done_of_reflTransGen {s : Search} {name other : String} (h : Valid table s)
    (hd : s.marks[name]? = some .done) (hreach : Relation.ReflTransGen table.Refers name other) :
    s.marks[other]? = some .done := by
  induction hreach with
  | refl => exact hd
  | tail _ hedge ih => exact h.done_closed _ _ ih hedge

/-- No cycle passes through a name on the path whose children have all been searched. -/
theorem Valid.not_cycle_of_children_done {s : Search} {name : String} (h : Valid table s)
    (hpath : s.marks[name]? = some .onPath)
    (hchildren : ∀ child, table.Refers name child → s.marks[child]? = some .done) :
    ¬ Relation.TransGen table.Refers name name := by
  intro hcycle
  obtain ⟨child, hedge, hback⟩ := Relation.TransGen.head'_iff.mp hcycle
  -- the way back starts at a searched name, so it never meets the path
  have hdone := h.done_of_reflTransGen (hchildren child hedge) hback
  rw [hpath] at hdone
  cases hdone

/-- Leaving a name keeps the invariant. -/
theorem Valid.leave {marks : NameMap Mark} {name : String} {frames : List Frame}
    {starts : List String} (h : Valid table ⟨marks, ⟨name, []⟩ :: frames, starts⟩) :
    Valid table ⟨marks.insert name .done, frames, starts⟩ := by
  have hpath : marks[name]? = some .onPath := (h.onPath_iff name).mpr (by simp)
  have hnodup : name ∉ frames.map Frame.name ∧ (frames.map Frame.name).Nodup :=
    List.nodup_cons.mp h.nodup
  have hchildren : ∀ child, table.Refers name child → marks[child]? = some .done := by
    intro child hedge
    rcases h.looked.1 child hedge with hp | hd | ha
    · cases hp
    · exact hd
    · cases ha
  have hacyclic : ¬ Relation.TransGen table.Refers name name :=
    h.not_cycle_of_children_done hpath hchildren
  constructor
  case onPath_iff =>
    intro other
    rw [NameMap.getElem?_insert_name]
    by_cases he : name = other
    · subst he
      simpa using hnodup.1
    · rw [if_neg he]
      have hiff := h.onPath_iff other
      simp only [List.map_cons, List.mem_cons, Ne.symm he, false_or] at hiff
      exact hiff
  case nodup => exact hnodup.2
  case linked => exact h.linked.tail
  case pending_refers =>
    intro frame hframe
    exact h.pending_refers frame (List.mem_cons_of_mem _ hframe)
  case looked =>
    have hmono : Looked table (marks.insert name .done) (some name) frames :=
      Looked.mono (fun other hd => done_insert_done_iff.mpr (.inr hd)) h.looked.2
    exact hmono.of_done (done_insert_done_iff.mpr (.inl rfl))
  case marked_mem =>
    intro other hother
    rw [NameMap.getElem?_insert_name] at hother
    split at hother
    · next he => exact h.marked_mem other (by rw [← he]; simp [hpath])
    · exact h.marked_mem other hother
  case starts_mem => exact h.starts_mem
  case started =>
    intro other hother
    rcases h.started other hother with hs | hm
    · exact .inl hs
    · refine .inr ?_
      rw [NameMap.getElem?_insert_name]
      split
      · simp
      · exact hm
  case done_closed =>
    intro other child hd hedge
    rw [done_insert_done_iff] at hd ⊢
    rcases hd with rfl | hd
    · -- no child of the name is the name itself: they are searched, and it is on the path
      exact .inr (hchildren child hedge)
    · exact .inr (h.done_closed other child hd hedge)
  case done_acyclic =>
    intro other hd
    rcases done_insert_done_iff.mp hd with rfl | hd
    · exact hacyclic
    · exact h.done_acyclic other hd

/-! ## Passing over a child -/

theorem Valid.pending_tail_refers {marks : NameMap Mark} {name child : String}
    {pending : List String} {frames : List Frame} {starts : List String}
    (h : Valid table ⟨marks, ⟨name, child :: pending⟩ :: frames, starts⟩) :
    ∀ frame ∈ ⟨name, pending⟩ :: frames, ∀ other ∈ frame.pending,
      table.Refers frame.name other := by
  intro frame hframe other hother
  rcases List.mem_cons.mp hframe with rfl | hframe
  · exact h.pending_refers ⟨name, child :: pending⟩ (by simp) other
      (List.mem_cons_of_mem _ hother)
  · exact h.pending_refers frame (List.mem_cons_of_mem _ hframe) other hother

/-- Passing over a searched child keeps the invariant. -/
theorem Valid.pass {marks : NameMap Mark} {name child : String} {pending : List String}
    {frames : List Frame} {starts : List String} (hmark : marks[child]? = some .done)
    (h : Valid table ⟨marks, ⟨name, child :: pending⟩ :: frames, starts⟩) :
    Valid table ⟨marks, ⟨name, pending⟩ :: frames, starts⟩ := by
  constructor
  case onPath_iff => exact h.onPath_iff
  case nodup => exact h.nodup
  case linked => exact h.linked
  case pending_refers => exact h.pending_tail_refers
  case looked => exact h.looked.tail (.inl hmark)
  case marked_mem => exact h.marked_mem
  case starts_mem => exact h.starts_mem
  case started => exact h.started
  case done_closed => exact h.done_closed
  case done_acyclic => exact h.done_acyclic

/-! ## Steps and runs -/

/-- Each step keeps the invariant. -/
theorem Valid.next {s t : Search} (h : Valid table s) (hnext : Next table s t) :
    Valid table t := by
  cases hnext with
  | @skip marks name starts hmark =>
    refine { h with starts_mem := ?_, started := ?_ }
    · intro other hother
      exact h.starts_mem other (List.mem_cons_of_mem _ hother)
    · intro other hother
      rcases h.started other hother with hs | hm
      · rcases List.mem_cons.mp hs with rfl | hs
        · exact .inr hmark
        · exact .inl hs
      · exact .inr hm
  | @start marks name starts hmark =>
    refine h.enter hmark (h.starts_mem name (by simp)) rfl rfl ?_ ?_ trivial ?_ ?_
    · exact .singleton name
    · simp
    · intro other hother
      exact h.starts_mem other (List.mem_cons_of_mem _ hother)
    · intro other hother
      rcases h.started other hother with hs | hm
      · rcases List.mem_cons.mp hs with he | hs
        · exact .inr (.inl he)
        · exact .inl hs
      · exact .inr (.inr hm)
  | leave => exact h.leave
  | pass hmark => exact h.pass hmark
  | @descend marks name child pending frames starts hmark =>
    have hedge : table.Refers name child :=
      h.pending_refers ⟨name, child :: pending⟩ (by simp) child (by simp)
    refine h.enter hmark hedge.child_mem rfl rfl ?_ h.pending_tail_refers ?_ h.starts_mem ?_
    · exact .cons_cons hedge h.linked
    · -- the child that is entered is now the name above the one it was pending for
      exact h.looked.tail (.inr rfl)
    · intro other hother
      rcases h.started other hother with hs | hm
      · exact .inl hs
      · exact .inr (.inr hm)

/-- The invariant holds in every state that the search of a table goes through. -/
theorem valid_of_reached {s : Search} (h : Reached table s) : Valid table s := by
  induction h with
  | refl => exact valid_initial table
  | tail _ hnext ih => exact ih.next hnext

end Rulebook.Cycle.Search
