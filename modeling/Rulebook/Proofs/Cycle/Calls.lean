/-
  Rulebook.Proofs.Cycle.Calls

  The search for a cycle as a recursion.  A step that enters a name begins the search of
  all that the name leads to; it is over when the path is again as long as it was
  (`Returns`).  In between no name below on the path is touched (`Walk.frames_eq`), and the
  names that got a mark are those that were entered (`Walk.unmarked_iff`).  With what holds
  in every state of a search this says what the marks are when the name has been left.
-/
import Mathlib.Data.List.Nodup
import Rulebook.Proofs.Cycle.Acyclic

namespace Rulebook.Cycle.Search

variable {s t u : Search} {names : List String} {depth : Nat}

/-! ## The names that are entered -/

/-- The name that the next step looks at. -/
def looksAt? (s : Search) : Option String :=
  match s.frames with
  | [] => s.starts.head?
  | frame :: _ => frame.pending.head?

/-- The name that the next step enters: the one that it looks at, if this was not entered
    before. -/
def enters? (s : Search) : Option String :=
  s.looksAt?.filter fun name => s.marks[name]?.isNone

theorem enters?_eq_some_iff {name : String} :
    s.enters? = some name ↔ s.looksAt? = some name ∧ s.marks[name]? = none := by
  rw [enters?, Option.filter_eq_some_iff, Option.isNone_iff_eq_none]

variable [Plugins] {table : SetTable}

/-- Steps of a search, and the names that they enter, in order.  In front of each step
    there are at least so many names on the path. -/
inductive Walk (table : SetTable) (depth : Nat) : Search → List String → Search → Prop
  | refl (s : Search) : Walk table depth s [] s
  | head {s t u : Search} {names : List String} (hdepth : depth ≤ s.frames.length)
      (hnext : Next table s t) (hwalk : Walk table depth t names u) :
      Walk table depth s (s.enters?.toList ++ names) u

/-- The search of all that a name leads to, from the step that enters the name to the one
    that leaves it, with the names that it enters. -/
def Returns (table : SetTable) (s : Search) (names : List String) (u : Search) : Prop :=
  ∃ t later, Next table s t ∧ Walk table (s.frames.length + 1) t later u ∧
    u.frames.length = s.frames.length ∧ names = s.enters?.toList ++ later

/-! ## One step -/

/-- What has been searched stays so. -/
theorem Next.done {name : String} (h : Next table s t) (hdone : s.marks[name]? = some .done) :
    t.marks[name]? = some .done := by
  cases h with
  | skip | pass => exact hdone
  | start hmark | descend hmark => exact (done_insert_onPath_iff hmark).mpr hdone
  | leave => exact done_insert_done_iff.mpr (.inr hdone)

/-- A step gives a first mark to the name that it enters, and to no other. -/
theorem Next.unmarked_iff (h : Next table s t) (hvalid : Valid table s) (name : String) :
    t.marks[name]? = none ↔ s.marks[name]? = none ∧ name ∉ s.enters? := by
  rw [Option.mem_def, enters?_eq_some_iff]
  cases h with
  | skip hmark => grind [looksAt?]
  | pass hmark => grind [looksAt?]
  | start hmark =>
    simp only [enter, NameMap.getElem?_insert_name, looksAt?]
    grind
  | descend hmark =>
    simp only [enter, NameMap.getElem?_insert_name, looksAt?]
    grind
  | @leave marks left frames starts =>
    -- the name that is left has had a mark, as it lay on the path
    have hpath : marks[left]? = some .onPath := (hvalid.onPath_iff left).mpr (by simp)
    simp only [NameMap.getElem?_insert_name, looksAt?]
    grind

/-- While there are names on the path, a step leaves all but the first of them as they are. -/
theorem Next.frames_eq {frame : Frame} {below : List Frame} (h : Next table s t)
    (hframes : s.frames = frame :: below) : ∃ above, t.frames = above ++ below := by
  cases h with
  | skip | start => cases hframes
  | leave =>
    cases hframes
    exact ⟨[], rfl⟩
  | @pass _ name _ pending =>
    cases hframes
    exact ⟨[⟨name, pending⟩], rfl⟩
  | @descend _ name child pending =>
    cases hframes
    exact ⟨[⟨child, table.childrenOf child⟩, ⟨name, pending⟩], rfl⟩

theorem exists_next (table : SetTable) {name : String} (henters : s.enters? = some name) :
    ∃ t, Next table s t := by
  obtain ⟨hlook, hunmarked⟩ := enters?_eq_some_iff.mp henters
  obtain ⟨marks, frames, starts⟩ := s
  match frames, starts with
  | [], [] => cases hlook
  | [], first :: starts =>
    cases hlook
    exact ⟨_, .start hunmarked⟩
  | ⟨parent, []⟩ :: frames, starts => cases hlook
  | ⟨parent, child :: pending⟩ :: frames, starts =>
    cases hlook
    exact ⟨_, .descend hunmarked⟩

/-- A name that is entered comes on the path above those that were there. -/
theorem Next.frames_of_enters {name : String} (h : Next table s t)
    (henters : s.enters? = some name) :
    ∃ base, t.frames = ⟨name, table.childrenOf name⟩ :: base ∧
      base.map Frame.name = s.frames.map Frame.name := by
  obtain ⟨hlook, hunmarked⟩ := enters?_eq_some_iff.mp henters
  cases h with
  | skip hmark =>
    cases hlook
    exact absurd hunmarked hmark
  | start =>
    cases hlook
    exact ⟨[], rfl, rfl⟩
  | leave => cases hlook
  | pass hmark =>
    cases hlook
    rw [hmark] at hunmarked
    cases hunmarked
  | @descend _ parent _ pending frames =>
    cases hlook
    exact ⟨⟨parent, pending⟩ :: frames, rfl, rfl⟩

/-! ## Many steps -/

theorem Walk.mono {depth' : Nat} (hle : depth' ≤ depth) (h : Walk table depth s names u) :
    Walk table depth' s names u := by
  induction h with
  | refl s => exact .refl s
  | head hdepth hnext _ ih => exact .head (Nat.le_trans hle hdepth) hnext ih

theorem Walk.reached (h : Walk table depth s names u) (hs : Reached table s) :
    Reached table u := by
  induction h with
  | refl => exact hs
  | head _ hnext _ ih => exact ih (hs.tail hnext)

theorem exists_walk_of_reflTransGen (h : Relation.ReflTransGen (Next table) s u) :
    ∃ names, Walk table 0 s names u := by
  induction h using Relation.ReflTransGen.head_induction_on with
  | refl => exact ⟨[], .refl u⟩
  | head hnext _ ih =>
    obtain ⟨names, hwalk⟩ := ih
    exact ⟨_, .head (Nat.zero_le _) hnext hwalk⟩

/-- A state from which the search ends with a cycle makes this the result of the check. -/
theorem find?_of_step_cycle {cycle : List String} (hs : Reached table s)
    (hstep : s.step table = .cycle cycle) : find? table = some cycle := by
  have hrun : ∀ t, Relation.ReflTransGen (Next table) t s → t.run table = some cycle := by
    intro t h
    induction h using Relation.ReflTransGen.head_induction_on with
    | refl =>
      rw [run]
      split <;> simp_all
    | head hnext _ ih =>
      rw [run]
      split <;> simp_all [step_eq_next_iff.mpr hnext]
  exact hrun (initial table) hs

theorem Walk.done {name : String} (h : Walk table depth s names u)
    (hdone : s.marks[name]? = some .done) : u.marks[name]? = some .done := by
  induction h with
  | refl => exact hdone
  | head _ hnext _ ih => exact ih (hnext.done hdone)

/-- The names that got a first mark are those that were entered. -/
theorem Walk.unmarked_iff (h : Walk table depth s names u) (hvalid : Valid table s)
    (name : String) : u.marks[name]? = none ↔ s.marks[name]? = none ∧ name ∉ names := by
  induction h with
  | refl => simp
  | head _ hnext _ ih =>
    rw [ih (hvalid.next hnext), hnext.unmarked_iff hvalid, List.mem_append, Option.mem_toList,
      Option.mem_def, not_or, and_assoc]

/-- Each name is entered at most once, and not if it was entered before. -/
theorem Walk.nodup (h : Walk table depth s names u) (hvalid : Valid table s) :
    names.Nodup ∧ ∀ name ∈ names, s.marks[name]? = none := by
  induction h with
  | refl => simp
  | @head s t u names _ hnext hwalk ih =>
    obtain ⟨hnodup, hunmarked⟩ := ih (hvalid.next hnext)
    have hlater : ∀ name ∈ names, s.marks[name]? = none ∧ name ∉ s.enters? := fun name hname =>
      (hnext.unmarked_iff hvalid name).mp (hunmarked name hname)
    cases henters : s.enters? with
    | none =>
      exact ⟨hnodup, fun name hname => (hlater name hname).1⟩
    | some first =>
      -- a name that is entered later had no mark after this step, so it is another one
      rw [henters] at hlater
      have hfirst : first ∉ names := fun hmem => (hlater first hmem).2 rfl
      refine ⟨List.nodup_cons.mpr ⟨hfirst, hnodup⟩, fun name hname => ?_⟩
      rcases List.mem_cons.mp hname with rfl | hname
      · exact (enters?_eq_some_iff.mp henters).2
      · exact (hlater name hname).1

/-- Names on the path below those that the steps go down to stay as they are. -/
theorem Walk.frames_eq {above base : List Frame} (h : Walk table (base.length + 1) s names u)
    (hframes : s.frames = above ++ base) : ∃ above, u.frames = above ++ base := by
  induction h generalizing above with
  | refl => exact ⟨above, hframes⟩
  | @head s t u names hdepth hnext _ ih =>
    cases above with
    | nil =>
      -- the walk has ended where only the path below is left
      rw [hframes, List.nil_append] at hdepth
      omega
    | cons frame above =>
      rw [List.cons_append] at hframes
      obtain ⟨top, htop⟩ := hnext.frames_eq hframes
      exact ih (htop.trans (List.append_assoc top above base).symm)

/-- From every state steps lead below a depth, or to a cycle. -/
theorem exists_walk (table : SetTable) (hdepth : 0 < depth) (s : Search)
    (hs : depth ≤ s.frames.length) :
    ∃ names u, Walk table depth s names u ∧
      (u.frames.length < depth ∨ ∃ cycle, u.step table = .cycle cycle) := by
  -- the induction runs against the steps, as that for the whole run does
  induction s using (wellFounded_next table).induction with
  | _ s ih =>
    cases hstep : s.step table with
    | next t =>
      have hnext : Next table s t := step_eq_next_iff.mp hstep
      by_cases ht : depth ≤ t.frames.length
      · obtain ⟨names, u, hwalk, hend⟩ := ih t hnext ht
        exact ⟨_, u, .head hs hnext hwalk, hend⟩
      · exact ⟨_, t, .head hs hnext (.refl t), .inl (by omega)⟩
    | cycle cycle => exact ⟨[], s, .refl s, .inr ⟨cycle, hstep⟩⟩
    | finished =>
      rw [(step_eq_finished_iff.mp hstep).1, List.length_nil] at hs
      omega

/-! ## Searching all that a name leads to -/

/-- While it searches what a name leads to, the search keeps the path that was there before. -/
theorem Next.frames_of_walk {name : String} (hnext : Next table s t)
    (henters : s.enters? = some name) (hwalk : Walk table (s.frames.length + 1) t names u) :
    s.frames.length < t.frames.length ∧ ∃ above base, u.frames = above ++ base ∧
      base.map Frame.name = s.frames.map Frame.name ∧ base.length = s.frames.length := by
  obtain ⟨base, hframes, hbase⟩ := hnext.frames_of_enters henters
  have hlength : base.length = s.frames.length := by
    simpa using congrArg List.length hbase
  have hentered : t.frames = [⟨name, table.childrenOf name⟩] ++ base := hframes
  rw [← hlength] at hwalk ⊢
  obtain ⟨above, habove⟩ := hwalk.frames_eq hentered
  refine ⟨?_, above, base, habove, hbase, rfl⟩
  rw [hframes, List.length_cons]
  omega

/-- A name that is entered is left some time, or the check of the table reports a cycle. -/
theorem exists_returns (hs : Reached table s) {name : String} (henters : s.enters? = some name) :
    (∃ names u, Returns table s names u) ∨
      ∃ names u cycle, Walk table s.frames.length s names u ∧ u.step table = .cycle cycle ∧
        find? table = some cycle := by
  obtain ⟨t, hnext⟩ := exists_next table henters
  have ht : s.frames.length < t.frames.length := (hnext.frames_of_walk henters (.refl t)).1
  obtain ⟨names, u, hwalk, hend⟩ := exists_walk table (Nat.succ_pos s.frames.length) t ht
  rcases hend with hshort | ⟨cycle, hcycle⟩
  · -- what lay on the path before is still there
    obtain ⟨-, above, base, habove, -, hlength⟩ := hnext.frames_of_walk henters hwalk
    have hlong : s.frames.length ≤ u.frames.length := by
      rw [habove, List.length_append, hlength]
      omega
    exact .inl ⟨_, u, t, names, hnext, hwalk, by omega, rfl⟩
  · have hall : Walk table s.frames.length s (s.enters?.toList ++ names) u :=
      .head (Nat.le_refl _) hnext (hwalk.mono (Nat.le_succ _))
    exact .inr ⟨_, u, cycle, hall, hcycle, find?_of_step_cycle (hall.reached hs) hcycle⟩

/-- When all that a name leads to has been searched, the path is again as it was, the names
    that were entered are searched, and all other marks are as they were. -/
theorem Returns.spec (h : Returns table s names u) (hs : Reached table s) {name : String}
    (henters : s.enters? = some name) :
    u.path = s.path ∧ name ∈ names ∧ (∀ other ∈ names, s.marks[other]? = none) ∧
      ∀ other : String,
        u.marks[other]? = if other ∈ names then some .done else s.marks[other]? := by
  obtain ⟨t, later, hnext, hwalk, hlength, rfl⟩ := h
  have hvalid : Valid table s := valid_of_reached hs
  have hvalid' : Valid table u := valid_of_reached (hwalk.reached (hs.tail hnext))
  have hsame : u.frames.map Frame.name = s.frames.map Frame.name := by
    obtain ⟨-, above, base, habove, hbase, hbelow⟩ := hnext.frames_of_walk henters hwalk
    -- the path is no longer than it was, so nothing lies above
    have hnone : above = [] := by
      have htotal := congrArg List.length habove
      rw [List.length_append] at htotal
      exact List.eq_nil_of_length_eq_zero (by omega)
    rw [habove, hnone, List.nil_append, hbase]
  have honPath : ∀ other : String,
      u.marks[other]? = some Mark.onPath ↔ s.marks[other]? = some .onPath := by
    intro other
    rw [hvalid'.onPath_iff, hsame, hvalid.onPath_iff]
  have hall : Walk table 0 s (s.enters?.toList ++ later) u :=
    .head (Nat.zero_le _) hnext (hwalk.mono (Nat.zero_le _))
  obtain ⟨-, hnew⟩ := hall.nodup hvalid
  refine ⟨by rw [path, hsame, path], by simp [henters], hnew, fun other => ?_⟩
  have hunmarked := hall.unmarked_iff hvalid other
  split
  · next hother =>
    -- it got a mark, and is not on the path again
    have hbefore := hnew other hother
    cases hmark : u.marks[other]? with
    | none => exact absurd hother (hunmarked.mp hmark).2
    | some mark =>
      cases mark with
      | done => rfl
      | onPath =>
        rw [(honPath other).mp hmark] at hbefore
        cases hbefore
  · next hother =>
    cases hmark : s.marks[other]? with
    | none => exact hunmarked.mpr ⟨hmark, hother⟩
    | some mark =>
      cases mark with
      | done => exact hall.done hmark
      | onPath => exact (honPath other).mpr hmark

/-- A name on the path that the search looks at again has a place there, and the cycle that is
    reported goes from this place to the end of the path. -/
theorem Valid.exists_place (h : Valid table s) {child : String}
    (hlook : s.looksAt? = some child) (hmark : s.marks[child]? = some .onPath) :
    ∃ place, s.place? child = some place ∧ s.path[place]? = some child ∧
      s.step table = .cycle (s.path.drop place ++ [child]) := by
  have hmem : child ∈ s.path := by
    have hframe := (h.onPath_iff child).mp hmark
    simpa [path] using hframe
  obtain ⟨below, above, hsplit, hbelow⟩ := List.eq_append_cons_of_mem hmem
  have hplace : s.place? child = some below.length := place?_of_split hsplit hbelow
  have hclosed : s.closedBy child = s.path.drop below.length ++ [child] := by
    rw [closedBy, hplace, Option.getD_some]
  refine ⟨below.length, hplace, by simp [hsplit], step_eq_cycle_iff.mpr ?_⟩
  rw [← hclosed]
  cases hframes : s.frames with
  | nil => simp [path, hframes] at hmem
  | cons frame frames =>
    obtain ⟨name, pending⟩ := frame
    cases pending with
    | nil => simp [looksAt?, hframes] at hlook
    | cons first pending =>
      obtain rfl : first = child := by simpa [looksAt?, hframes] using hlook
      exact ⟨name, first, pending, frames, rfl, hmark, rfl⟩

/-- Every state of a search has the marks that the path and the names searched so far make up,
    and the search of what a name leads to gives the mark of a searched name to just the names
    that it enters.  So a name that is come to again is always found on the path, and no name
    is entered that has no set, or entered twice. -/
theorem search_invariant (table : SetTable) :
    (∀ s, Reached table s →
      (∀ name, s.marks[name]? = some .onPath ↔ name ∈ s.path) ∧
      s.path.Nodup ∧
      s.path.IsChain table.Refers ∧
      (∀ name child, s.marks[name]? = some .done → table.Refers name child →
        s.marks[child]? = some .done) ∧
      (∀ name, s.marks[name]? ≠ none → name ∈ table) ∧
      (∀ child, s.looksAt? = some child → s.marks[child]? = some .onPath →
        ∃ place, s.place? child = some place ∧ s.path[place]? = some child ∧
          s.step table = .cycle (s.path.drop place ++ [child])) ∧
      ∀ name, s.enters? = some name →
        ((∃ names u, Returns table s names u) ∨
          ∃ names u cycle, Walk table s.frames.length s names u ∧
            u.step table = .cycle cycle ∧ find? table = some cycle) ∧
        ∀ names u, Returns table s names u →
          Reached table u ∧ u.path = s.path ∧ name ∈ names ∧
            (∀ other ∈ names, s.marks[other]? = none) ∧
            ∀ other : String,
              u.marks[other]? = if other ∈ names then some .done else s.marks[other]?) ∧
    (∀ s, Reached table s ↔ ∃ names, Walk table 0 (initial table) names s) ∧
    ∀ names s, Walk table 0 (initial table) names s →
      names.Nodup ∧ ∀ name, name ∈ names ↔ s.marks[name]? ≠ none := by
  refine ⟨fun s hs => ?_, fun s => ⟨fun hs => ?_, ?_⟩, fun names s hwalk => ?_⟩
  · have hvalid : Valid table s := valid_of_reached hs
    refine ⟨fun name => ?_, ?_, hvalid.isChain_path, hvalid.done_closed, hvalid.marked_mem,
      fun child => hvalid.exists_place, fun name henters => ⟨?_, fun names u hreturns => ?_⟩⟩
    · rw [hvalid.onPath_iff, path, List.mem_reverse]
    · rw [path, List.nodup_reverse]
      exact hvalid.nodup
    · exact exists_returns hs henters
    · have hu : Reached table u := by
        obtain ⟨t, later, hnext, hwalk, -, -⟩ := hreturns
        exact hwalk.reached (hs.tail hnext)
      exact ⟨hu, hreturns.spec hs henters⟩
  · exact exists_walk_of_reflTransGen hs
  · rintro ⟨names, hwalk⟩
    exact hwalk.reached .refl
  · have hunmarked := hwalk.unmarked_iff (valid_initial table)
    refine ⟨(hwalk.nodup (valid_initial table)).1, fun name => ?_⟩
    rw [ne_eq, hunmarked]
    simp [initial]

/-- The search of `a` enters `b` and returns; that of `c` comes to `d`, which is its own child. -/
theorem search_invariant_four :
    let table : SetTable := NameMap.ofEntries
      [("a", ⟨[], ["b", "none"]⟩), ("b", ⟨[], []⟩), ("c", ⟨[], ["b", "d"]⟩), ("d", ⟨[], ["d"]⟩)]
    ∃ u s, Returns table (initial table) ["a", "b"] u ∧ u.path = [] ∧
      (∀ name : String, u.marks[name]? = if name ∈ ["a", "b"] then some .done else none) ∧
      Reached table s ∧ s.path = ["c", "d"] ∧ s.place? "d" = some 1 ∧
      s.step table = .cycle ["d", "d"] := by
  intro table
  let onA : NameMap Mark := Std.ExtTreeMap.insert ∅ "a" .onPath
  let onB := onA.insert "b" .onPath
  let doneB := onB.insert "b" .done
  let doneA := doneB.insert "a" .done
  let onC := doneA.insert "c" .onPath
  let onD := onC.insert "d" .onPath
  -- the search of `a`
  have h₁ : Next table (initial table) ⟨onA, [⟨"a", ["b"]⟩], ["b", "c", "d"]⟩ :=
    step_eq_next_iff.mp rfl
  have h₂ : Next table ⟨onA, [⟨"a", ["b"]⟩], ["b", "c", "d"]⟩
      ⟨onB, [⟨"b", []⟩, ⟨"a", []⟩], ["b", "c", "d"]⟩ := step_eq_next_iff.mp rfl
  have h₃ : Next table ⟨onB, [⟨"b", []⟩, ⟨"a", []⟩], ["b", "c", "d"]⟩
      ⟨doneB, [⟨"a", []⟩], ["b", "c", "d"]⟩ := step_eq_next_iff.mp rfl
  have h₄ : Next table ⟨doneB, [⟨"a", []⟩], ["b", "c", "d"]⟩ ⟨doneA, [], ["b", "c", "d"]⟩ :=
    step_eq_next_iff.mp rfl
  have hwalk := Walk.head (Nat.le_refl 1) h₂
    (.head (Nat.le_succ 1) h₃ (.head (Nat.le_refl 1) h₄ (.refl _)))
  have hreturns : Returns table (initial table) ["a", "b"] ⟨doneA, [], ["b", "c", "d"]⟩ :=
    ⟨_, ["b"], h₁, hwalk, rfl, rfl⟩
  -- from there to the second look at `d`
  have h₅ : Next table ⟨doneA, [], ["b", "c", "d"]⟩ ⟨doneA, [], ["c", "d"]⟩ :=
    step_eq_next_iff.mp rfl
  have h₆ : Next table ⟨doneA, [], ["c", "d"]⟩ ⟨onC, [⟨"c", ["b", "d"]⟩], ["d"]⟩ :=
    step_eq_next_iff.mp rfl
  have h₇ : Next table ⟨onC, [⟨"c", ["b", "d"]⟩], ["d"]⟩ ⟨onC, [⟨"c", ["d"]⟩], ["d"]⟩ :=
    step_eq_next_iff.mp rfl
  have h₈ : Next table ⟨onC, [⟨"c", ["d"]⟩], ["d"]⟩
      ⟨onD, [⟨"d", ["d"]⟩, ⟨"c", []⟩], ["d"]⟩ := step_eq_next_iff.mp rfl
  obtain ⟨-, hsearch⟩ := ((search_invariant table).1 _ .refl).2.2.2.2.2.2 "a" rfl
  obtain ⟨hreached, hpath, -, -, hmarks⟩ := hsearch _ _ hreturns
  have hsecond := (((hreached.tail h₅).tail h₆).tail h₇).tail h₈
  obtain ⟨place, hplace, -, hstep⟩ :=
    ((search_invariant table).1 _ hsecond).2.2.2.2.2.1 "d" rfl rfl
  obtain rfl : 1 = place := Option.some.inj hplace
  exact ⟨_, _, hreturns, hpath, hmarks, hsecond, rfl, hplace, hstep⟩

end Rulebook.Cycle.Search
