/-
  Rulebook.Cycle

  The search for a rule set that reaches itself through its children.  It goes
  depth first, from each name in increasing order, and keeps the path from the
  name that it started from; a child on this path closes a cycle.

  A step either ends the search or leaves less to do (`lt_of_step`), so the
  search ends on every table.
-/
import Rulebook.RuleSet

namespace Rulebook.Cycle

/-! ## The state of a search -/

/-- What is known of a name that the search has entered. -/
inductive Mark
  /-- The name is on the path. -/
  | onPath
  /-- All that the name reaches has been searched. -/
  | done
  deriving DecidableEq, Repr

/-- A name on the path, and those of its children that are still to be looked at. -/
structure Frame where
  name : String
  pending : List String
  deriving DecidableEq, Repr

/-- The state of a search. -/
structure Search where
  /-- The marks of the names that were entered. -/
  marks : NameMap Mark
  /-- The path, with the name entered last in front. -/
  frames : List Frame
  /-- The names that the search is still to start from. -/
  starts : List String

namespace Search

/-- The names on the path, from the one that the search started from. -/
def path (s : Search) : List String := (s.frames.map Frame.name).reverse

/-- The place of a name on the path. -/
def place? (s : Search) (name : String) : Option Nat := s.path.findIdx? (· == name)

/-- The cycle that a name closes: the path from the place of the name, or all of the path if
    the name is not on it, and then the name again. -/
def closedBy (s : Search) (name : String) : List String :=
  s.path.drop ((s.place? name).getD 0) ++ [name]

/-- Marking a name that had no mark leaves fewer names without one. -/
theorem countP_insert_lt (names : List String) (marks : NameMap Mark) {name : String}
    (mark : Mark) (hm : name ∈ names) (hn : marks[name]? = none) :
    (names.countP fun n => (marks.insert name mark)[n]?.isNone) <
      names.countP fun n => marks[n]?.isNone := by
  induction names with
  | nil => simp at hm
  | cons first rest ih =>
    have hle : (rest.countP fun n => (marks.insert name mark)[n]?.isNone) ≤
        rest.countP fun n => marks[n]?.isNone := by
      refine List.countP_mono_left fun other _ h => ?_
      simp only [NameMap.getElem?_insert_name] at h
      split at h
      · simp at h
      · exact h
    rw [List.countP_cons, List.countP_cons]
    by_cases he : name = first
    · subst he
      simp only [NameMap.getElem?_insert_name, hn, if_pos, Option.isNone_none,
        Option.isNone_some, Bool.false_eq_true, if_false] at hle ⊢
      omega
    · have := ih ((List.mem_cons.1 hm).resolve_left he)
      have hf : (marks.insert name mark)[first]? = marks[first]? := by
        rw [NameMap.getElem?_insert_name, if_neg he]
      rw [hf]
      omega

variable [Plugins]

/-- The search of a table before its first step. -/
def initial (table : SetTable) : Search := ⟨∅, [], table.keys⟩

/-- The state after entering a name. -/
def enter (table : SetTable) (name : String) (s : Search) : Search :=
  { s with marks := s.marks.insert name .onPath,
           frames := ⟨name, table.childrenOf name⟩ :: s.frames }

/-! ## Steps -/

/-- What a step comes to. -/
inductive Step
  | next (s : Search)
  /-- The names of a cycle, the first of them again at the end. -/
  | cycle (names : List String)
  | finished

/-- One step: leave a name whose children have all been looked at, look at the next
    child of the name entered last, or start from the next name. -/
def step (table : SetTable) (s : Search) : Step :=
  match s.frames with
  | [] =>
    match s.starts with
    | [] => .finished
    | name :: starts =>
      match s.marks[name]? with
      | some _ => .next { s with starts }
      | none => .next (enter table name { s with starts })
  | ⟨name, []⟩ :: frames => .next { s with marks := s.marks.insert name .done, frames }
  | ⟨name, child :: pending⟩ :: frames =>
    match s.marks[child]? with
    | some .onPath => .cycle (s.closedBy child)
    | some .done => .next { s with frames := ⟨name, pending⟩ :: frames }
    | none => .next (enter table child { s with frames := ⟨name, pending⟩ :: frames })

/-! ## Why the search ends -/

/-- The number of sets that have not been entered. -/
def unentered (table : SetTable) (s : Search) : Nat :=
  table.keys.countP fun name => s.marks[name]?.isNone

/-- The looks and steps back that are left for the names entered so far. -/
def work (s : Search) : Nat :=
  s.frames.foldr (fun f n => 2 * f.pending.length + 1 + n) (2 * s.starts.length)

theorem unentered_insert_le (table : SetTable) (s : Search) (name : String) (mark : Mark)
    (frames : List Frame) (starts : List String) :
    unentered table ⟨s.marks.insert name mark, frames, starts⟩ ≤ unentered table s := by
  refine List.countP_mono_left fun other _ h => ?_
  simp only [NameMap.getElem?_insert_name] at h
  split at h
  · simp at h
  · exact h

/-- The order in which states come closer to the end. -/
def measure (table : SetTable) (s : Search) : Nat × Nat := (s.unentered table, s.work)

theorem childrenOf_eq_nil {table : SetTable} {name : String} (h : name ∉ table.keys) :
    table.childrenOf name = [] := by
  have : table[name]? = none := by
    simpa using h
  simp [SetTable.childrenOf, this]

theorem enter_lt {table : SetTable} {name : String} {s t : Search}
    (hn : s.marks[name]? = none) (hmarks : t.marks = s.marks) (hwork : t.work + 2 ≤ s.work) :
    Prod.Lex (· < ·) (· < ·) (measure table (enter table name t)) (measure table s) := by
  by_cases hm : name ∈ table.keys
  · refine Prod.Lex.left _ _ ?_
    simpa [enter, unentered, hmarks] using countP_insert_lt table.keys s.marks .onPath hm hn
  · have hw : (enter table name t).work < s.work := by
      simp only [enter, work, childrenOf_eq_nil hm, List.foldr_cons, List.length_nil] at hwork ⊢
      omega
    have hu : (enter table name t).unentered table ≤ s.unentered table := by
      simpa [enter, hmarks] using unentered_insert_le table s name .onPath
        (⟨name, table.childrenOf name⟩ :: t.frames) t.starts
    rcases Nat.lt_or_eq_of_le hu with hlt | heq
    · exact Prod.Lex.left _ _ hlt
    · simp only [measure, heq]
      exact Prod.Lex.right _ hw

theorem lt_of_le_of_lt {table : SetTable} {s t : Search}
    (hu : t.unentered table ≤ s.unentered table) (hw : t.work < s.work) :
    Prod.Lex (· < ·) (· < ·) (measure table t) (measure table s) := by
  rcases Nat.lt_or_eq_of_le hu with hlt | heq
  · exact Prod.Lex.left _ _ hlt
  · simp only [measure, heq]
    exact Prod.Lex.right _ hw

/-- After each step there is less to do. -/
theorem lt_of_step {table : SetTable} {s t : Search} (h : s.step table = .next t) :
    Prod.Lex (· < ·) (· < ·) (measure table t) (measure table s) := by
  obtain ⟨marks, frames, starts⟩ := s
  unfold step at h
  split at h
  · next hf =>
    simp only at hf
    subst hf
    split at h
    · cases h
    · next name rest hs =>
      simp only at hs
      subst hs
      split at h
      · cases h
        exact lt_of_le_of_lt (Nat.le_refl _) (by simp [work])
      · next hn =>
        cases h
        exact enter_lt hn rfl (by simp [work]; omega)
  · next name frames' hf =>
    simp only at hf
    subst hf
    cases h
    refine lt_of_le_of_lt ?_ (by simp [work])
    exact unentered_insert_le table ⟨marks, _, starts⟩ name .done frames' starts
  · next name child pending frames' hf =>
    simp only at hf
    subst hf
    split at h
    · cases h
    · cases h
      exact lt_of_le_of_lt (Nat.le_refl _) (by simp [work])
    · next hn =>
      cases h
      exact enter_lt hn rfl (by simp [work]; omega)

/-- Carry a search to its end.  The result is the first cycle, if there is one. -/
def run (table : SetTable) (s : Search) : Option (List String) :=
  match _h : s.step table with
  | .next t => run table t
  | .cycle names => some names
  | .finished => none
termination_by measure table s
decreasing_by exact lt_of_step _h

end Search

/-! ## The check of a table -/

/-- The first cycle among the sets of a table, its first name again at the end. -/
def find? [Plugins] (table : SetTable) : Option (List String) := (Search.initial table).run table

/-- The text of the error for a cycle. -/
def message (names : List String) : String :=
  "cyclic rule set reference detected: " ++ " -> ".intercalate names

end Rulebook.Cycle
