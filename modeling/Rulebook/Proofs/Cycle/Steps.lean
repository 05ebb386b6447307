/-
  Rulebook.Proofs.Cycle.Steps

  The search for a cycle as a relation between its states.  `step_eq_next_iff`,
  `step_eq_cycle_iff` and `step_eq_finished_iff` say all that a step can do, and
  `run_ends` that each search goes through finitely many states to one in which
  a step ends it.  What holds of every reached state thereby holds of the result.
-/
import Mathlib.Logic.Relation
import Rulebook.Cycle

namespace Rulebook.Cycle.Search

variable [Plugins]

/-! ## What a step can do -/

/-- The steps that do not end a search. -/
inductive Next (table : SetTable) : Search → Search → Prop
  /-- A name that was entered before is not started from again. -/
  | skip {marks : NameMap Mark} {name : String} {starts : List String}
      (hmark : marks[name]? ≠ none) :
      Next table ⟨marks, [], name :: starts⟩ ⟨marks, [], starts⟩
  /-- Start from a name. -/
  | start {marks : NameMap Mark} {name : String} {starts : List String}
      (hmark : marks[name]? = none) :
      Next table ⟨marks, [], name :: starts⟩ (enter table name ⟨marks, [], starts⟩)
  /-- Leave a name whose children have all been looked at. -/
  | leave {marks : NameMap Mark} {name : String} {frames : List Frame} {starts : List String} :
      Next table ⟨marks, ⟨name, []⟩ :: frames, starts⟩
        ⟨marks.insert name .done, frames, starts⟩
  /-- Pass over a child that has been searched. -/
  | pass {marks : NameMap Mark} {name child : String} {pending : List String}
      {frames : List Frame} {starts : List String} (hmark : marks[child]? = some .done) :
      Next table ⟨marks, ⟨name, child :: pending⟩ :: frames, starts⟩
        ⟨marks, ⟨name, pending⟩ :: frames, starts⟩
  /-- Enter a child. -/
  | descend {marks : NameMap Mark} {name child : String} {pending : List String}
      {frames : List Frame} {starts : List String} (hmark : marks[child]? = none) :
      Next table ⟨marks, ⟨name, child :: pending⟩ :: frames, starts⟩
        (enter table child ⟨marks, ⟨name, pending⟩ :: frames, starts⟩)

theorem step_eq_next_iff {table : SetTable} {s t : Search} :
    s.step table = .next t ↔ Next table s t := by
  constructor
  · -- the cases are those of the step: what is on the path, then the mark that is met
    intro h
    obtain ⟨marks, frames, starts⟩ := s
    match frames, starts with
    | [], [] => simp [step] at h
    | [], name :: starts =>
      simp only [step] at h
      split at h
      · next hmark =>
        cases h
        exact .skip (by simp [hmark])
      · next hmark =>
        cases h
        exact .start hmark
    | ⟨name, []⟩ :: frames, starts =>
      simp only [step] at h
      cases h
      exact .leave
    | ⟨name, child :: pending⟩ :: frames, starts =>
      simp only [step] at h
      split at h
      · cases h
      · next hmark =>
        cases h
        exact .pass hmark
      · next hmark =>
        cases h
        exact .descend hmark
  · intro h
    cases h with
    | skip hmark =>
      obtain ⟨mark, hm⟩ := Option.ne_none_iff_exists'.mp hmark
      simp [step, hm]
    | start hmark => simp [step, hmark]
    | leave => simp [step]
    | pass hmark => simp [step, hmark]
    | descend hmark => simp [step, hmark]

/-- A step finds a cycle if the child that it looks at is on the path. -/
theorem step_eq_cycle_iff {table : SetTable} {s : Search} {names : List String} :
    s.step table = .cycle names ↔
      ∃ name child pending frames, s.frames = ⟨name, child :: pending⟩ :: frames ∧
        s.marks[child]? = some .onPath ∧
        names = s.closedBy child := by
  constructor
  · intro h
    obtain ⟨marks, frames, starts⟩ := s
    match frames, starts with
    | [], [] => simp [step] at h
    | [], name :: starts =>
      simp only [step] at h
      split at h <;> cases h
    | ⟨name, []⟩ :: frames, starts => simp [step] at h
    | ⟨name, child :: pending⟩ :: frames, starts =>
      simp only [step] at h
      split at h
      · next hmark =>
        cases h
        exact ⟨name, child, pending, frames, rfl, hmark, rfl⟩
      · cases h
      · cases h
  · rintro ⟨name, child, pending, frames, hframes, hmark, rfl⟩
    obtain ⟨marks, _, starts⟩ := s
    subst hframes
    simp [step, hmark]

theorem step_eq_finished_iff {table : SetTable} {s : Search} :
    s.step table = .finished ↔ s.frames = [] ∧ s.starts = [] := by
  obtain ⟨marks, frames, starts⟩ := s
  match frames, starts with
  | [], [] => simp [step]
  | [], name :: starts =>
    simp only [step]
    split <;> simp
  | ⟨name, []⟩ :: frames, starts => simp [step]
  | ⟨name, child :: pending⟩ :: frames, starts =>
    simp only [step]
    split <;> simp

/-! ## Runs -/

/-- A state that the search of a table goes through. -/
def Reached (table : SetTable) (s : Search) : Prop :=
  Relation.ReflTransGen (Next table) (initial table) s

/-- A state in which the next step ends the search with the given result. -/
def Ends (table : SetTable) (s : Search) (result : Option (List String)) : Prop :=
  (s.step table = .finished ∧ result = none) ∨
    ∃ names, s.step table = .cycle names ∧ result = some names

/-- No sequence of steps goes on forever. -/
theorem wellFounded_next (table : SetTable) :
    WellFounded fun t s : Search => Next table s t := by
  have hlex : WellFounded (Prod.Lex (· < ·) (· < ·) : Nat × Nat → Nat × Nat → Prop) :=
    (Prod.lex Nat.lt_wfRel Nat.lt_wfRel).wf
  refine Subrelation.wf ?_ (InvImage.wf (measure table) hlex)
  intro t s h
  exact lt_of_step (step_eq_next_iff.mpr h)

/-- From every state finitely many steps lead to one that ends the search, and the
    result there is the result of the run. -/
theorem run_ends (table : SetTable) (s : Search) :
    ∃ last, Relation.ReflTransGen (Next table) s last ∧ Ends table last (s.run table) := by
  -- the induction runs against the steps: what holds of all next states holds of this one
  induction s using (wellFounded_next table).induction with
  | _ s ih =>
    rw [run]
    split
    · next t ht =>
      have hnext := step_eq_next_iff.mp ht
      obtain ⟨last, hsteps, hends⟩ := ih t hnext
      exact ⟨last, .head hnext hsteps, hends⟩
    · next names hc => exact ⟨s, .refl, .inr ⟨names, hc, rfl⟩⟩
    · next hf => exact ⟨s, .refl, .inl ⟨hf, rfl⟩⟩

/-- The search of a table reaches a state that ends it with the result of the check. -/
theorem find?_ends (table : SetTable) :
    ∃ last, Reached table last ∧ Ends table last (find? table) :=
  run_ends table (initial table)

end Rulebook.Cycle.Search
