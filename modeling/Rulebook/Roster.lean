/-
  Rulebook.Roster

  Named entries in the order in which the names were first used.  Changing the
  entry of a name keeps its place; a new name goes to the end.
-/

namespace Rulebook

/-- Entries under distinct names, in the order in which the names were first used. -/
structure Roster (α : Type) where
  entries : List (String × α)
  nodup : (entries.map Prod.fst).Nodup
  deriving DecidableEq

namespace Roster

variable {α : Type}

/-! ## Entries as a plain list -/

/-- The value of a name in a list of entries. -/
def lookupIn (entries : List (String × α)) (name : String) : Option α :=
  (entries.find? (·.1 == name)).map Prod.snd

/-- Give a name the value that `change` makes of the one it has, if any. -/
def changeIn (name : String) (change : Option α → α) :
    List (String × α) → List (String × α)
  | [] => [(name, change none)]
  | (other, value) :: rest =>
    if other = name then (other, change (some value)) :: rest
    else (other, value) :: changeIn name change rest

theorem map_fst_changeIn (name : String) (change : Option α → α) (entries : List (String × α)) :
    (changeIn name change entries).map Prod.fst =
      if name ∈ entries.map Prod.fst then entries.map Prod.fst
      else entries.map Prod.fst ++ [name] := by
  induction entries with
  | nil => simp [changeIn]
  | cons entry rest ih =>
    obtain ⟨other, value⟩ := entry
    by_cases h : other = name
    · simp [changeIn, h]
    · have h' : ¬ name = other := fun e => h e.symm
      by_cases hm : name ∈ rest.map Prod.fst
      · simp only [List.map_cons, changeIn, h, if_false, ih, hm, if_true, List.mem_cons, h',
          false_or]
      · simp only [List.map_cons, changeIn, h, if_false, ih, hm, List.mem_cons, h',
          or_self, List.cons_append]

theorem nodup_changeIn (name : String) (change : Option α → α) {entries : List (String × α)}
    (h : (entries.map Prod.fst).Nodup) :
    ((changeIn name change entries).map Prod.fst).Nodup := by
  rw [map_fst_changeIn]
  split
  · exact h
  · next hm =>
    rw [List.nodup_append]
    refine ⟨h, by simp, ?_⟩
    intro a ha b hb
    simp only [List.mem_singleton] at hb
    subst hb
    exact fun e => hm (e ▸ ha)

/-! ## Operations -/

/-- No entries. -/
def empty : Roster α := ⟨[], by simp⟩

instance : EmptyCollection (Roster α) := ⟨empty⟩
instance : Inhabited (Roster α) := ⟨empty⟩

/-- The names, in the order of their first use. -/
def names (roster : Roster α) : List String := roster.entries.map Prod.fst

/-- The number of names. -/
def size (roster : Roster α) : Nat := roster.entries.length

/-- The value of a name. -/
def get? (roster : Roster α) (name : String) : Option α := lookupIn roster.entries name

/-- Give a name the value that `change` makes of the one it has, if any. -/
def change (roster : Roster α) (name : String) (f : Option α → α) : Roster α :=
  ⟨changeIn name f roster.entries, nodup_changeIn name f roster.nodup⟩

/-- Give a name a value; the last one given counts. -/
def set (roster : Roster α) (name : String) (value : α) : Roster α :=
  roster.change name fun _ => value

/-- The names after a change: a new one goes to the end. -/
theorem names_change (roster : Roster α) (name : String) (f : Option α → α) :
    (roster.change name f).names =
      if name ∈ roster.names then roster.names else roster.names ++ [name] :=
  map_fst_changeIn name f roster.entries

/-- Two rosters with the same entries are equal. -/
@[ext] theorem ext {a b : Roster α} (h : a.entries = b.entries) : a = b := by
  cases a; cases b; simp_all

end Roster

end Rulebook
