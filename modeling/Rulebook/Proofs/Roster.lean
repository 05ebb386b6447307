/-
  Rulebook.Proofs.Roster

  The entries of a roster after a change: a new name goes to the end, and all
  other entries stay as they are.  After many changes the names stand in the order
  of their first use (`names_foldl_change`), and a name that was set has the last
  value that it was given (`get?_foldl_set`).
-/
import Rulebook.Roster

namespace Rulebook.Roster

variable {α : Type}

@[simp] theorem entries_empty : (∅ : Roster α).entries = [] := rfl

@[simp] theorem names_empty : (∅ : Roster α).names = [] := rfl

theorem changeIn_of_not_mem {name : String} {entries : List (String × α)}
    (h : name ∉ entries.map Prod.fst) (change : Option α → α) :
    changeIn name change entries = entries ++ [(name, change none)] := by
  induction entries with
  | nil => rfl
  | cons entry entries ih =>
    obtain ⟨other, value⟩ := entry
    rw [List.map_cons, List.mem_cons, not_or] at h
    have hne : ¬ other = name := fun he => h.1 he.symm
    rw [changeIn, if_neg hne, ih h.2, List.cons_append]

theorem entries_set_of_not_mem {roster : Roster α} {name : String} (h : name ∉ roster.names)
    (value : α) : (roster.set name value).entries = roster.entries ++ [(name, value)] :=
  changeIn_of_not_mem h fun _ => value

theorem lookupIn_changeIn (name other : String) (change : Option α → α)
    (entries : List (String × α)) :
    lookupIn (changeIn name change entries) other =
      if name = other then some (change (lookupIn entries name)) else lookupIn entries other := by
  induction entries with
  | nil =>
    by_cases h : name = other
    · simp [changeIn, lookupIn, h]
    · simp [changeIn, lookupIn, h]
  | cons entry entries ih =>
    obtain ⟨key, value⟩ := entry
    simp only [lookupIn] at ih ⊢
    by_cases hkey : key = name
    · subst hkey
      by_cases h : key = other
      · simp [changeIn, h]
      · simp [changeIn, h]
    · rw [changeIn, if_neg hkey]
      by_cases hother : key = other
      · have h : ¬ name = other := fun he => hkey (hother.trans he.symm)
        simp [hother, h]
      · simp [hkey, hother, ih]

/-- Only the value of the name that is changed is another one. -/
theorem get?_change (roster : Roster α) (name other : String) (change : Option α → α) :
    (roster.change name change).get? other =
      if name = other then some (change (roster.get? name)) else roster.get? other :=
  lookupIn_changeIn name other change roster.entries

/-- A value that a name has is the value of an entry. -/
theorem mem_of_get?_eq_some {roster : Roster α} {name : String} {value : α}
    (h : roster.get? name = some value) : (name, value) ∈ roster.entries := by
  obtain ⟨entry, hentry, rfl⟩ := Option.map_eq_some_iff.mp h
  have hname : entry.1 = name := by simpa using List.find?_some hentry
  rw [← hname]
  exact List.mem_of_find?_eq_some hentry

/-- The value of an entry is the one that its name has. -/
theorem get?_of_mem {roster : Roster α} {name : String} {value : α}
    (h : (name, value) ∈ roster.entries) : roster.get? name = some value := by
  obtain ⟨entries, hnodup⟩ := roster
  show lookupIn entries name = some value
  induction entries with
  | nil => cases h
  | cons entry entries ih =>
    rw [List.map_cons, List.nodup_cons] at hnodup
    rcases List.mem_cons.mp h with rfl | h
    · simp [lookupIn]
    · -- the name does not stand in front of its entry
      have hne : ¬ entry.1 = name := fun he => hnodup.1 (he ▸ List.mem_map_of_mem h)
      have hrest := ih hnodup.2 h
      simpa [lookupIn, hne] using hrest

/-- Changes in order leave the names in the order of their first use: those that were there,
    and then each new one once. -/
theorem names_foldl_change {β : Type} (nameOf : β → String) (change : β → Option α → α)
    (roster : Roster α) (items : List β) :
    (items.foldl (fun roster item => roster.change (nameOf item) (change item)) roster).names =
      roster.names ++ ((items.map nameOf).filter (· ∉ roster.names)).eraseDups := by
  induction items generalizing roster with
  | nil => simp
  | cons item items ih =>
    rw [List.foldl_cons, ih, names_change, List.map_cons]
    by_cases hmem : nameOf item ∈ roster.names
    · rw [if_pos hmem, List.filter_cons_of_neg (by simpa using hmem)]
    · -- the new name goes to the end, and is not added again further on
      rw [if_neg hmem, List.filter_cons_of_pos (by simpa using hmem), List.eraseDups_cons,
        List.filter_filter, List.append_assoc, List.singleton_append]
      congr 3
      apply List.filter_congr
      intro name _
      by_cases hname : name = nameOf item <;> simp [hname]

/-- From an empty roster, each name is there once. -/
theorem names_foldl_change_empty {β : Type} (nameOf : β → String) (change : β → Option α → α)
    (items : List β) :
    (items.foldl (fun roster item => roster.change (nameOf item) (change item))
      (∅ : Roster α)).names = (items.map nameOf).eraseDups := by
  rw [names_foldl_change, names_empty, List.nil_append, List.filter_eq_self.mpr (by simp)]

/-- After many values were set, a name has the last one that it was given, and one that was given
    none has what it had. -/
theorem get?_foldl_set {β : Type} (nameOf : β → String) (valueOf : β → α) (roster : Roster α)
    (items : List β) (name : String) :
    (items.foldl (fun roster item => roster.set (nameOf item) (valueOf item)) roster).get? name =
      ((items.filter (nameOf · == name)).getLast?.map valueOf).or (roster.get? name) := by
  induction items generalizing roster with
  | nil => rfl
  | cons item items ih =>
    rw [List.foldl_cons, ih, set, get?_change]
    by_cases hname : nameOf item = name
    · rw [if_pos hname, List.filter_cons_of_pos (by simp [hname]), List.getLast?_cons]
      cases (items.filter (nameOf · == name)).getLast? <;> rfl
    · rw [if_neg hname, List.filter_cons_of_neg (by simp [hname])]

/-- The values stand in the order of the names that have them. -/
theorem map_some_values (roster : Roster α) :
    (roster.entries.map Prod.snd).map some = roster.names.map roster.get? := by
  rw [names, List.map_map, List.map_map]
  exact List.map_congr_left fun entry hentry => (get?_of_mem hentry).symm

theorem mem_names_iff {roster : Roster α} {name : String} :
    name ∈ roster.names ↔ ∃ value, roster.get? name = some value := by
  constructor
  · intro h
    obtain ⟨entry, hentry, rfl⟩ := List.mem_map.mp h
    exact ⟨entry.2, get?_of_mem hentry⟩
  · rintro ⟨value, hvalue⟩
    exact List.mem_map_of_mem (mem_of_get?_eq_some hvalue)

end Rulebook.Roster
