/-
  Rulebook.Proofs.NameMaps

  Maps and the lists of their entries.  Adding the entries of a list to a map gives
  each name its last entry, and where no name occurs twice, as in the list of a map,
  its only one.  So the order of such entries does not matter (`insertAll_eq_of_perm`), and
  entries whose names come again later leave nothing behind (`insertAll_insertAll`).
-/
import Std.Data.TreeMap
import Rulebook.NameMap

namespace Rulebook.NameMap

variable {α : Type}

/-- A map with the entries of a list added in order. -/
def insertAll (map : NameMap α) (entries : List (String × α)) : NameMap α :=
  entries.foldl (fun map (name, value) => map.insert name value) map

/-! ## The names of a map -/

/-- The entries of a map are in strictly increasing order of their names. -/
theorem pairwise_toList (map : NameMap α) :
    map.toList.Pairwise fun a b => compare a.1 b.1 = .lt :=
  Std.ExtTreeMap.ordered_keys_toList

theorem nodup_map_fst_toList (map : NameMap α) : (map.toList.map Prod.fst).Nodup := by
  refine List.pairwise_map.mpr (map.pairwise_toList.imp ?_)
  intro a b hlt heq
  have hself : compare b.1 b.1 = .eq := Std.ReflCmp.compare_self
  rw [heq, hself] at hlt
  cases hlt

theorem mem_map_fst_toList {map : NameMap α} {name : String} :
    name ∈ map.toList.map Prod.fst ↔ name ∈ map := by
  rw [Std.ExtTreeMap.mem_iff_isSome_getElem?, Option.isSome_iff_exists, List.mem_map]
  constructor
  · rintro ⟨⟨_, value⟩, hentry, rfl⟩
    exact ⟨value, Std.ExtTreeMap.mem_toList_iff_getElem?_eq_some.mp hentry⟩
  · rintro ⟨value, hvalue⟩
    exact ⟨(name, value), Std.ExtTreeMap.mem_toList_iff_getElem?_eq_some.mpr hvalue, rfl⟩

/-! ## Look-up after adding entries -/

theorem getElem?_insertAll_of_not_mem (map : NameMap α) {entries : List (String × α)}
    {name : String} (h : name ∉ entries.map Prod.fst) :
    (map.insertAll entries)[name]? = map[name]? := by
  induction entries generalizing map with
  | nil => rfl
  | cons entry entries ih =>
    obtain ⟨other, value⟩ := entry
    rw [List.map_cons, List.mem_cons, not_or] at h
    have hrest := ih (map.insert other value) h.2
    rw [getElem?_insert_name, if_neg (Ne.symm h.1)] at hrest
    exact hrest

theorem getElem?_insertAll_of_mem (map : NameMap α) {entries : List (String × α)}
    (hnodup : (entries.map Prod.fst).Nodup) {name : String} {value : α}
    (h : (name, value) ∈ entries) : (map.insertAll entries)[name]? = some value := by
  induction entries generalizing map with
  | nil => cases h
  | cons entry entries ih =>
    rw [List.map_cons, List.nodup_cons] at hnodup
    rcases List.mem_cons.mp h with rfl | h
    · -- the name does not come again
      have hrest := getElem?_insertAll_of_not_mem (map.insert name value) hnodup.1
      rw [getElem?_insert_name, if_pos rfl] at hrest
      exact hrest
    · exact ih (map.insert entry.1 entry.2) hnodup.2 h

theorem insertAll_append (map : NameMap α) (entries later : List (String × α)) :
    map.insertAll (entries ++ later) = (map.insertAll entries).insertAll later :=
  List.foldl_append

/-- Entries with names of their own come to the same map in any order. -/
theorem insertAll_eq_of_perm (map : NameMap α) {entries entries' : List (String × α)}
    (hnodup : (entries.map Prod.fst).Nodup) (hperm : entries.Perm entries') :
    map.insertAll entries = map.insertAll entries' := by
  have hnames : (entries.map Prod.fst).Perm (entries'.map Prod.fst) := hperm.map Prod.fst
  refine Std.ExtTreeMap.ext_getElem? fun name => ?_
  by_cases hname : name ∈ entries.map Prod.fst
  · obtain ⟨⟨_, value⟩, hentry, rfl⟩ := List.mem_map.mp hname
    rw [getElem?_insertAll_of_mem map hnodup hentry,
      getElem?_insertAll_of_mem map (hnames.nodup_iff.mp hnodup) (hperm.mem_iff.mp hentry)]
  · rw [getElem?_insertAll_of_not_mem map hname,
      getElem?_insertAll_of_not_mem map fun h => hname (hnames.mem_iff.mpr h)]

/-- Of entries whose names all come again in later ones nothing is left. -/
theorem insertAll_insertAll (map : NameMap α) {entries later : List (String × α)}
    (hnodup : (later.map Prod.fst).Nodup)
    (hnames : ∀ name ∈ entries.map Prod.fst, name ∈ later.map Prod.fst) :
    (map.insertAll entries).insertAll later = map.insertAll later := by
  refine Std.ExtTreeMap.ext_getElem? fun name => ?_
  by_cases hname : name ∈ later.map Prod.fst
  · obtain ⟨⟨_, value⟩, hentry, rfl⟩ := List.mem_map.mp hname
    rw [getElem?_insertAll_of_mem _ hnodup hentry, getElem?_insertAll_of_mem _ hnodup hentry]
  · rw [getElem?_insertAll_of_not_mem _ hname, getElem?_insertAll_of_not_mem _ hname,
      getElem?_insertAll_of_not_mem map fun h => hname (hnames name h)]

/-- What is found after adding entries is one of them or was there before. -/
theorem mem_or_of_getElem?_insertAll {map : NameMap α} {entries : List (String × α)}
    {name : String} {value : α} (h : (map.insertAll entries)[name]? = some value) :
    (name, value) ∈ entries ∨ map[name]? = some value := by
  induction entries generalizing map with
  | nil => exact .inr h
  | cons entry entries ih =>
    obtain ⟨other, first⟩ := entry
    rcases ih h with hmem | hfirst
    · exact .inl (List.mem_cons_of_mem _ hmem)
    · rw [getElem?_insert_name] at hfirst
      split at hfirst
      · next he =>
        cases hfirst
        exact .inl (he ▸ List.mem_cons_self)
      · exact .inr hfirst

theorem mem_of_getElem?_ofEntries {entries : List (String × α)} {name : String} {value : α}
    (h : (ofEntries entries)[name]? = some value) : (name, value) ∈ entries := by
  rcases mem_or_of_getElem?_insertAll h with hmem | hempty
  · exact hmem
  · simp at hempty

/-- Adding all entries of a map overrides those of their names. -/
theorem getElem?_insertAll_toList (map other : NameMap α) (name : String) :
    (map.insertAll other.toList)[name]? = other[name]?.or map[name]? := by
  cases hother : other[name]? with
  | some value =>
    have hmem : (name, value) ∈ other.toList :=
      Std.ExtTreeMap.mem_toList_iff_getElem?_eq_some.mpr hother
    rw [getElem?_insertAll_of_mem map other.nodup_map_fst_toList hmem, Option.some_or]
  | none =>
    have hnot : name ∉ other.toList.map Prod.fst := by
      rw [mem_map_fst_toList]
      simpa using hother
    rw [getElem?_insertAll_of_not_mem map hnot, Option.none_or]

@[simp] theorem getElem?_ofEntries_toList (map : NameMap α) (name : String) :
    (ofEntries map.toList)[name]? = map[name]? := by
  have h := getElem?_insertAll_toList ∅ map name
  rw [Std.ExtTreeMap.getElem?_empty, Option.or_none] at h
  exact h

/-- A map is made up of its entries. -/
@[simp] theorem ofEntries_toList (map : NameMap α) : ofEntries map.toList = map :=
  Std.ExtTreeMap.ext_getElem? (getElem?_ofEntries_toList map)

theorem toList_ofEntries_singleton (name : String) (value : α) :
    (ofEntries [(name, value)]).toList = [(name, value)] := by
  have hnodup : (ofEntries [(name, value)]).toList.Nodup :=
    (List.pairwise_map.mp (nodup_map_fst_toList _)).imp fun hne heq => hne (congrArg Prod.fst heq)
  refine List.perm_singleton.mp ((List.perm_ext_iff_of_nodup hnodup (by simp)).mpr ?_)
  rintro ⟨other, value'⟩
  rw [Std.ExtTreeMap.mem_toList_iff_getElem?_eq_some, ofEntries, List.foldl_cons, List.foldl_nil,
    getElem?_insert_name]
  by_cases h : name = other
  · simp [h, eq_comm]
  · simp [h, Ne.symm h]

/-- The names of what a function keeps of some entries are among the names of these. -/
theorem nodup_map_fst_filterMap {β : Type} {entries : List (String × α)}
    (hnodup : (entries.map Prod.fst).Nodup) (keep : String → α → Option β) :
    ((entries.filterMap fun (name, value) =>
      (keep name value).map fun kept => (name, kept)).map Prod.fst).Nodup := by
  refine List.pairwise_map.mpr ((List.pairwise_map.mp hnodup).filterMap _ ?_)
  intro entry other hne kept hkept otherKept hotherKept
  obtain ⟨_, -, rfl⟩ := Option.map_eq_some_iff.mp hkept
  obtain ⟨_, -, rfl⟩ := Option.map_eq_some_iff.mp hotherKept
  exact hne

/-- Look-up in the map of what a function keeps of the entries of another one. -/
theorem getElem?_ofEntries_filterMap_toList {β : Type} (map : NameMap α)
    (keep : String → α → Option β) (name : String) :
    (ofEntries (map.toList.filterMap fun (name, value) =>
      (keep name value).map fun kept => (name, kept)))[name]? = map[name]?.bind (keep name) := by
  cases hkept : map[name]?.bind (keep name) with
  | some kept =>
    obtain ⟨value, hvalue, hkeep⟩ := Option.bind_eq_some_iff.mp hkept
    have hmem : (name, value) ∈ map.toList :=
      Std.ExtTreeMap.mem_toList_iff_getElem?_eq_some.mpr hvalue
    exact getElem?_insertAll_of_mem ∅ (nodup_map_fst_filterMap map.nodup_map_fst_toList keep)
      (List.mem_filterMap.mpr ⟨_, hmem, Option.map_eq_some_iff.mpr ⟨kept, hkeep, rfl⟩⟩)
  | none =>
    refine (getElem?_insertAll_of_not_mem ∅ ?_).trans Std.ExtTreeMap.getElem?_empty
    intro hname
    obtain ⟨_, hentry, rfl⟩ := List.mem_map.mp hname
    obtain ⟨⟨name, value⟩, hvalue, hkeep⟩ := List.mem_filterMap.mp hentry
    obtain ⟨kept, hsome, rfl⟩ := Option.map_eq_some_iff.mp hkeep
    rw [Std.ExtTreeMap.mem_toList_iff_getElem?_eq_some.mp hvalue] at hkept
    cases hkept.symm.trans hsome

/-- Look-up in the map of what a function makes of the entries of another one. -/
theorem getElem?_ofEntries_map_toList {β : Type} (map : NameMap α) (f : α → β) (name : String) :
    (ofEntries (map.toList.map fun (name, value) => (name, f value)))[name]? =
      map[name]?.map f := by
  have h := getElem?_ofEntries_filterMap_toList map (fun _ value => some (f value)) name
  simp only [Option.map_some, List.filterMap_eq_map'] at h
  rw [h, Option.map_eq_bind]
  rfl

end Rulebook.NameMap
