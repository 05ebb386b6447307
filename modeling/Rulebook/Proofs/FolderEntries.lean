/-
  Rulebook.Proofs.FolderEntries

  The entries of a folder.  They are listed in increasing order of their names, each
  once (`FileSystem.pairwise_sortedNames`), and the file name of the path of an entry
  is its name (`Path.fileName_child`).
-/
import Rulebook.FileSystem

namespace Rulebook

/-! ## The path of an entry -/

namespace Path

/-- A text that can be the name of an entry of a folder. -/
structure IsName (name : String) : Prop where
  ne_empty : name ≠ ""
  ne_self : name ≠ "."
  ne_parent : name ≠ ".."
  no_slash : '/' ∉ name.toList

instance (name : String) : Decidable (IsName name) :=
  decidable_of_iff (name ≠ "" ∧ name ≠ "." ∧ name ≠ ".." ∧ '/' ∉ name.toList)
    ⟨fun h => ⟨h.1, h.2.1, h.2.2.1, h.2.2.2⟩,
      fun h => ⟨h.ne_empty, h.ne_self, h.ne_parent, h.no_slash⟩⟩

theorem partsFrom_of_no_slash {s : List Char} (h : '/' ∉ s) (current : List Char) :
    partsFrom current s = [current.reverse ++ s] := by
  induction s generalizing current with
  | nil => simp [partsFrom]
  | cons c s ih =>
    rw [List.mem_cons, not_or] at h
    rw [partsFrom, if_neg (Ne.symm h.1), ih h.2]
    simp

theorem partsFrom_append (s t current : List Char) :
    partsFrom current (s ++ '/' :: t) = partsFrom current s ++ partsFrom [] t := by
  induction s generalizing current with
  | nil => simp [partsFrom]
  | cons c s ih =>
    rw [List.cons_append, partsFrom, partsFrom]
    split
    · rw [ih, List.cons_append]
    · exact ih _

/-- There is one slash between a folder and the name of an entry, which may be its own. -/
theorem exists_toList_child (folder name : String) :
    ∃ base, (child folder name).toList = base ++ '/' :: name.toList := by
  unfold child
  split
  · next hslash =>
    obtain ⟨base, hbase⟩ := List.getLast?_eq_some_iff.mp (beq_iff_eq.mp hslash)
    exact ⟨base, by simp [hbase]⟩
  · exact ⟨folder.toList, by simp⟩

theorem fileName_child {name : String} (h : IsName name) (folder : String) :
    fileName (child folder name) = name := by
  obtain ⟨base, hbase⟩ := exists_toList_child folder name
  -- the name is the last part of the path, and one that is kept
  have hcomponents : ∃ front, components (child folder name) = front ++ [name] := by
    have hkept : ([name].filter fun part => part != "" && part != ".") = [name] := by
      simp [h.ne_empty, h.ne_self]
    rw [components, hbase, partsFrom_append, partsFrom_of_no_slash h.no_slash, List.map_append,
      List.filter_append, List.reverse_nil, List.nil_append, List.map_singleton,
      String.ofList_toList, hkept]
    exact ⟨_, rfl⟩
  obtain ⟨front, hfront⟩ := hcomponents
  rw [fileName, hfront, List.getLast?_concat]
  exact if_neg h.ne_parent

end Path

/-! ## The names in a folder -/

namespace FileSystem

/-- What is said of the names in a folder: no two entries have the same name, and names
    are single parts of a path. -/
structure Lists (fs : FileSystem) (folder : String) : Prop where
  nodup : (fs.namesAt folder).Nodup
  isName : ∀ name ∈ fs.namesAt folder, Path.IsName name

/-- The names of the entries of a folder, in increasing order. -/
def sortedNames (fs : FileSystem) (folder : String) : List String :=
  (fs.namesAt folder).mergeSort fun a b => (compare a b).isLE

variable {fs : FileSystem} {folder : String}

theorem children_eq_map : fs.children folder = (fs.sortedNames folder).map (Path.child folder) :=
  rfl

theorem mem_sortedNames {name : String} :
    name ∈ fs.sortedNames folder ↔ name ∈ fs.namesAt folder :=
  (List.mergeSort_perm _ _).mem_iff

/-- Names that all differ are listed in strictly increasing order. -/
theorem pairwise_sortedNames (h : (fs.namesAt folder).Nodup) :
    (fs.sortedNames folder).Pairwise fun a b => compare a b = .lt := by
  have hsorted : (fs.sortedNames folder).Pairwise fun a b => (compare a b).isLE = true := by
    apply List.pairwise_mergeSort
    · intro a b c hab hbc
      exact Std.TransOrd.isLE_trans hab hbc
    · intro a b
      have hswap : compare b a = (compare a b).swap := Std.OrientedOrd.eq_swap
      rw [hswap]
      cases compare a b <;> rfl
  have hnodup : (fs.sortedNames folder).Nodup := (List.mergeSort_perm _ _).nodup_iff.mpr h
  refine hsorted.imp₂ (fun a b hle hne => ?_) hnodup
  -- names that differ do not compare as equal
  cases hcompare : compare a b with
  | lt => rfl
  | eq => exact absurd (Std.LawfulEqOrd.eq_of_compare hcompare) hne
  | gt =>
    rw [hcompare] at hle
    cases hle

end FileSystem

end Rulebook
