/-
  Rulebook.NameMap

  Finite maps from names, in increasing order of the names.  Two maps are equal
  when they answer every look-up alike.
-/
import Std.Data.ExtTreeMap

namespace Rulebook

/-- A finite map from names. -/
abbrev NameMap (α : Type) := Std.ExtTreeMap String α compare

namespace NameMap

variable {α : Type}

/-- A map with the entries of a list.  Of two entries with one name the later counts. -/
def ofEntries (entries : List (String × α)) : NameMap α :=
  entries.foldl (fun map (name, value) => map.insert name value) ∅

/-- Look-up after an insertion. -/
theorem getElem?_insert_name (map : NameMap α) (name other : String) (value : α) :
    (map.insert name value)[other]? = if name = other then some value else map[other]? := by
  simp [Std.ExtTreeMap.getElem?_insert]

end NameMap

end Rulebook
