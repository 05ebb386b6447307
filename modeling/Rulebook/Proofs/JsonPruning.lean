/-
  Rulebook.Proofs.JsonPruning

  JSON values without some of their parts.  A part is named by its place, the steps
  that lead to it from the value, and all parts are taken out at once, so that the
  places of items are those in the value before.

  A member is taken out of an object by its name, so what is left under a name is what
  is left of the value that the name had (`getElem?_ofEntries_pruneMembers`).
-/
import Rulebook.Json.Basic
import Rulebook.Proofs.NameMaps

namespace Rulebook.Json

/-- A step from a value to one of its parts. -/
inductive Step
  | member (name : String)
  | item (index : Nat)
  deriving DecidableEq

/-- A place in a value: the steps that lead to it. -/
abbrev Place := List Step

/-- The places in a part, out of those in the value that it is a part of. -/
def inside (gone : Place → Bool) (step : Step) : Place → Bool := fun place => gone (step :: place)

mutual

/-- A value without the parts at some places.  Nothing is left if the value itself is
    at one of them. -/
def prune? (gone : Place → Bool) (value : Json) : Option Json :=
  if gone [] then none
  else
    match value with
    | object members => some (object (pruneMembers gone members))
    | array items => some (array (pruneItems gone 0 items))
    | value => some value

/-- What is left of the members of an object. -/
def pruneMembers (gone : Place → Bool) : List (String × Json) → List (String × Json)
  | [] => []
  | (name, value) :: rest =>
    match prune? (inside gone (.member name)) value with
    | some value => (name, value) :: pruneMembers gone rest
    | none => pruneMembers gone rest

/-- What is left of the items of an array, the first of which has the given index. -/
def pruneItems (gone : Place → Bool) : Nat → List Json → List Json
  | _, [] => []
  | index, value :: rest =>
    match prune? (inside gone (.item index)) value with
    | some value => value :: pruneItems gone (index + 1) rest
    | none => pruneItems gone (index + 1) rest

end

variable {gone : Place → Bool}

/-! ## What is left -/

/-- A value that stays, without the parts at some places. -/
def pruneParts (gone : Place → Bool) : Json → Json
  | object members => object (pruneMembers gone members)
  | array items => array (pruneItems gone 0 items)
  | value => value

theorem prune?_eq (gone : Place → Bool) (value : Json) :
    prune? gone value = if gone [] then none else some (pruneParts gone value) := by
  cases value <;> simp only [prune?, pruneParts]

/-- Whether anything is left of a value does not depend on the value. -/
theorem prune?_eq_none_iff {value : Json} : prune? gone value = none ↔ gone [] = true := by
  simp [prune?_eq]

theorem prune?_of_not_gone (h : gone [] = false) (value : Json) :
    prune? gone value = some (pruneParts gone value) := by
  simp [prune?_eq, h]

@[simp] theorem prune?_null (h : gone [] = false) : prune? gone null = some null :=
  prune?_of_not_gone h _

@[simp] theorem prune?_bool (h : gone [] = false) (b : Bool) :
    prune? gone (bool b) = some (bool b) :=
  prune?_of_not_gone h _

@[simp] theorem prune?_number (h : gone [] = false) (n : Number) :
    prune? gone (number n) = some (number n) :=
  prune?_of_not_gone h _

@[simp] theorem prune?_string (h : gone [] = false) (s : String) :
    prune? gone (string s) = some (string s) :=
  prune?_of_not_gone h _

@[simp] theorem prune?_array (h : gone [] = false) (items : List Json) :
    prune? gone (array items) = some (array (pruneItems gone 0 items)) :=
  prune?_of_not_gone h _

@[simp] theorem prune?_object (h : gone [] = false) (members : List (String × Json)) :
    prune? gone (object members) = some (object (pruneMembers gone members)) :=
  prune?_of_not_gone h _

theorem not_gone_of_prune?_eq_some {value left : Json} (h : prune? gone value = some left) :
    gone [] = false := by
  refine Bool.of_not_eq_true fun hgone => ?_
  rw [prune?_eq_none_iff.mpr hgone] at h
  cases h

/-- What is left of a value is like the value in all that depends on the type of an array
    or an object and not on its parts. -/
theorem eq_of_prune?_eq_some {α : Type} (p : Json → α)
    (harray : ∀ items items', p (array items) = p (array items'))
    (hobject : ∀ members members', p (object members) = p (object members'))
    {value left : Json} (h : prune? gone value = some left) : p left = p value := by
  have hgone := not_gone_of_prune?_eq_some h
  cases value with
  | array items =>
    rw [prune?_array hgone] at h
    cases h
    exact harray _ _
  | object members =>
    rw [prune?_object hgone] at h
    cases h
    exact hobject _ _
  | _ =>
    simp only [hgone, prune?_null, prune?_bool, prune?_number, prune?_string,
      Option.some.injEq] at h
    rw [h]

/-- What is left of the items of an array is left of one of them. -/
theorem exists_of_mem_pruneItems {start : Nat} {items : List Json} {left : Json}
    (h : left ∈ pruneItems gone start items) :
    ∃ index value, items[index]? = some value ∧
      prune? (inside gone (.item (start + index))) value = some left := by
  induction items generalizing start with
  | nil => cases h
  | cons first items ih =>
    have hlater : left ∈ pruneItems gone (start + 1) items →
        ∃ index value, (first :: items)[index]? = some value ∧
          prune? (inside gone (.item (start + index))) value = some left := by
      intro h
      obtain ⟨index, value, hvalue, hleft⟩ := ih h
      refine ⟨index + 1, value, hvalue, ?_⟩
      rwa [Nat.add_right_comm] at hleft
    rw [pruneItems] at h
    cases hfirst : prune? (inside gone (.item start)) first with
    | none =>
      rw [hfirst] at h
      exact hlater h
    | some part =>
      rw [hfirst] at h
      rcases List.mem_cons.mp h with rfl | h
      · exact ⟨0, first, rfl, hfirst⟩
      · exact hlater h

/-! ## Look-up -/

/-- What is left under a name is what is left of its value. -/
theorem getElem?_insertAll_pruneMembers (map map' : Members) (members : List (String × Json))
    (name : String)
    (h : map'[name]? = map[name]?.bind (prune? (inside gone (.member name)))) :
    (map'.insertAll (pruneMembers gone members))[name]? =
      (map.insertAll members)[name]?.bind (prune? (inside gone (.member name))) := by
  induction members generalizing map map' with
  | nil => exact h
  | cons entry members ih =>
    obtain ⟨other, value⟩ := entry
    simp only [pruneMembers]
    cases hleft : prune? (inside gone (.member other)) value with
    | some left =>
      refine ih (map.insert other value) (map'.insert other left) ?_
      simp only [NameMap.getElem?_insert_name]
      split
      · next heq =>
        subst heq
        exact hleft.symm
      · exact h
    | none =>
      refine ih (map.insert other value) map' ?_
      rw [NameMap.getElem?_insert_name]
      split
      · next heq =>
        -- nothing is left of any value of this name
        subst heq
        have hnone : ∀ value, prune? (inside gone (.member other)) value = none := fun _ =>
          prune?_eq_none_iff.mpr (prune?_eq_none_iff.mp hleft)
        rw [h, Option.bind_some, hnone]
        exact Option.bind_eq_none_iff.mpr fun value _ => hnone value
      · exact h

theorem getElem?_ofEntries_pruneMembers (gone : Place → Bool) (members : List (String × Json))
    (name : String) :
    (NameMap.ofEntries (pruneMembers gone members))[name]? =
      (NameMap.ofEntries members)[name]?.bind (prune? (inside gone (.member name))) := by
  refine getElem?_insertAll_pruneMembers ∅ ∅ members name ?_
  rw [Std.ExtTreeMap.getElem?_empty, Option.bind_none]

end Rulebook.Json
