/-
  Rulebook.Proofs.Document.Nulls

  Null in a document.  A member that is null is as good as none, except for a variable, so
  the object of a document may do without such members: all wrongly typed values stay at
  their places (`valueIn_withoutNulls_iff`).
-/
import Rulebook.Proofs.Document.Reading

namespace Rulebook

open Json (itemsOf membersOf)

/-! ## Members that are not null -/

namespace Json

/-- A value after a change, unless it is null. -/
def unlessNull (change : Json → Json) : Json → Option Json
  | null => none
  | value => some (change value)

/-- An object with what is kept of each of its members. -/
def keepMembers (keep : Json → Option Json) : Json → Json
  | object members => object ((NameMap.ofEntries members).toList.filterMap
      fun (name, value) => (keep value).map fun kept => (name, kept))
  | value => value

theorem getElem?_membersOf_keepMembers (keep : Json → Option Json) (value : Option Json)
    (name : String) :
    (membersOf (value.bind (unlessNull (keepMembers keep))))[name]? =
      (membersOf value)[name]?.bind keep := by
  rcases value with _ | value
  · simp [membersOf]
  · cases value with
    | object members =>
      exact NameMap.getElem?_ofEntries_filterMap_toList _ (fun _ => keep) name
    | _ => simp [unlessNull, keepMembers, membersOf]

theorem membersOf_unlessNull (value : Option Json) :
    membersOf (value.bind (unlessNull id)) = membersOf value := by
  rcases value with _ | value
  · rfl
  · cases value <;> rfl

theorem itemsOf_unlessNull (value : Option Json) :
    itemsOf (value.bind (unlessNull id)) = itemsOf value := by
  rcases value with _ | value
  · rfl
  · cases value <;> rfl

theorem bind_unlessNull_eq_some_iff {value : Option Json} {found : Json} (h : found ≠ null) :
    value.bind (unlessNull id) = some found ↔ value = some found := by
  rcases value with _ | value
  · simp
  · cases value with
    | null => simp [unlessNull, Ne.symm h]
    | _ => simp [unlessNull]

/-- A value that is no object is kept as it is. -/
theorem bind_keepMembers_eq_some_iff {keep : Json → Option Json} {value : Option Json}
    {found : Json} (h : found.isSection = false) :
    value.bind (unlessNull (keepMembers keep)) = some found ↔ value = some found := by
  rcases value with _ | value
  · simp
  · cases value with
    | null =>
      have hne : null ≠ found := by
        rintro rfl
        cases h
      simp [unlessNull, hne]
    | object members =>
      have hne : ∀ members, object members ≠ found := by
        rintro members rfl
        cases h
      simp [unlessNull, keepMembers, hne]
    | _ => simp [unlessNull, keepMembers]

end Json

theorem Location.ne_null_of_takes {location : Location} {value : Json}
    (hnull : location.takes .null = true) (h : location.takes value = false) : value ≠ .null := by
  rintro rfl
  rw [hnull] at h
  cases h

namespace Document

/-! ## The object of a document without nulls -/

/-- What is kept of a member of a document.  Only the rule sets have members of their own in
    which null stands for nothing. -/
def keepMember (name : String) : Json → Option Json :=
  if name = "rulesets" then
    Json.unlessNull (Json.keepMembers (Json.unlessNull (Json.keepMembers (Json.unlessNull id))))
  else Json.unlessNull id

/-- The object of a document without the members that are null, but for variables. -/
def withoutNulls (members : Json.Members) : Json.Members :=
  NameMap.ofEntries (members.toList.filterMap fun (name, value) =>
    (keepMember name value).map fun kept => (name, kept))

variable {members : Json.Members}

theorem getElem?_withoutNulls (name : String) :
    (withoutNulls members)[name]? = members[name]?.bind (keepMember name) :=
  NameMap.getElem?_ofEntries_filterMap_toList members keepMember name

theorem valueIn_withoutNulls_oneSet (name : String) :
    (Location.oneSet name).valueIn (withoutNulls members) =
      ((Location.oneSet name).valueIn members).bind
        (Json.unlessNull (Json.keepMembers (Json.unlessNull id))) := by
  rw [Location.valueIn, getElem?_withoutNulls]
  exact Json.getElem?_membersOf_keepMembers _ _ name

theorem getElem?_membersOf_oneSet (set name : String) :
    (membersOf ((Location.oneSet set).valueIn (withoutNulls members)))[name]? =
      (membersOf ((Location.oneSet set).valueIn members))[name]?.bind (Json.unlessNull id) := by
  rw [valueIn_withoutNulls_oneSet]
  exact Json.getElem?_membersOf_keepMembers _ _ name

/-- A value that its place does not take is there without the nulls as well. -/
theorem valueIn_withoutNulls_iff {location : Location} {value : Json}
    (h : location.takes value = false) :
    location.valueIn (withoutNulls members) = some value ↔
      location.valueIn members = some value := by
  cases location with
  | allVariables =>
    have hvariables : Location.allVariables.valueIn (withoutNulls members) =
        (Location.allVariables.valueIn members).bind (Json.unlessNull id) :=
      getElem?_withoutNulls "variables"
    rw [hvariables]
    exact Json.bind_unlessNull_eq_some_iff (Location.ne_null_of_takes rfl h)
  | oneVariable name =>
    -- a variable that is null stays
    have hsection : membersOf (withoutNulls members)["variables"]? =
        membersOf members["variables"]? := by
      rw [getElem?_withoutNulls]
      exact Json.membersOf_unlessNull _
    rw [Location.valueIn, hsection, Location.valueIn]
  | allSets =>
    rw [Location.valueIn, getElem?_withoutNulls]
    exact Json.bind_keepMembers_eq_some_iff h
  | oneSet name =>
    rw [valueIn_withoutNulls_oneSet]
    exact Json.bind_keepMembers_eq_some_iff h
  | enabled set =>
    have hflag : (Location.enabled set).valueIn (withoutNulls members) =
        ((Location.enabled set).valueIn members).bind (Json.unlessNull id) :=
      getElem?_membersOf_oneSet set "enabled"
    rw [hflag]
    exact Json.bind_unlessNull_eq_some_iff (Location.ne_null_of_takes rfl h)
  | list set field =>
    have hlist : (Location.list set field).valueIn (withoutNulls members) =
        ((Location.list set field).valueIn members).bind (Json.unlessNull id) :=
      getElem?_membersOf_oneSet set field.text
    rw [hlist]
    exact Json.bind_unlessNull_eq_some_iff (Location.ne_null_of_takes rfl h)
  | item set field index =>
    have hlist : (Location.list set field).valueIn (withoutNulls members) =
        ((Location.list set field).valueIn members).bind (Json.unlessNull id) :=
      getElem?_membersOf_oneSet set field.text
    rw [Location.valueIn_item, hlist, Json.itemsOf_unlessNull, ← Location.valueIn_item]

end Document

end Rulebook
