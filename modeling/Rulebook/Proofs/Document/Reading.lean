/-
  Rulebook.Proofs.Document.Reading

  What reading finds in the members of a document.  Each variable and each rule set is
  read from the value of its own name, and an entry is skipped exactly when its value
  is of a type that its place does not take (`mem_ignored_iff`).
-/
import Rulebook.Document.Basic
import Rulebook.Proofs.NameMaps

namespace Rulebook

/-! ## Places and the types that they take -/

namespace Json

/-- An object, or null for an empty one. -/
def isSection : Json → Bool
  | object _ | null => true
  | _ => false

/-- A flag, or null for the default. -/
def isFlag : Json → Bool
  | bool _ | null => true
  | _ => false

/-- An array, a lone text, or null for an empty array. -/
def isTexts : Json → Bool
  | array _ | string _ | null => true
  | _ => false

/-- The text that a value is. -/
def text? : Json → Option String
  | string s => some s
  | _ => none

/-- The members of a value that should be an object. -/
def membersOf : Option Json → Members
  | some (object members) => NameMap.ofEntries members
  | _ => ∅

/-- The items of a value that should be an array. -/
def itemsOf : Option Json → List Json
  | some (array items) => items
  | _ => []

@[simp] theorem membersOf_none : membersOf none = ∅ := rfl

@[simp] theorem itemsOf_none : itemsOf none = [] := rfl

end Json

open Json (membersOf itemsOf)

/-- The value at a place of the object of a document. -/
def Location.valueIn (members : Json.Members) : Location → Option Json
  | allVariables => members["variables"]?
  | oneVariable name => (membersOf members["variables"]?)[name]?
  | allSets => members["rulesets"]?
  | oneSet name => (membersOf members["rulesets"]?)[name]?
  | enabled set => (membersOf (membersOf members["rulesets"]?)[set]?)["enabled"]?
  | list set field => (membersOf (membersOf members["rulesets"]?)[set]?)[field.text]?
  | item set field index =>
    (itemsOf (membersOf (membersOf members["rulesets"]?)[set]?)[field.text]?)[index]?

theorem Location.valueIn_item (members : Json.Members) (set : String) (field : ListField)
    (index : Nat) : (item set field index).valueIn members =
      (itemsOf ((list set field).valueIn members))[index]? := rfl

/-- The values that a place takes, which depends on their type only. -/
def Location.takes : Location → Json → Bool
  | allVariables | allSets | oneSet _ => Json.isSection
  | oneVariable _ => fun value => (Document.variableText? value).isSome
  | enabled _ => Json.isFlag
  | list _ _ => Json.isTexts
  | item _ _ _ => fun value => value.text?.isSome

theorem Location.takes_oneVariable_eq_false_iff {name : String} {value : Json} :
    (oneVariable name).takes value = false ↔ Document.variableText? value = none :=
  Option.isSome_eq_false_iff.trans Option.isNone_iff_eq_none

theorem Location.takes_item_eq_false_iff {set : String} {field : ListField} {index : Nat}
    {value : Json} : (item set field index).takes value = false ↔ value.text? = none :=
  Option.isSome_eq_false_iff.trans Option.isNone_iff_eq_none

theorem ListField.exists_iff {p : ListField → Prop} :
    (∃ field, p field) ↔ p .rules ∨ p .children := by
  constructor
  · rintro ⟨field, h⟩
    cases field with
    | rules => exact .inl h
    | children => exact .inr h
  · rintro (h | h)
    · exact ⟨_, h⟩
    · exact ⟨_, h⟩

namespace Document

/-! ## Values of the wrong type

  They are read as if they were not there. -/

theorem membersOf_mistyped {value : Json} (h : value.isSection = false) :
    membersOf (some value) = ∅ := by
  cases value <;> simp_all [Json.isSection, membersOf]

theorem readEnabled_mistyped (set : String) {value : Json} (h : value.isFlag = false) :
    (readEnabled set (some value)).1 = true := by
  cases value <;> simp_all [Json.isFlag, readEnabled]

theorem readList_mistyped (set : String) (field : ListField) {value : Json}
    (h : value.isTexts = false) : (readList set field (some value)).1 = [] := by
  cases value <;> simp_all [Json.isTexts, readList]

/-- A rule set of the wrong type is read as an empty set. -/
theorem readSet_mistyped (name : String) {value : Json} (h : value.isSection = false) :
    (readSet name value).1 = {} := by
  cases value <;> simp_all [Json.isSection, readSet]

variable {e : Ignored}

/-! ## Sections -/

theorem section?_fst (location : Location) (value : Option Json) :
    (section? location value).1 = (membersOf value).toList := by
  rcases value with _ | value
  · rfl
  · cases value <;> rfl

theorem mem_section?_ignored {location : Location} {value : Option Json} :
    e ∈ (section? location value).2 ↔
      ∃ found, value = some found ∧ found.isSection = false ∧ e = ⟨location, found⟩ := by
  rcases value with _ | value
  · simp [section?]
  · cases value <;> simp [section?, Json.isSection]

/-! ## Variables -/

theorem readVariables_eq (entries : List (String × Json)) :
    readVariables entries =
      (entries.filterMap fun (name, value) => (variableText? value).map fun text => (name, text),
        (entries.filter fun (_, value) => (variableText? value).isNone).map
          fun (name, value) => ⟨.oneVariable name, value⟩) := by
  induction entries with
  | nil => rfl
  | cons entry entries ih =>
    rw [readVariables, ih]
    cases h : variableText? entry.2 <;> simp [h]

theorem mem_readVariables_ignored {map : Json.Members} :
    e ∈ (readVariables map.toList).2 ↔
      ∃ name value, map[name]? = some value ∧ variableText? value = none ∧
        e = ⟨.oneVariable name, value⟩ := by
  simp only [readVariables_eq, List.mem_map, List.mem_filter, Prod.exists,
    Std.ExtTreeMap.mem_toList_iff_getElem?_eq_some, Option.isNone_iff_eq_none, and_assoc,
    eq_comm (a := e)]

/-! ## Rule sets -/

theorem readItems_fst (set : String) (field : ListField) (start : Nat) (items : List Json) :
    (readItems set field start items).1 = items.filterMap Json.text? := by
  induction items generalizing start with
  | nil => rfl
  | cons first items ih => cases first <;> simp [readItems, List.filterMap_cons, Json.text?, ih]

theorem mem_readItems_ignored {set : String} {field : ListField} {start : Nat}
    {items : List Json} :
    e ∈ (readItems set field start items).2 ↔
      ∃ index value, items[index]? = some value ∧ value.text? = none ∧
        e = ⟨.item set field (start + index), value⟩ := by
  induction items generalizing start with
  | nil => simp [readItems]
  | cons first items ih =>
    -- the first item is the one with index 0
    have hlater := @ih (start + 1)
    rw [← Nat.or_exists_add_one]
    cases first <;>
      simp [readItems, hlater, Json.text?, Nat.add_assoc, Nat.add_comm 1]

theorem mem_readList_ignored {set : String} {field : ListField} {value : Option Json} :
    e ∈ (readList set field value).2 ↔
      (∃ found, value = some found ∧ found.isTexts = false ∧ e = ⟨.list set field, found⟩) ∨
      ∃ index found, (itemsOf value)[index]? = some found ∧ found.text? = none ∧
        e = ⟨.item set field index, found⟩ := by
  rcases value with _ | value
  · simp [readList, itemsOf]
  · cases value <;> simp [readList, Json.isTexts, itemsOf, mem_readItems_ignored]

theorem mem_readEnabled_ignored {set : String} {value : Option Json} :
    e ∈ (readEnabled set value).2 ↔
      ∃ found, value = some found ∧ found.isFlag = false ∧ e = ⟨.enabled set, found⟩ := by
  rcases value with _ | value
  · simp [readEnabled]
  · cases value <;> simp [readEnabled, Json.isFlag]

/-- A value without members is read as an object without members. -/
theorem readSet_fst (name : String) (value : Json) :
    (readSet name value).1 =
      ⟨(readEnabled name (membersOf (some value))["enabled"]?).1,
        (readList name .rules (membersOf (some value))["rules"]?).1,
        (readList name .children (membersOf (some value))["children"]?).1⟩ := by
  cases value <;> simp [readSet, membersOf, readEnabled, readList]

theorem mem_readSet_ignored {name : String} {value : Json} :
    e ∈ (readSet name value).2 ↔ (value.isSection = false ∧ e = ⟨.oneSet name, value⟩) ∨
      e ∈ (readEnabled name (membersOf (some value))["enabled"]?).2 ∨
      ∃ field : ListField,
        e ∈ (readList name field (membersOf (some value))[field.text]?).2 := by
  cases value with
  | object members =>
    simp only [readSet, membersOf, Json.isSection, List.mem_append, ListField.exists_iff,
      ListField.text]
    simp [or_assoc]
  | _ => simp [readSet, membersOf, readEnabled, readList, Json.isSection]

theorem readSets_eq (entries : List (String × Json)) :
    readSets entries =
      (entries.filterMap fun (name, value) =>
          (some (readSet name value).1).map fun set => (name, set),
        entries.flatMap fun (name, value) => (readSet name value).2) := by
  induction entries with
  | nil => rfl
  | cons entry entries ih =>
    rw [readSets, ih]
    rfl

theorem mem_readSets_ignored {map : Json.Members} :
    e ∈ (readSets map.toList).2 ↔
      ∃ name value, map[name]? = some value ∧ e ∈ (readSet name value).2 := by
  rw [readSets_eq]
  simp [Std.ExtTreeMap.mem_toList_iff_getElem?_eq_some]

/-! ## Documents -/

theorem getElem?_bindings_ofMembers (members : Json.Members) (name : String) :
    (ofMembers members).bindings[name]? =
      (membersOf members["variables"]?)[name]?.bind variableText? := by
  simp only [ofMembers, section?_fst, readVariables_eq]
  exact NameMap.getElem?_ofEntries_filterMap_toList _ (fun _ => variableText?) name

theorem getElem?_sets_ofMembers (members : Json.Members) (name : String) :
    (ofMembers members).sets[name]? =
      (membersOf members["rulesets"]?)[name]?.map fun value => (readSet name value).1 := by
  simp only [ofMembers, section?_fst, readSets_eq]
  rw [NameMap.getElem?_ofEntries_filterMap_toList _
    (fun name value => some (readSet name value).1)]
  exact (Option.map_eq_bind ..).symm

/-- What is skipped, section by section. -/
theorem mem_ignored_ofMembers {members : Json.Members} :
    e ∈ (ofMembers members).ignored ↔
      e ∈ (section? .allVariables members["variables"]?).2 ∨
      (∃ name value, (membersOf members["variables"]?)[name]? = some value ∧
        variableText? value = none ∧ e = ⟨.oneVariable name, value⟩) ∨
      e ∈ (section? .allSets members["rulesets"]?).2 ∨
      ∃ name value, (membersOf members["rulesets"]?)[name]? = some value ∧
        e ∈ (readSet name value).2 := by
  simp only [ofMembers, section?_fst, List.mem_append, mem_readVariables_ignored,
    mem_readSets_ignored, or_assoc]

/-- What is skipped in the parts of a rule set is skipped. -/
theorem mem_ignored_of_part {members : Json.Members} {set : String} {entry : Json}
    (hentry : (membersOf members["rulesets"]?)[set]? = some entry)
    (h : e ∈ (readEnabled set (membersOf (some entry))["enabled"]?).2 ∨
      ∃ field : ListField,
        e ∈ (readList set field (membersOf (some entry))[field.text]?).2) :
    e ∈ (ofMembers members).ignored :=
  mem_ignored_ofMembers.mpr
    (.inr (.inr (.inr ⟨set, entry, hentry, mem_readSet_ignored.mpr (.inr h)⟩)))

/-- A value that its place does not take is skipped. -/
theorem mem_ignored_of_valueIn {members : Json.Members} {location : Location} {value : Json}
    (hvalue : location.valueIn members = some value) (htakes : location.takes value = false) :
    ⟨location, value⟩ ∈ (ofMembers members).ignored := by
  cases location with
  | allVariables =>
    exact mem_ignored_ofMembers.mpr (.inl (mem_section?_ignored.mpr ⟨_, hvalue, htakes, rfl⟩))
  | oneVariable name =>
    rw [Location.takes_oneVariable_eq_false_iff] at htakes
    exact mem_ignored_ofMembers.mpr (.inr (.inl ⟨_, _, hvalue, htakes, rfl⟩))
  | allSets =>
    exact mem_ignored_ofMembers.mpr
      (.inr (.inr (.inl (mem_section?_ignored.mpr ⟨_, hvalue, htakes, rfl⟩))))
  | oneSet name =>
    have hset : ⟨.oneSet name, value⟩ ∈ (readSet name value).2 :=
      mem_readSet_ignored.mpr (.inl ⟨htakes, rfl⟩)
    exact mem_ignored_ofMembers.mpr (.inr (.inr (.inr ⟨name, value, hvalue, hset⟩)))
  | enabled set =>
    cases hentry : (membersOf members["rulesets"]?)[set]? with
    | none => simp [Location.valueIn, hentry] at hvalue
    | some entry =>
      rw [Location.valueIn, hentry] at hvalue
      exact mem_ignored_of_part hentry
        (.inl (mem_readEnabled_ignored.mpr ⟨_, hvalue, htakes, rfl⟩))
  | list set field =>
    cases hentry : (membersOf members["rulesets"]?)[set]? with
    | none => simp [Location.valueIn, hentry] at hvalue
    | some entry =>
      rw [Location.valueIn, hentry] at hvalue
      exact mem_ignored_of_part hentry
        (.inr ⟨field, mem_readList_ignored.mpr (.inl ⟨_, hvalue, htakes, rfl⟩)⟩)
  | item set field index =>
    cases hentry : (membersOf members["rulesets"]?)[set]? with
    | none => simp [Location.valueIn, hentry] at hvalue
    | some entry =>
      rw [Location.valueIn, hentry] at hvalue
      rw [Location.takes_item_eq_false_iff] at htakes
      exact mem_ignored_of_part hentry
        (.inr ⟨field, mem_readList_ignored.mpr (.inr ⟨_, _, hvalue, htakes, rfl⟩)⟩)

/-- Reading skips exactly the values that their places do not take. -/
theorem mem_ignored_iff {members : Json.Members} {location : Location} {value : Json} :
    ⟨location, value⟩ ∈ (ofMembers members).ignored ↔
      location.valueIn members = some value ∧ location.takes value = false := by
  refine ⟨fun h => ?_, fun ⟨hvalue, htakes⟩ => mem_ignored_of_valueIn hvalue htakes⟩
  rw [mem_ignored_ofMembers] at h
  rcases h with h | ⟨name, value, hvalue, htakes, h⟩ | h | ⟨name, entry, hentry, h⟩
  · obtain ⟨value, hvalue, htakes, h⟩ := mem_section?_ignored.mp h
    cases h
    exact ⟨hvalue, htakes⟩
  · cases h
    exact ⟨hvalue, Location.takes_oneVariable_eq_false_iff.mpr htakes⟩
  · obtain ⟨value, hvalue, htakes, h⟩ := mem_section?_ignored.mp h
    cases h
    exact ⟨hvalue, htakes⟩
  · rw [mem_readSet_ignored, ← hentry] at h
    rcases h with ⟨htakes, h⟩ | h | ⟨field, h⟩
    · cases h
      exact ⟨hentry, htakes⟩
    · obtain ⟨value, hvalue, htakes, h⟩ := mem_readEnabled_ignored.mp h
      cases h
      exact ⟨hvalue, htakes⟩
    · rcases mem_readList_ignored.mp h with
        ⟨value, hvalue, htakes, h⟩ | ⟨index, value, hvalue, htakes, h⟩
      · cases h
        exact ⟨hvalue, htakes⟩
      · cases h
        exact ⟨hvalue, Location.takes_item_eq_false_iff.mpr htakes⟩

end Document

end Rulebook
