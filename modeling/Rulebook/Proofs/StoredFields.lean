/-
  Rulebook.Proofs.StoredFields

  What the custom kinds that are declared by data do with a value: each field overwrites the
  text that is stored under its own name, and no other.  So these kinds are among those whose
  fields write apart from each other (`separate_custom`), and each field has its text for itself
  (`owns_custom`).
-/
import Rulebook.Kind.Custom
import Rulebook.Proofs.VariableIndependence

namespace Rulebook

/-- Texts that are stored under different names may be stored in any order. -/
theorem NameMap.insert_comm {α : Type} (map : NameMap α) {name other : String}
    (hne : name ≠ other) (a b : α) :
    (map.insert name a).insert other b = (map.insert other b).insert name a := by
  refine Std.ExtTreeMap.ext_getElem? fun key => ?_
  simp only [NameMap.getElem?_insert_name]
  by_cases hkey : name = key
  · subst hkey
    simp [hne.symm]
  · simp [hkey]

namespace RuleKind

variable {name : String} {description : Option String} {fields : List CustomField}

/-- Each field of a custom kind stores its text under its own name. -/
theorem exists_stored_of_mem {field : Field} (h : field ∈ (custom name description fields).fields) :
    ∃ type, field.slot = .stored field.name type := by
  obtain ⟨declared, -, rfl⟩ := List.mem_map.mp h
  exact ⟨declared.type, rfl⟩

theorem separate_custom : (custom name description fields).Separate := by
  constructor
  · intro field hfield _
    obtain ⟨type, hslot⟩ := exists_stored_of_mem hfield
    rw [hslot]
    refine Slot.overwrites_custom fun value value' set set' hset hset' texts => ?_
    obtain ⟨text, -, rfl⟩ := Option.map_eq_some_iff.mp hset
    obtain ⟨text', -, rfl⟩ := Option.map_eq_some_iff.mp hset'
    refine Std.ExtTreeMap.ext_getElem? fun key => ?_
    simp only [NameMap.getElem?_insert_name]
    split <;> rfl
  · intro field hfield other hother hne _
    obtain ⟨type, hslot⟩ := exists_stored_of_mem hfield
    obtain ⟨type', hslot'⟩ := exists_stored_of_mem hother
    rw [hslot, hslot']
    refine Slot.apart_custom fun value value' set set' hset hset' texts => ?_
    obtain ⟨text, -, rfl⟩ := Option.map_eq_some_iff.mp hset
    obtain ⟨text', -, rfl⟩ := Option.map_eq_some_iff.mp hset'
    exact NameMap.insert_comm texts hne text text'

/-- The text that settings of a custom kind store under a name. -/
def storedText? (name : String) : Settings → Option String
  | .custom rule => rule.text? name
  | _ => none

/-- A text that is stored is stored under one name. -/
theorem storedText?_of_write {field : Field} {type : FieldType}
    (hslot : field.slot = .stored field.name type) {value : Value} {settings settings' : Settings}
    (h : field.slot.write value settings = .done settings') :
    ∃ text, type.store value = some text ∧ ∀ name, storedText? name settings' =
      if field.name = name then some text else storedText? name settings := by
  rw [hslot] at h
  obtain ⟨texts, set, rfl, hset, rfl⟩ := Slot.exists_of_write_custom h
  obtain ⟨text, htext, rfl⟩ := Option.map_eq_some_iff.mp hset
  exact ⟨text, htext, fun name => NameMap.getElem?_insert_name texts field.name name text⟩

theorem owns_custom (field : String) :
    (custom name description fields).Owns field (storedText? field) := by
  constructor
  · intro settings hform other hne text
    rcases (custom name description fields).writes_or_keeps other text with
      ⟨f, hf, rfl, -, value, hm⟩ | hkeeps
    · obtain ⟨type, hslot⟩ := exists_stored_of_mem hf
      obtain ⟨stored, -, hstored⟩ := storedText?_of_write hslot (write_update hform hm)
      rw [hstored, if_neg hne]
    · rw [hkeeps _ hform]
  · intro s s' hform hform' hsame text
    rcases (custom name description fields).writes_or_keeps field text with
      ⟨f, hf, rfl, -, value, hm⟩ | hkeeps
    · obtain ⟨type, hslot⟩ := exists_stored_of_mem hf
      -- both settings store the text that the value yields
      obtain ⟨stored, htext, hstored⟩ := storedText?_of_write hslot (write_update hform hm)
      obtain ⟨stored', htext', hstored'⟩ := storedText?_of_write hslot (write_update hform' hm)
      rw [hstored, hstored', if_pos rfl, if_pos rfl, ← htext, ← htext']
    · rw [hkeeps _ hform, hkeeps _ hform']
      exact hsame

end RuleKind

end Rulebook
