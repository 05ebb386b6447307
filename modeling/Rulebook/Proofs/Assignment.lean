/-
  Rulebook.Proofs.Assignment

  What assigning texts to fields leaves of the settings.  If the fields of a kind write apart
  from each other (`Separate`), updates of different fields commute, and the later of two updates
  of one field replaces the earlier.  In the built-in kinds each field has a part of the settings
  for itself (`Regular`): the part that a text writes holds what the text says, and all others
  what they held (`read_update`).
-/
import Rulebook.Proofs.Slots

namespace Rulebook.RuleKind

variable [Plugins] {kind : RuleKind}

/-! ## Fields that write apart -/

/-- The fields of a kind write parts of its settings for themselves: each overwrites what it
    wrote before, and none meets another. -/
structure Separate (kind : RuleKind) : Prop where
  overwrites : ∀ field ∈ kind.fields, field.slot.form = kind.form → field.slot.Overwrites
  apart : ∀ field ∈ kind.fields, ∀ other ∈ kind.fields, field.name ≠ other.name →
    field.slot.form = kind.form → field.slot.Apart other.slot

/-- Updates of different fields commute. -/
theorem Separate.update_comm (h : kind.Separate) {settings : Settings}
    (hform : settings.form = kind.form) {field other : String} (hne : field ≠ other)
    (text text' : String) :
    kind.update (kind.update settings field text) other text' =
      kind.update (kind.update settings other text') field text := by
  have hform₁ : (kind.update settings field text).form = kind.form := form_update hform _ _
  have hform₂ : (kind.update settings other text').form = kind.form := form_update hform _ _
  rcases kind.writes_or_keeps field text with ⟨f, hf, rfl, hslot, value, hm⟩ | hkeeps
  · rcases kind.writes_or_keeps other text' with ⟨g, hg, rfl, -, value', hm'⟩ | hkeeps
    · -- both ways write the same two values
      obtain ⟨s, hs, hwrite⟩ := h.apart f hf g hg hne hslot value value' settings _ _
        (write_update hform hm) (write_update hform₁ hm')
      rw [write_update hform hm', Written.done.injEq] at hs
      rw [← hs, write_update hform₂ hm, Written.done.injEq] at hwrite
      exact hwrite.symm
    · rw [hkeeps _ hform₁, hkeeps _ hform]
  · rw [hkeeps _ hform, hkeeps _ hform₂]

/-- An update that is not refused replaces what an earlier one of its field wrote. -/
theorem Separate.update_update (h : kind.Separate) {settings : Settings}
    (hform : settings.form = kind.form) {field text' : String}
    (haccepted : kind.refusal? field text' = none) (text : String) :
    kind.update (kind.update settings field text) field text' =
      kind.update settings field text' := by
  rcases kind.writes_or_keeps field text with ⟨f, hf, -, hslot, value, hm⟩ | hkeeps
  · obtain ⟨value', hm'⟩ := exists_meaning_of_accepted hm haccepted
    have hwrite := h.overwrites f hf hslot value value' settings _ _
      (write_update hform hm) (write_update (form_update hform _ _) hm')
    rw [write_update hform hm', Written.done.injEq] at hwrite
    exact hwrite.symm
  · rw [hkeeps _ hform]

/-- An update of a field commutes with updates of other fields. -/
theorem Separate.updateAll_update (h : kind.Separate) {settings : Settings}
    (hform : settings.form = kind.form) {field : String} (text : String)
    {values : List (String × String)} (hne : field ∉ values.map Prod.fst) :
    kind.updateAll (kind.update settings field text) values =
      kind.update (kind.updateAll settings values) field text := by
  induction values generalizing settings with
  | nil => rfl
  | cons value values ih =>
    obtain ⟨other, text'⟩ := value
    rw [List.map_cons, List.mem_cons, not_or] at hne
    have hcomm := h.update_comm hform hne.1 text text'
    calc kind.updateAll (kind.update settings field text) ((other, text') :: values)
        = kind.updateAll (kind.update (kind.update settings other text') field text) values :=
          congrArg (kind.updateAll · values) hcomm
      _ = kind.update (kind.updateAll settings ((other, text') :: values)) field text :=
          ih (form_update hform other text') hne.2

/-! ## Fields with parts to read -/

/-- Fields with names of their own, each of which has for itself a part of the settings that can
    be read. -/
structure Regular (kind : RuleKind) : Prop where
  not_custom : ¬ kind.form.IsCustom
  field?_name : ∀ field ∈ kind.fields, kind.field? field.name = some field
  slot_form : ∀ field ∈ kind.fields, field.slot.form = kind.form
  name_eq : ∀ field ∈ kind.fields, ∀ other ∈ kind.fields,
    field.slot = other.slot → field.name = other.name

theorem regular_of_mem_builtins (h : kind ∈ builtins) : kind.Regular := by
  have hregular : ∀ kind ∈ builtins, kind.Regular := by
    refine forall_mem_builtins.mpr ⟨?_, ?_, ?_, ?_, ?_⟩
    all_goals
      refine ⟨id, ?_, ?_, ?_⟩
      all_goals
        simp [guard, print, warning, problem, fileFilter, issueFields, field?, Slot.form, form,
          Settings.form]
  exact hregular kind h

theorem Regular.separate (h : kind.Regular) : kind.Separate where
  overwrites field hfield _ :=
    Slot.overwrites (h.slot_form field hfield ▸ h.not_custom)
  apart field hfield other hother hne _ :=
    Slot.apart (h.slot_form field hfield ▸ h.not_custom) fun hslot =>
      hne (h.name_eq field hfield other hother hslot)

theorem separate_of_mem_builtins (h : kind ∈ builtins) : kind.Separate :=
  (regular_of_mem_builtins h).separate

/-- Reading after an update: the part that the text writes holds what the text says. -/
theorem read_update {settings : Settings} (hform : settings.form = kind.form)
    (field text : String) (slot : Slot) :
    slot.read (kind.update settings field text) =
      match kind.meaning field text with
      | .ok (some (target, value)) =>
        if slot = target then target.content? value else slot.read settings
      | _ => slot.read settings := by
  rcases hm : kind.meaning field text with e | _ | ⟨target, value⟩
  · rw [update_eq_self hform (by simp [hm])]
  · rw [update_eq_self hform (by simp [hm])]
  · exact Slot.read_write (write_update hform hm) slot

/-- An update leaves the parts of all other fields as they are. -/
theorem Regular.read_update_of_ne (h : kind.Regular) {settings : Settings}
    (hform : settings.form = kind.form) {field : Field} (hfield : field ∈ kind.fields)
    {other : String} (hne : other ≠ field.name) (text : String) :
    field.slot.read (kind.update settings other text) = field.slot.read settings := by
  rw [read_update hform]
  rcases hm : kind.meaning other text with e | _ | ⟨target, value⟩
  · rfl
  · rfl
  · obtain ⟨f, hother, rfl, -⟩ := field?_of_meaning hm
    obtain ⟨hf, rfl⟩ := mem_of_field? hother
    exact if_neg fun hslot => hne (h.name_eq field hfield f hf hslot).symm

/-- Updates of other fields leave the part of a field as it is. -/
theorem Regular.read_updateAll_of_not_mem (h : kind.Regular) {field : Field}
    (hfield : field ∈ kind.fields) {settings : Settings} (hform : settings.form = kind.form)
    {values : List (String × String)} (hvalues : field.name ∉ values.map Prod.fst) :
    field.slot.read (kind.updateAll settings values) = field.slot.read settings := by
  induction values generalizing settings with
  | nil => rfl
  | cons value values ih =>
    rw [List.map_cons, List.mem_cons, not_or] at hvalues
    rw [updateAll_cons, ih (form_update hform _ _) hvalues.2,
      h.read_update_of_ne hform hfield (Ne.symm hvalues.1)]

end Rulebook.RuleKind
