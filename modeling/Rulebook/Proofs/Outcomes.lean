/-
  Rulebook.Proofs.Outcomes

  What comes of writing a slot and of assigning a text to a field, whatever the plugins do.
  Writing fails where the form of the settings is another one or the slot does not hold the
  value, and keeps the form otherwise (`Slot.form_of_write`).  So whether a text is refused does
  not depend on the settings (`refusal?`), and assigning many fields in order ends with the
  first refusal, or else with settings that all of them have updated (`foldlM_assign`).
-/
import Rulebook.Kind.Builtin

namespace Rulebook

variable [Plugins]

/-! ## Writing a slot -/

/-- The kind of issue that the settings record.  No slot writes it. -/
def Settings.issueKind? : Settings → Option IssueKind
  | issue s => some s.kind
  | _ => none

theorem Written.ofPart_eq_done_iff {α : Type} {build : α → Settings} {part : Option α}
    {settings : Settings} :
    ofPart build part = .done settings ↔ ∃ a, part = some a ∧ settings = build a := by
  cases part <;> simp [ofPart, eq_comm]

theorem Written.ofPart_eq_outOfRange_iff {α : Type} {build : α → Settings} {part : Option α} :
    ofPart build part = .outOfRange ↔ part = none := by
  cases part <;> simp [ofPart]

namespace Slot

variable {slot : Slot} {value : Value} {settings settings' : Settings}

/-- Whether a slot holds a value. -/
def holds (slot : Slot) (value : Value) : Bool :=
  match slot with
  | guardInverse | filterFile | filterFolder | filterInverse | filterChildrenFiles
  | filterChildrenFolders => value.boolean?.isSome
  | custom setter => (Plugins.set? setter value).isSome
  | _ => value.string?.isSome

/-- In rules of its concrete type a setter writes each value that fits. -/
theorem writeCustom_custom (rule : PluginRule) (setter : Plugins.Setter rule.type) :
    (custom setter).writeCustom rule value =
      .ofPart (fun set => .custom ⟨rule.type, set rule.state⟩) (Plugins.set? setter value) := by
  rw [writeCustom, rule.as?_type]

theorem write_custom {type : String} (setter : Plugins.Setter type) (value : Value)
    (state : Plugins.State type) :
    (custom setter).write value (.custom ⟨type, state⟩) =
      .ofPart (fun set => .custom ⟨type, set state⟩) (Plugins.set? setter value) :=
  writeCustom_custom ⟨type, state⟩ setter

theorem write_of_form_ne (h : slot.form ≠ settings.form) :
    slot.write value settings = .otherForm := by
  cases settings with
  | custom rule =>
    cases slot with
    | @custom type setter =>
      -- setters are told apart by the concrete type of the rules that they write
      have htype : rule.type ≠ type := fun e => h (congrArg Form.custom e.symm)
      rw [write, writeCustom, PluginRule.as?_eq_none_iff.mpr htype]
    | _ => rfl
  | _ => cases slot <;> first | rfl | exact absurd rfl h

theorem write_of_not_holds (hform : slot.form = settings.form) (h : slot.holds value = false) :
    slot.write value settings = .outOfRange := by
  cases settings with
  | custom rule =>
    cases slot <;> cases hform
    rw [write, writeCustom_custom]
    exact Written.ofPart_eq_outOfRange_iff.mpr (by simpa [holds] using h)
  | _ =>
    cases slot <;> cases hform
    all_goals exact Written.ofPart_eq_outOfRange_iff.mpr (by simpa [holds] using h)

theorem exists_write_of_holds (hform : slot.form = settings.form) (h : slot.holds value = true) :
    ∃ settings', slot.write value settings = .done settings' := by
  cases settings with
  | custom rule =>
    cases slot <;> cases hform
    obtain ⟨set, hset⟩ := Option.isSome_iff_exists.mp h
    rw [write, writeCustom_custom]
    exact ⟨_, Written.ofPart_eq_done_iff.mpr ⟨set, hset, rfl⟩⟩
  | _ =>
    cases slot <;> cases hform
    all_goals
      obtain ⟨part, hpart⟩ := Option.isSome_iff_exists.mp h
      exact ⟨_, Written.ofPart_eq_done_iff.mpr ⟨part, hpart, rfl⟩⟩

/-- A value does not fit a slot exactly if the settings have the slot, and it does not hold the
    value. -/
theorem write_eq_outOfRange_iff :
    slot.write value settings = .outOfRange ↔
      slot.form = settings.form ∧ slot.holds value = false := by
  by_cases hform : slot.form = settings.form
  · cases hholds : slot.holds value with
    | false => simp [hform, write_of_not_holds hform hholds]
    | true =>
      obtain ⟨settings', hwrite⟩ := exists_write_of_holds hform hholds
      simp [hform, hwrite]
  · simp [hform, write_of_form_ne hform]

/-- What is written has the form of the slot, before and afterwards. -/
theorem form_of_write (h : slot.write value settings = .done settings') :
    slot.form = settings.form ∧ settings'.form = settings.form ∧
      settings'.issueKind? = settings.issueKind? := by
  have hform : slot.form = settings.form := by
    refine Decidable.byContradiction fun hne => ?_
    cases (write_of_form_ne hne).symm.trans h
  refine ⟨hform, ?_⟩
  cases settings with
  | custom rule =>
    cases slot <;> cases hform
    rw [write, writeCustom_custom] at h
    obtain ⟨set, -, rfl⟩ := Written.ofPart_eq_done_iff.mp h
    exact ⟨rfl, rfl⟩
  | _ =>
    cases slot <;> cases hform
    all_goals
      obtain ⟨part, -, rfl⟩ := Written.ofPart_eq_done_iff.mp h
      exact ⟨rfl, rfl⟩

end Slot

namespace RuleKind

variable {kind : RuleKind} {settings : Settings}

/-! ## One assignment -/

theorem field?_eq_none_iff {name : String} :
    kind.field? name = none ↔ ∀ field ∈ kind.fields, field.name ≠ name := by
  simp [field?, List.find?_eq_none]

theorem mem_of_field? {name : String} {field : Field} (h : kind.field? name = some field) :
    field ∈ kind.fields ∧ field.name = name :=
  ⟨List.mem_of_find?_eq_some h, by simpa using List.find?_some h⟩

theorem assign_of_undeclared {name : String} (h : ∀ field ∈ kind.fields, field.name ≠ name)
    (settings : Settings) (text : String) : kind.assign settings name text = .ok none := by
  simp only [assign, field?_eq_none_iff.mpr h]

/-- What a text says as the value of a field: the slot and the value that is written, or
    nothing if the kind has no such field, or one that is no part of its settings. -/
def meaning (kind : RuleKind) (field text : String) :
    Except CoercionError (Option (Slot × Value)) :=
  match kind.field? field with
  | none => .ok none
  | some f =>
    match f.kind.coerce text with
    | none => .error ⟨field, text, f.kind⟩
    | some value =>
      if f.slot.form = kind.form then
        if f.slot.holds value then .ok (some (f.slot, value)) else .error ⟨field, text, f.kind⟩
      else .ok none

/-- The error of a text that a field refuses. -/
def refusal? (kind : RuleKind) (field text : String) : Option CoercionError :=
  match kind.meaning field text with
  | .error e => some e
  | .ok _ => none

/-- The settings after an assignment: unchanged if it writes nothing. -/
def update (kind : RuleKind) (settings : Settings) (field text : String) : Settings :=
  match kind.assign settings field text with
  | .ok (some settings') => settings'
  | _ => settings

/-- An assignment to settings of the form of the kind does what the text says. -/
theorem assign_spec (hform : settings.form = kind.form) (field text : String) :
    (∃ e, kind.meaning field text = .error e ∧ kind.assign settings field text = .error e) ∨
    (kind.meaning field text = .ok none ∧ kind.assign settings field text = .ok none) ∨
    ∃ slot value settings', kind.meaning field text = .ok (some (slot, value)) ∧
      kind.assign settings field text = .ok (some settings') ∧
      slot.write value settings = .done settings' := by
  cases hfield : kind.field? field with
  | none => exact .inr (.inl ⟨by simp [meaning, hfield], by simp [assign, hfield]⟩)
  | some f =>
    cases hvalue : f.kind.coerce text with
    | none =>
      refine .inl ⟨⟨field, text, f.kind⟩, ?_, by simp [assign, hfield, hvalue]⟩
      simp [meaning, hfield, hvalue]
    | some value =>
      by_cases hslot : f.slot.form = kind.form
      · have hslot' : f.slot.form = settings.form := hslot.trans hform.symm
        cases hholds : f.slot.holds value with
        | false =>
          have hwrite := Slot.write_of_not_holds hslot' hholds
          refine .inl ⟨⟨field, text, f.kind⟩, ?_, by simp [assign, hfield, hvalue, hwrite]⟩
          simp [meaning, hfield, hvalue, hslot, hholds]
        | true =>
          obtain ⟨settings', hwrite⟩ := Slot.exists_write_of_holds hslot' hholds
          refine .inr (.inr ⟨f.slot, value, settings', ?_, ?_, hwrite⟩)
          · simp [meaning, hfield, hvalue, hslot, hholds]
          · simp [assign, hfield, hvalue, hwrite]
      · have hwrite : f.slot.write value settings = .otherForm :=
          Slot.write_of_form_ne (hform ▸ hslot)
        refine .inr (.inl ⟨?_, by simp [assign, hfield, hvalue, hwrite]⟩)
        simp [meaning, hfield, hvalue, hslot]

theorem refusal?_eq_some_iff {field text : String} {e : CoercionError} :
    kind.refusal? field text = some e ↔ kind.meaning field text = .error e := by
  unfold refusal?
  split <;> simp_all

/-- An assignment either is refused or updates the settings. -/
theorem map_assign (hform : settings.form = kind.form) (field text : String) :
    (kind.assign settings field text).map (·.getD settings) =
      match kind.refusal? field text with
      | some e => .error e
      | none => .ok (kind.update settings field text) := by
  unfold refusal? update
  rcases assign_spec hform field text with ⟨e, hm, ha⟩ | ⟨hm, ha⟩ |
    ⟨slot, value, settings', hm, ha, -⟩
  · simp [hm, ha, Except.map]
  · simp [hm, ha, Except.map]
  · simp [hm, ha, Except.map]

theorem form_update (hform : settings.form = kind.form) (field text : String) :
    (kind.update settings field text).form = kind.form := by
  unfold update
  rcases assign_spec hform field text with ⟨e, hm, ha⟩ | ⟨hm, ha⟩ |
    ⟨slot, value, settings', hm, ha, hwrite⟩
  · simp [ha, hform]
  · simp [ha, hform]
  · simp [ha, (Slot.form_of_write hwrite).2.1, hform]

theorem issueKind?_update (hform : settings.form = kind.form) (field text : String) :
    (kind.update settings field text).issueKind? = settings.issueKind? := by
  unfold update
  rcases assign_spec hform field text with ⟨e, hm, ha⟩ | ⟨hm, ha⟩ |
    ⟨slot, value, settings', hm, ha, hwrite⟩
  · simp [ha]
  · simp [ha]
  · simp [ha, (Slot.form_of_write hwrite).2.2]

/-- A text that writes does so through the slot of the field of that name. -/
theorem field?_of_meaning {field text : String} {slot : Slot} {value : Value}
    (h : kind.meaning field text = .ok (some (slot, value))) :
    ∃ f, kind.field? field = some f ∧ f.slot = slot ∧ slot.form = kind.form ∧
      slot.holds value = true := by
  unfold meaning at h
  cases hfield : kind.field? field with
  | none => simp [hfield] at h
  | some f =>
    refine ⟨f, rfl, ?_⟩
    simp only [hfield] at h
    split at h
    · cases h
    · split at h
      · next hform =>
        split at h
        · next hholds =>
          cases h
          exact ⟨rfl, hform, hholds⟩
        · cases h
      · cases h

/-- Every text writes or is refused, if its field is a part of the settings. -/
theorem meaning_ne_ok_none {name : String} {field : Field} (hfield : kind.field? name = some field)
    (hslot : field.slot.form = kind.form) (text : String) : kind.meaning name text ≠ .ok none := by
  intro h
  simp only [meaning, hfield, hslot, if_true] at h
  split at h
  · cases h
  · split at h <;> cases h

/-- If one text writes nothing, no text of the field does. -/
theorem meaning_ne_of_meaning_eq_none {field text text' : String} {slot : Slot} {value : Value}
    (h : kind.meaning field text = .ok none) :
    kind.meaning field text' ≠ .ok (some (slot, value)) := by
  intro h'
  obtain ⟨f, hfield, rfl, hform, -⟩ := field?_of_meaning h'
  exact meaning_ne_ok_none hfield hform text h

/-- If one text writes a slot, each that is not refused writes the same slot. -/
theorem exists_meaning_of_accepted {field text text' : String} {slot : Slot} {value : Value}
    (h : kind.meaning field text = .ok (some (slot, value)))
    (haccepted : kind.refusal? field text' = none) :
    ∃ value', kind.meaning field text' = .ok (some (slot, value')) := by
  -- the other text is of the same field, so it can neither be refused nor be ignored
  rcases hm : kind.meaning field text' with e | _ | ⟨slot', value'⟩
  · rw [refusal?_eq_some_iff.mpr hm] at haccepted
    cases haccepted
  · exact absurd h (meaning_ne_of_meaning_eq_none hm)
  · obtain ⟨f, hf, rfl, -⟩ := field?_of_meaning h
    obtain ⟨g, hg, rfl, -⟩ := field?_of_meaning hm
    obtain rfl : f = g := Option.some.inj (hf.symm.trans hg)
    exact ⟨value', rfl⟩

/-- An update writes the value of its text, if this has one. -/
theorem write_update (hform : settings.form = kind.form) {field text : String} {slot : Slot}
    {value : Value} (h : kind.meaning field text = .ok (some (slot, value))) :
    slot.write value settings = .done (kind.update settings field text) := by
  unfold update
  rcases assign_spec hform field text with ⟨e, hm, -⟩ | ⟨hm, -⟩ |
    ⟨slot', value', settings', hm, ha, hwrite⟩
  · cases h.symm.trans hm
  · cases h.symm.trans hm
  · cases h.symm.trans hm
    rw [ha]
    exact hwrite

/-- An update without a value to write changes nothing. -/
theorem update_eq_self (hform : settings.form = kind.form) {field text : String}
    (h : ∀ slot value, kind.meaning field text ≠ .ok (some (slot, value))) :
    kind.update settings field text = settings := by
  unfold update
  rcases assign_spec hform field text with ⟨e, -, ha⟩ | ⟨-, ha⟩ | ⟨slot, value, -, hm, -⟩
  · rw [ha]
  · rw [ha]
  · exact absurd hm (h slot value)

/-- A text writes through the field of its name, or updates no settings of the kind. -/
theorem writes_or_keeps (kind : RuleKind) (name text : String) :
    (∃ field ∈ kind.fields, field.name = name ∧ field.slot.form = kind.form ∧
      ∃ value, kind.meaning name text = .ok (some (field.slot, value))) ∨
    ∀ settings : Settings, settings.form = kind.form →
      kind.update settings name text = settings := by
  by_cases hm : ∃ slot value, kind.meaning name text = .ok (some (slot, value))
  · obtain ⟨slot, value, hm⟩ := hm
    obtain ⟨field, hfield, rfl, hform, -⟩ := field?_of_meaning hm
    obtain ⟨hmem, hname⟩ := mem_of_field? hfield
    exact .inl ⟨field, hmem, hname, hform, value, hm⟩
  · simp only [not_exists] at hm
    exact .inr fun settings hform => update_eq_self hform hm

/-! ## Many assignments -/

/-- The settings after assignments of texts to fields, in order. -/
def updateAll (kind : RuleKind) (settings : Settings) (values : List (String × String)) :
    Settings :=
  values.foldl (fun settings value => kind.update settings value.1 value.2) settings

/-- The first error among the texts that are refused. -/
def firstRefusal? (kind : RuleKind) (values : List (String × String)) : Option CoercionError :=
  values.findSome? fun value => kind.refusal? value.1 value.2

@[simp] theorem updateAll_nil (settings : Settings) : kind.updateAll settings [] = settings := rfl

@[simp] theorem updateAll_cons (settings : Settings) (value : String × String)
    (values : List (String × String)) :
    kind.updateAll settings (value :: values) =
      kind.updateAll (kind.update settings value.1 value.2) values := rfl

@[simp] theorem firstRefusal?_cons (value : String × String) (values : List (String × String)) :
    kind.firstRefusal? (value :: values) =
      (kind.refusal? value.1 value.2).or (kind.firstRefusal? values) := by
  unfold firstRefusal?
  rw [List.findSome?_cons]
  cases kind.refusal? value.1 value.2 <;> rfl

theorem firstRefusal?_eq_none_iff {values : List (String × String)} :
    kind.firstRefusal? values = none ↔
      ∀ value ∈ values, kind.refusal? value.1 value.2 = none :=
  List.findSome?_eq_none_iff

theorem form_updateAll {values : List (String × String)}
    (hform : settings.form = kind.form) :
    (kind.updateAll settings values).form = kind.form := by
  induction values generalizing settings with
  | nil => exact hform
  | cons value values ih => exact ih (form_update hform _ _)

theorem issueKind?_updateAll (hform : settings.form = kind.form)
    (values : List (String × String)) :
    (kind.updateAll settings values).issueKind? = settings.issueKind? := by
  induction values generalizing settings with
  | nil => rfl
  | cons value values ih => rw [updateAll_cons, ih (form_update hform _ _), issueKind?_update hform]

/-- Assignments in order end with the first refusal, or else update the settings. -/
theorem foldlM_assign (hform : settings.form = kind.form)
    (values : List (String × String)) :
    values.foldlM (fun (settings : Settings) (value : String × String) =>
        (kind.assign settings value.1 value.2).map (·.getD settings)) settings =
      match kind.firstRefusal? values with
      | some e => .error e
      | none => .ok (kind.updateAll settings values) := by
  induction values generalizing settings with
  | nil => rfl
  | cons value values ih =>
    obtain ⟨field, text⟩ := value
    rw [List.foldlM_cons, firstRefusal?, List.findSome?_cons]
    simp only [map_assign hform]
    cases hrefusal : kind.refusal? field text with
    | some e => rfl
    | none => exact ih (form_update hform field text)

end RuleKind

end Rulebook
