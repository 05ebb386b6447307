/-
  Rulebook.Proofs.VariableIndependence

  The values of variables are no part of what a rule line says.  They are put in
  only after the line has been taken apart, so they decide neither whether the
  line names a kind nor which fields it assigns and marks; and a field none of
  whose values holds a placeholder is the same under all variables
  (`parse_under_variables`).
-/
import Rulebook.Kind.Custom
import Rulebook.Proofs.Assignment
import Rulebook.Proofs.RuleLine
import Rulebook.Proofs.Substitution

namespace Rulebook

section Variables

variable [Plugins]

/-! ## Parts of the settings under two updates -/

/-- A part of the settings holds something: the settings have the part, and it is no text
    that is absent. -/
def Slot.IsSet (slot : Slot) (settings : Settings) : Prop :=
  ∃ content, slot.read settings = some content ∧ content ≠ .text none

/-- What is written to a part that can be read is never an absent text. -/
theorem Slot.exists_content_iff {slot : Slot} {value : Value} (hholds : slot.holds value = true) :
    (∃ content, slot.content? value = some content ∧ content ≠ .text none) ↔
      ¬ slot.form.IsCustom := by
  constructor
  · rintro ⟨content, hcontent, -⟩ hcustom
    cases slot with
    | custom setter => cases hcontent
    | _ => exact hcustom
  · intro hslot
    obtain ⟨content, hcontent⟩ := Option.isSome_iff_exists.mp
      ((Slot.isSome_content? hslot value).trans hholds)
    refine ⟨content, hcontent, ?_⟩
    cases slot with
    | custom setter => cases hcontent
    | _ =>
      obtain ⟨a, -, rfl⟩ := Option.map_eq_some_iff.mp hcontent
      exact nofun

namespace RuleKind

variable {kind : RuleKind}

/-- Two texts that a field accepts set the same parts. -/
theorem isSet_update_iff {s s' : Settings} (hform : s.form = kind.form)
    (hform' : s'.form = kind.form) {field text text' : String}
    (haccepted : kind.refusal? field text = none)
    (haccepted' : kind.refusal? field text' = none) (slot : Slot)
    (hslot : slot.IsSet s ↔ slot.IsSet s') :
    slot.IsSet (kind.update s field text) ↔ slot.IsSet (kind.update s' field text') := by
  by_cases hm : ∃ target value, kind.meaning field text = .ok (some (target, value))
  · obtain ⟨target, value, hm⟩ := hm
    obtain ⟨value', hm'⟩ := exists_meaning_of_accepted hm haccepted'
    obtain ⟨-, -, -, -, hholds⟩ := field?_of_meaning hm
    obtain ⟨-, -, -, -, hholds'⟩ := field?_of_meaning hm'
    unfold Slot.IsSet at hslot ⊢
    rw [read_update hform, read_update hform', hm, hm']
    simp only
    split
    · rw [Slot.exists_content_iff hholds, Slot.exists_content_iff hholds']
    · exact hslot
  · -- neither text writes anything
    have hm' : ¬ ∃ target value, kind.meaning field text' = .ok (some (target, value)) := by
      rintro ⟨target, value, hm'⟩
      obtain ⟨value', hvalue'⟩ := exists_meaning_of_accepted hm' haccepted
      exact hm ⟨target, value', hvalue'⟩
    simp only [not_exists] at hm hm'
    rw [update_eq_self hform hm, update_eq_self hform' hm']
    exact hslot

/-- A view of the settings that one field of a kind has for itself: no other field changes what
    is seen, and what is seen after a text of the field depends on what was seen before. -/
structure Owns (kind : RuleKind) (name : String) {α : Type} (view : Settings → α) : Prop where
  update_of_ne : ∀ settings, settings.form = kind.form → ∀ other, other ≠ name → ∀ text,
    view (kind.update settings other text) = view settings
  update_congr : ∀ s s', s.form = kind.form → s'.form = kind.form → view s = view s' → ∀ text,
    view (kind.update s name text) = view (kind.update s' name text)

/-- The fields of a built-in kind have the parts that they write for themselves. -/
theorem Regular.owns (h : kind.Regular) {field : Field} (hfield : field ∈ kind.fields) :
    kind.Owns field.name field.slot.read where
  update_of_ne settings hform other hne text := h.read_update_of_ne hform hfield hne text
  update_congr s s' hform hform' hsame text := by
    rw [read_update hform, read_update hform', hsame]

variable (bindings bindings' : Variables)

/-- Templates that are accepted under two sets of variables set the same parts. -/
theorem isSet_updateAll_iff {s s' : Settings} (hform : s.form = kind.form)
    (hform' : s'.form = kind.form) {templates : List (String × String)}
    (haccepted : kind.firstRefusal? (bindings.valuesOf templates) = none)
    (haccepted' : kind.firstRefusal? (bindings'.valuesOf templates) = none) (slot : Slot)
    (hslot : slot.IsSet s ↔ slot.IsSet s') :
    slot.IsSet (kind.updateAll s (bindings.valuesOf templates)) ↔
      slot.IsSet (kind.updateAll s' (bindings'.valuesOf templates)) := by
  induction templates generalizing s s' with
  | nil => exact hslot
  | cons entry templates ih =>
    obtain ⟨field, template⟩ := entry
    simp only [Variables.valuesOf, List.map_cons, firstRefusal?_cons,
      Option.or_eq_none_iff] at haccepted haccepted'
    exact ih (form_update hform _ _) (form_update hform' _ _) haccepted.2 haccepted'.2
      (isSet_update_iff hform hform' haccepted.1 haccepted'.1 slot hslot)

/-- What a field has for itself is alike under two sets of variables, if its templates have no
    placeholders. -/
theorem Owns.view_updateAll_congr {name : String} {α : Type} {view : Settings → α}
    (h : kind.Owns name view) {s s' : Settings} (hform : s.form = kind.form)
    (hform' : s'.form = kind.form) {templates : List (String × String)}
    (hplain : ∀ entry ∈ templates, entry.1 = name →
      ¬ Variables.HasPlaceholder entry.2.toList)
    (hview : view s = view s') :
    view (kind.updateAll s (bindings.valuesOf templates)) =
      view (kind.updateAll s' (bindings'.valuesOf templates)) := by
  induction templates generalizing s s' with
  | nil => exact hview
  | cons entry templates ih =>
    obtain ⟨other, template⟩ := entry
    simp only [Variables.valuesOf, List.map_cons, updateAll_cons]
    refine ih (form_update hform _ _) (form_update hform' _ _)
      (fun entry hentry => hplain entry (List.mem_cons_of_mem _ hentry)) ?_
    by_cases hname : other = name
    · have hsame := Variables.substitute_eq_substitute bindings bindings'
        (hplain (other, template) (by simp) hname)
      rw [hsame, hname]
      exact h.update_congr s s' hform hform' hview _
    · rw [h.update_of_ne s hform other hname, h.update_of_ne s' hform' other hname]
      exact hview

end RuleKind

/-! ## Reading a line under two sets of variables -/

namespace Rule

/-- What the variables hold does not decide whether a line is empty or names a kind.  Rules
    that a line gives under two sets of variables have one kind, the same dynamic fields with
    the same templates, and the same parts set; both are made by the assignments of the line,
    whose texts alone depend on the variables.  What a field has for itself, as each field of a
    built-in kind has its part of the settings, is the same in both rules if none of the values
    that the line gives the field holds a placeholder. -/
theorem parse_under_variables (registry : Registry) (line : String)
    (bindings bindings' : Variables) :
    (parse registry bindings line = .error .emptyLine ↔
      parse registry bindings' line = .error .emptyLine) ∧
    (∀ name, parse registry bindings line = .error (.unknownKind name) ↔
      parse registry bindings' line = .error (.unknownKind name)) ∧
    (∀ rule rule', parse registry bindings line = .ok rule →
      parse registry bindings' line = .ok rule' →
      rule.kind = rule'.kind ∧ rule.dynamic = rule'.dynamic ∧
      (∀ slot : Slot, slot.IsSet rule.settings ↔ slot.IsSet rule'.settings) ∧
      ∀ definition, Line.Definition.read? line = some definition →
        (let made (bindings : Variables) : Settings := rule.kind.updateAll rule.kind.blank
          (bindings.valuesOf (definition.assignments.map (·.entry)))
        rule.settings = made bindings ∧ rule'.settings = made bindings') ∧
        ∀ (name : String) {α : Type} (view : Settings → α), rule.kind.Owns name view →
          (∀ a ∈ definition.assignments, a.field = name →
            ¬ Variables.HasPlaceholder a.template.toList) →
          view rule.settings = view rule'.settings) ∧
    ∀ kind ∈ RuleKind.builtins, ∀ field ∈ kind.fields, kind.Owns field.name field.slot.read := by
  refine ⟨?_, ?_, ?_, fun kind hkind field hfield =>
    (RuleKind.regular_of_mem_builtins hkind).owns hfield⟩
  · rw [parse_eq_emptyLine_iff, parse_eq_emptyLine_iff]
  · intro name
    rw [parse_eq_unknownKind_iff, parse_eq_unknownKind_iff]
  · intro rule rule' h h'
    -- both rules come from the same definition and kind, which do not know the variables
    obtain ⟨definition, kind, hread, hkind, haccepted, rfl⟩ := eq_of_parse h
    obtain ⟨definition', kind', hread', hkind', haccepted', rfl⟩ := eq_of_parse h'
    obtain rfl : definition = definition' := Option.some.inj (hread.symm.trans hread')
    obtain rfl : kind = kind' := Option.some.inj (hkind.symm.trans hkind')
    have hblank : kind.blank.form = kind.form := rfl
    refine ⟨rfl, rfl, fun slot => ?_, fun said hsaid => ?_⟩
    · exact RuleKind.isSet_updateAll_iff bindings bindings' hblank hblank haccepted haccepted'
        slot Iff.rfl
    · obtain rfl : definition = said := Option.some.inj (hread.symm.trans hsaid)
      refine ⟨⟨rfl, rfl⟩, fun name α view hview hplain => ?_⟩
      refine hview.view_updateAll_congr bindings bindings' hblank hblank ?_ rfl
      intro entry hentry hname
      obtain ⟨a, ha, rfl⟩ := List.mem_map.mp hentry
      exact hplain a ha hname

end Rule

end Variables

namespace Rule

/-- A value with blanks, a quote, dashes, a mark and braces is put into a message and a
    dynamic path.  The key stays as the line gives it. -/
theorem parse_under_variables_warning :
    let line := "warning --message '{x}' --key k --path$ {x}"
    let bindings : Variables := Std.ExtTreeMap.insert ∅ "x" "' --key$ {y} --path 'z"
    ∃ rule rule', parse .builtin ∅ line = .ok rule ∧ parse .builtin bindings line = .ok rule' ∧
      rule.kind = rule'.kind ∧ rule.dynamic = rule'.dynamic ∧
      Slot.issueKey.read rule.settings = Slot.issueKey.read rule'.settings := by
  intro line bindings
  have hread : Line.Definition.read? line = some ⟨"warning", [⟨"message", false, "{x}"⟩,
      ⟨"key", false, "k"⟩, ⟨"path", true, "{x}"⟩]⟩ := by decide +kernel
  have hkind : Registry.builtin.get? "warning" = some RuleKind.warning := rfl
  have haccepted : ∀ bindings : Variables, RuleKind.warning.firstRefusal?
      (bindings.valuesOf [("message", "{x}"), ("key", "k"), ("path", "{x}")]) = none :=
    fun _ => rfl
  have hparse := parse_eq hread hkind ∅
  have hparse' := parse_eq hread hkind bindings
  simp only [List.map_cons, List.map_nil, Line.Assignment.entry, haccepted] at hparse hparse'
  obtain ⟨-, -, hrules, hbuiltins⟩ := parse_under_variables .builtin line ∅ bindings
  obtain ⟨hkinds, hdynamic, -, hfields⟩ := hrules _ _ hparse hparse'
  have hkey : RuleKind.warning.Owns "key" Slot.issueKey.read :=
    hbuiltins .warning (by decide)
      { name := "key", description := "Defines the issue sorting key", required := true,
        slot := .issueKey } (by decide)
  refine ⟨_, _, hparse, hparse', hkinds, hdynamic, ?_⟩
  refine (hfields _ hread).2 "key" Slot.issueKey.read hkey ?_
  intro a ha hname
  simp only [List.mem_cons, List.not_mem_nil, or_false] at ha
  rcases ha with rfl | rfl | rfl
  · exact absurd hname (by decide)
  · exact Variables.not_hasPlaceholder_of_not_mem (by decide)
  · exact absurd hname (by decide)

end Rule

end Rulebook
