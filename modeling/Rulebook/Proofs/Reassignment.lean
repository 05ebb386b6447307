/-
  Rulebook.Proofs.Reassignment

  Fields that a line assigns more than once.  A rule holds for each field the value of
  the last assignment to it.  Resolving the rule puts the value of the last dynamic
  assignment in its place, also where an assignment that is not dynamic came later.  So
  under the variables of the line the rule stays as it is exactly if these values are
  the same (`resolve_unchanged_variables`).
-/
import Rulebook.Kind.Custom
import Rulebook.Proofs.Assignment
import Rulebook.Proofs.Builtin
import Rulebook.Proofs.DynamicTable

namespace Rulebook

open Line (Assignment)

/-! ## The last entry under a name -/

namespace Roster

variable {α : Type}

/-- The last value that a list of entries gives a name. -/
def lastIn (name : String) (entries : List (String × α)) : Option α :=
  (entries.filter (·.1 == name)).getLast?.map Prod.snd

theorem lastIn_append (name : String) (entries later : List (String × α)) :
    lastIn name (entries ++ later) = (lastIn name later).or (lastIn name entries) := by
  unfold lastIn
  rw [List.filter_append, List.getLast?_append]
  cases (later.filter (·.1 == name)).getLast? <;> rfl

theorem lastIn_cons (name : String) (entry : String × α) (entries : List (String × α)) :
    lastIn name (entry :: entries) =
      (lastIn name entries).or (if entry.1 = name then some entry.2 else none) := by
  have hsingle : lastIn name [entry] = if entry.1 = name then some entry.2 else none := by
    by_cases h : entry.1 = name <;> simp [lastIn, h]
  rw [← List.singleton_append, lastIn_append, hsingle]

theorem mem_of_lastIn_eq_some {name : String} {value : α} {entries : List (String × α)}
    (h : lastIn name entries = some value) : (name, value) ∈ entries := by
  obtain ⟨entry, hlast, rfl⟩ := Option.map_eq_some_iff.mp h
  obtain ⟨hmem, hname⟩ := List.mem_filter.mp (List.mem_of_getLast? hlast)
  rw [← eq_of_beq hname]
  exact hmem

theorem exists_lastIn_of_mem {name : String} {value : α} {entries : List (String × α)}
    (h : (name, value) ∈ entries) : ∃ last, lastIn name entries = some last := by
  induction entries with
  | nil => cases h
  | cons entry entries ih =>
    rw [lastIn_cons]
    cases hlast : lastIn name entries with
    | some last => exact ⟨last, rfl⟩
    | none =>
      rcases List.mem_cons.mp h with rfl | h
      · exact ⟨value, by simp⟩
      · obtain ⟨last, hsome⟩ := ih h
        rw [hlast] at hsome
        cases hsome

theorem lastIn_of_not_mem {name : String} {entries : List (String × α)}
    (h : name ∉ entries.map Prod.fst) : lastIn name entries = none := by
  cases hlast : lastIn name entries with
  | none => rfl
  | some value => exact absurd (List.mem_map_of_mem (mem_of_lastIn_eq_some hlast)) h

/-- In a roster a name has one value, which is its last. -/
theorem lastIn_entries (roster : Roster α) (name : String) :
    lastIn name roster.entries = roster.get? name := by
  obtain ⟨entries, hnodup⟩ := roster
  show lastIn name entries = lookupIn entries name
  induction entries with
  | nil => rfl
  | cons entry entries ih =>
    rw [List.map_cons, List.nodup_cons] at hnodup
    rw [lastIn_cons]
    by_cases h : entry.1 = name
    · rw [lastIn_of_not_mem (h ▸ hnodup.1)]
      simp [lookupIn, h]
    · rw [ih hnodup.2]
      simp [lookupIn, h]

/-- A roster that was filled from a list has the last value that the list gives a name. -/
theorem get?_foldl_set_empty (entries : List (String × α)) (name : String) :
    (entries.foldl (fun roster entry => roster.set entry.1 entry.2) (∅ : Roster α)).get? name =
      lastIn name entries := by
  have hempty : (∅ : Roster α).get? name = none := rfl
  rw [get?_foldl_set, hempty, Option.or_none, lastIn]

end Roster

open Roster (lastIn)

/-- The template that is kept for a field is that of its last dynamic assignment. -/
theorem Rule.get?_templatesAfter_empty (assignments : List Assignment) (field : String) :
    (templatesAfter ∅ assignments).get? field =
      lastIn field ((assignments.filter (·.dynamic)).map (·.entry)) := by
  have hempty : (∅ : Roster String).get? field = none := rfl
  rw [get?_templatesAfter, hempty, Option.or_none, lastIn, List.filter_map, List.getLast?_map,
    Option.map_map, List.filter_filter]
  simp only [Bool.and_comm, Function.comp_def, Assignment.entry]

/-- A field with a dynamic assignment has a last assignment. -/
theorem Rule.exists_lastIn_of_dynamic {assignments : List Assignment} {field template : String}
    (h : lastIn field ((assignments.filter (·.dynamic)).map (·.entry)) = some template) :
    ∃ final, lastIn field (assignments.map (·.entry)) = some final := by
  obtain ⟨a, ha, he⟩ := List.mem_map.mp (Roster.mem_of_lastIn_eq_some h)
  exact Roster.exists_lastIn_of_mem (List.mem_map.mpr ⟨a, (List.mem_filter.mp ha).1, he⟩)

section Holding

variable [Plugins]

/-! ## What a field holds -/

/-- What the part that a field writes holds once the field was given a text; nothing if
    the field refuses the text. -/
def Field.content? (field : Field) (text : String) : Option Content :=
  (field.kind.coerce text).bind field.slot.content?

/-- A field of texts of a built-in rule holds the text with backslashes for slashes. -/
theorem Field.content?_of_string {field : Field} (h : field.kind = .string)
    (hslot : ¬ field.slot.form.IsCustom) (text : String) :
    field.content? text = some (.text (some (separatorsUnified text))) := by
  rw [Field.content?, h, FieldKind.coerce, Option.bind_some]
  unfold Field.kind at h
  cases hslot' : field.slot with
  | custom setter => simp [hslot', Slot.form, Form.IsCustom] at hslot
  | _ => simp_all [Slot.kind, Slot.content?, Value.string?]

/-- A field of truth values of a built-in rule holds the value of the text. -/
theorem Field.content?_of_boolean {field : Field} (h : field.kind = .boolean)
    (hslot : ¬ field.slot.form.IsCustom) (text : String) :
    field.content? text = (truth? (Text.trimmed text.toList)).map .truth := by
  rw [Field.content?, h, FieldKind.coerce]
  unfold Field.kind at h
  cases truth? (Text.trimmed text.toList) with
  | none => rfl
  | some b =>
    cases hslot' : field.slot with
    | custom setter => simp [hslot', Slot.form, Form.IsCustom] at hslot
    | _ => simp_all [Slot.kind, Slot.content?, Value.boolean?]

namespace RuleKind

variable {kind : RuleKind}

/-- The slots of such a kind are none of plugins. -/
theorem Regular.slot_not_custom (h : kind.Regular) {field : Field} (hfield : field ∈ kind.fields) :
    ¬ field.slot.form.IsCustom :=
  h.slot_form field hfield ▸ h.not_custom

theorem Regular.meaning_name (h : kind.Regular) {field : Field} (hfield : field ∈ kind.fields)
    (text : String) :
    kind.meaning field.name text =
      match (field.kind.coerce text).filter field.slot.holds with
      | some value => .ok (some (field.slot, value))
      | none => .error ⟨field.name, text, field.kind⟩ := by
  simp only [meaning, h.field?_name field hfield, h.slot_form field hfield, if_true]
  cases field.kind.coerce text with
  | none => rfl
  | some value => cases hholds : field.slot.holds value <;> simp [Option.filter, hholds]

/-- A text with a content is written. -/
theorem Regular.exists_meaning_name (h : kind.Regular) {field : Field}
    (hfield : field ∈ kind.fields) {text : String} {content : Content}
    (htext : field.content? text = some content) :
    ∃ value, field.slot.content? value = some content ∧
      kind.meaning field.name text = .ok (some (field.slot, value)) := by
  obtain ⟨value, hvalue, hcontent⟩ := Option.bind_eq_some_iff.mp htext
  have hholds : field.slot.holds value = true := by
    rw [← Slot.isSome_content? (h.slot_not_custom hfield), hcontent]
    rfl
  exact ⟨value, hcontent, by rw [h.meaning_name hfield, hvalue, Option.filter, if_pos hholds]⟩

/-- A text without one is refused. -/
theorem Regular.refusal?_name (h : kind.Regular) {field : Field} (hfield : field ∈ kind.fields)
    {text : String} (htext : field.content? text = none) :
    kind.refusal? field.name text = some ⟨field.name, text, field.kind⟩ := by
  refine refusal?_eq_some_iff.mpr ?_
  rw [h.meaning_name hfield]
  cases hvalue : field.kind.coerce text with
  | none => rfl
  | some value =>
    rw [Field.content?, hvalue, Option.bind_some] at htext
    have hholds : field.slot.holds value = false := by
      rw [← Slot.isSome_content? (h.slot_not_custom hfield), htext]
      rfl
    simp [Option.filter, hholds]

theorem Regular.read_update_name (h : kind.Regular) {field : Field} (hfield : field ∈ kind.fields)
    {settings : Settings} (hform : settings.form = kind.form) {text : String}
    (haccepted : kind.refusal? field.name text = none) :
    field.slot.read (kind.update settings field.name text) = field.content? text := by
  rw [read_update hform]
  cases htext : field.content? text with
  | some content =>
    obtain ⟨value, hcontent, hmeaning⟩ := h.exists_meaning_name hfield htext
    simp [hmeaning, hcontent]
  | none =>
    rw [h.refusal?_name hfield htext] at haccepted
    cases haccepted

/-- A field holds what the last text that it was given says, if it was given one. -/
theorem Regular.read_updateAll (h : kind.Regular) {field : Field} (hfield : field ∈ kind.fields)
    {settings : Settings} (hform : settings.form = kind.form) (bindings : Variables)
    {templates : List (String × String)}
    (haccepted : kind.firstRefusal? (bindings.valuesOf templates) = none) :
    field.slot.read (kind.updateAll settings (bindings.valuesOf templates)) =
      (lastIn field.name templates).elim (field.slot.read settings)
        fun template => field.content? (bindings.substitute template) := by
  induction templates generalizing settings with
  | nil => rfl
  | cons entry templates ih =>
    obtain ⟨name, template⟩ := entry
    simp only [Variables.valuesOf, List.map_cons, firstRefusal?_cons,
      Option.or_eq_none_iff] at haccepted
    have hrest := ih (form_update hform name (bindings.substitute template)) haccepted.2
    simp only [Variables.valuesOf, List.map_cons, updateAll_cons] at hrest ⊢
    rw [hrest, Roster.lastIn_cons]
    cases lastIn field.name templates with
    | some last => rfl
    | none =>
      -- no later entry is for the field, so it holds what this one leaves
      by_cases hname : name = field.name
      · subst hname
        simpa using h.read_update_name hfield hform haccepted.1
      · simpa [hname] using h.read_update_of_ne hform hfield hname _

/-- Parts that no field writes are left as they are. -/
theorem read_updateAll_of_slot_ne {settings : Settings} (hform : settings.form = kind.form)
    {slot : Slot} (hslot : ∀ field ∈ kind.fields, slot ≠ field.slot)
    (values : List (String × String)) :
    slot.read (kind.updateAll settings values) = slot.read settings := by
  induction values generalizing settings with
  | nil => rfl
  | cons value values ih =>
    obtain ⟨name, text⟩ := value
    rw [updateAll_cons, ih (form_update hform name text), read_update hform]
    rcases hm : kind.meaning name text with e | _ | ⟨target, value⟩
    · rfl
    · rfl
    · obtain ⟨field, hfield, rfl, -⟩ := field?_of_meaning hm
      exact if_neg (hslot field (mem_of_field? hfield).1)

/-- Updates change nothing if they change no field. -/
theorem Regular.updateAll_eq_self_iff (h : kind.Regular) {settings : Settings}
    (hform : settings.form = kind.form) (values : List (String × String)) :
    kind.updateAll settings values = settings ↔
      ∀ field ∈ kind.fields,
        field.slot.read (kind.updateAll settings values) = field.slot.read settings := by
  constructor
  · intro hsame field _
    rw [hsame]
  · intro hread
    refine Settings.eq_of_read ?_ ?_ (issueKind?_updateAll hform values) fun slot => ?_
    · rw [hform]
      exact h.not_custom
    · rw [form_updateAll hform, hform]
    · by_cases hslot : ∃ field ∈ kind.fields, slot = field.slot
      · obtain ⟨field, hfield, rfl⟩ := hslot
        exact hread field hfield
      · refine read_updateAll_of_slot_ne hform (fun field hfield hsame => ?_) values
        exact hslot ⟨field, hfield, hsame⟩

end RuleKind

/-! ## Reading and resolving under the same variables -/

namespace Rule

/-- The templates that are kept are accepted where the line is. -/
theorem firstRefusal?_templatesAfter {kind : RuleKind} {bindings : Variables}
    {assignments : List Assignment}
    (h : kind.firstRefusal? (bindings.valuesOf (assignments.map (·.entry))) = none) :
    kind.firstRefusal? (bindings.valuesOf (templatesAfter ∅ assignments).entries) = none := by
  refine RuleKind.firstRefusal?_eq_none_iff.mpr fun value hvalue => ?_
  obtain ⟨⟨field, template⟩, hentry, rfl⟩ := List.mem_map.mp hvalue
  have hlast : lastIn field ((assignments.filter (·.dynamic)).map (·.entry)) = some template := by
    rw [← get?_templatesAfter_empty]
    exact Roster.get?_of_mem hentry
  obtain ⟨a, ha, he⟩ := List.mem_map.mp (Roster.mem_of_lastIn_eq_some hlast)
  -- the line has given the field this text, and the field has taken it
  have hmem : (field, bindings.substitute template) ∈
      bindings.valuesOf (assignments.map (·.entry)) :=
    List.mem_map.mpr ⟨(field, template),
      List.mem_map.mpr ⟨a, (List.mem_filter.mp ha).1, he⟩, rfl⟩
  exact RuleKind.firstRefusal?_eq_none_iff.mp h _ hmem

/-- A rule that is read has the settings and the templates that its line gives it. -/
theorem settings_of_parse {registry : Registry} {bindings : Variables} {line : String}
    {rule : Rule} (hparse : parse registry bindings line = .ok rule)
    {definition : Line.Definition} (hread : Line.Definition.read? line = some definition) :
    rule.kind.firstRefusal? (bindings.valuesOf (definition.assignments.map (·.entry))) = none ∧
      rule.settings = rule.kind.updateAll rule.kind.blank
        (bindings.valuesOf (definition.assignments.map (·.entry))) ∧
      rule.dynamic = templatesAfter ∅ definition.assignments := by
  obtain ⟨definition', kind, hread', -, haccepted, rfl⟩ := eq_of_parse hparse
  obtain rfl : definition' = definition := Option.some.inj (hread'.symm.trans hread)
  exact ⟨haccepted, rfl, rfl⟩

/-- A rule of a built-in kind resolves under the variables that its line was read under.  It
    holds for each field what the last assignment to it says, and resolved what the last
    dynamic one says, if there is one.  So resolving leaves it as it is exactly if these say
    the same for every field that has both. -/
theorem resolve_unchanged_variables {registry : Registry} {bindings : Variables} {line : String}
    {rule : Rule} (hparse : parse registry bindings line = .ok rule)
    (hkind : rule.kind ∈ RuleKind.builtins) {definition : Line.Definition}
    (hread : Line.Definition.read? line = some definition) :
    let last (field : Field) : Option String :=
      lastIn field.name (definition.assignments.map (·.entry))
    let lastDynamic (field : Field) : Option String :=
      lastIn field.name ((definition.assignments.filter (·.dynamic)).map (·.entry))
    let content (field : Field) (template : String) : Option Content :=
      field.content? (bindings.substitute template)
    ∃ settings, rule.resolve bindings = .ok settings ∧
      (∀ field ∈ rule.kind.fields,
        field.slot.read rule.settings =
          (last field).elim (field.slot.read rule.kind.blank) (content field) ∧
        field.slot.read settings =
          (lastDynamic field).elim (field.slot.read rule.settings) (content field)) ∧
      (settings = rule.settings ↔
        ∀ field ∈ rule.kind.fields, ∀ template ∈ lastDynamic field, ∀ final ∈ last field,
          content field template = content field final) := by
  intro last lastDynamic content
  obtain ⟨haccepted, hsettings, htemplates⟩ := settings_of_parse hparse hread
  have hregular : rule.kind.Regular := RuleKind.regular_of_mem_builtins hkind
  have hform : rule.settings.form = rule.kind.form := (form_of_parse hparse).2
  have hdynamic : rule.kind.firstRefusal? (bindings.valuesOf rule.dynamic.entries) = none :=
    htemplates ▸ firstRefusal?_templatesAfter haccepted
  have hresolve : rule.resolve bindings =
      .ok (rule.kind.updateAll rule.settings (bindings.valuesOf rule.dynamic.entries)) := by
    rw [resolve_eq hform, hdynamic]
  have hstored : ∀ field ∈ rule.kind.fields, field.slot.read rule.settings =
      (last field).elim (field.slot.read rule.kind.blank) (content field) := by
    intro field hfield
    rw [hsettings]
    exact hregular.read_updateAll hfield rfl bindings haccepted
  have hresolved : ∀ field ∈ rule.kind.fields,
      field.slot.read
          (rule.kind.updateAll rule.settings (bindings.valuesOf rule.dynamic.entries)) =
        (lastDynamic field).elim (field.slot.read rule.settings) (content field) := by
    intro field hfield
    rw [hregular.read_updateAll hfield hform bindings hdynamic, Roster.lastIn_entries,
      htemplates, get?_templatesAfter_empty]
  refine ⟨_, hresolve, fun field hfield => ⟨hstored field hfield, hresolved field hfield⟩, ?_⟩
  -- the settings are the same if every field is, and a field without a template is
  rw [hregular.updateAll_eq_self_iff hform]
  refine forall₂_congr fun field hfield => ?_
  rw [hresolved field hfield, hstored field hfield]
  cases htemplate : lastDynamic field with
  | none => simp
  | some template =>
    obtain ⟨final, hfinal⟩ := exists_lastIn_of_dynamic htemplate
    have hlast : last field = some final := hfinal
    simp [hlast]

end Rule

end Holding

namespace Rule

/-- The value of a guard is dynamic first and then the same text; its pattern is dynamic last. -/
theorem resolve_unchanged_variables_guard :
    let line := "match --value$ {x} --pattern a --inverse --value b --pattern$ 'c {x}'"
    let bindings : Variables := Std.ExtTreeMap.insert ∅ "x" "b"
    ∃ rule, parse .builtin bindings line = .ok rule ∧ rule.kind ∈ RuleKind.builtins ∧
      rule.isDynamic = true ∧ rule.resolve bindings = .ok rule.settings := by
  intro line bindings
  have hread : Line.Definition.read? line = some ⟨"match", [⟨"value", true, "{x}"⟩,
      ⟨"pattern", false, "a"⟩, ⟨"inverse", false, "true"⟩, ⟨"value", false, "b"⟩,
      ⟨"pattern", true, "c {x}"⟩]⟩ := by decide +kernel
  have hkind : Registry.builtin.get? "match" = some RuleKind.guard := rfl
  have haccepted : RuleKind.guard.firstRefusal? (bindings.valuesOf [("value", "{x}"),
      ("pattern", "a"), ("inverse", "true"), ("value", "b"), ("pattern", "c {x}")]) = none := by
    decide +kernel
  have hparse := parse_eq hread hkind bindings
  simp only [List.map_cons, List.map_nil, Assignment.entry, haccepted] at hparse
  have hbuiltin : RuleKind.guard ∈ RuleKind.builtins := by decide
  obtain ⟨settings, hresolve, -, hsame⟩ := resolve_unchanged_variables hparse hbuiltin hread
  refine ⟨_, hparse, hbuiltin, rfl, hresolve.trans (congrArg Except.ok (hsame.mpr ?_))⟩
  decide +kernel

/-- The line says last that the message is `b`, but resolving makes it `a` again. -/
theorem resolve_unchanged_variables_print :
    let rule : Rule := ⟨.print, .print ⟨some "b"⟩, (∅ : Roster String).set "message" "a"⟩
    parse .builtin ∅ "print --message$ a --message b" = .ok rule ∧
      rule.resolve ∅ = .ok (.print ⟨some "a"⟩) ∧ rule.resolve ∅ ≠ .ok rule.settings := by
  intro rule
  let assignments : List Assignment := [⟨"message", true, "a"⟩, ⟨"message", false, "b"⟩]
  have hread : Line.Definition.read? "print --message$ a --message b" =
      some ⟨"print", assignments⟩ := by decide +kernel
  have hkind : Registry.builtin.get? "print" = some RuleKind.print := rfl
  have haccepted : RuleKind.print.firstRefusal?
      (Variables.valuesOf ∅ (assignments.map (·.entry))) = none := by decide +kernel
  have hstored : RuleKind.print.updateAll RuleKind.print.blank
      (Variables.valuesOf ∅ (assignments.map (·.entry))) = .print ⟨some "b"⟩ := by decide +kernel
  have hparse : parse .builtin ∅ "print --message$ a --message b" = .ok rule := by
    rw [parse_eq hread hkind, haccepted, hstored]
    rfl
  have htemplate : rule.kind.firstRefusal?
      (Variables.valuesOf ∅ rule.dynamic.entries) = none := by decide +kernel
  have hresolved : rule.kind.updateAll rule.settings
      (Variables.valuesOf ∅ rule.dynamic.entries) = .print ⟨some "a"⟩ := by decide +kernel
  have hresolve : rule.resolve ∅ = .ok (.print ⟨some "a"⟩) := by
    rw [resolve_eq rfl, htemplate, hresolved]
  refine ⟨hparse, hresolve, ?_⟩
  rw [hresolve]
  simp [rule]

end Rule

end Rulebook
