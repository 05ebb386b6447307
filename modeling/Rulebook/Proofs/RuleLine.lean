/-
  Rulebook.Proofs.RuleLine

  What reading a rule line and resolving a rule come to.  Both are given by the
  texts that fields receive in order: the first refused text is the error, and
  otherwise the settings are updated by all of them (`parse_eq`, `resolve_eq`).
-/
import Rulebook.Proofs.Outcomes
import Rulebook.Rule

namespace Rulebook

/-! ## Errors of another type -/

theorem mapError_eq_ok_iff {ε ε' α : Type} {x : Except ε α} {f : ε → ε'} {a : α} :
    x.mapError f = .ok a ↔ x = .ok a := by
  cases x with
  | error e => constructor <;> intro h <;> cases h
  | ok b => constructor <;> intro h <;> cases h <;> rfl

theorem mapError_eq_error_iff {ε ε' α : Type} {x : Except ε α} {f : ε → ε'} {e' : ε'} :
    x.mapError f = .error e' ↔ ∃ e, x = .error e ∧ f e = e' := by
  cases x with
  | error e =>
    constructor
    · intro h
      exact ⟨e, rfl, Except.error.inj h⟩
    · rintro ⟨_, he, rfl⟩
      cases he
      rfl
  | ok b =>
    constructor
    · intro h
      cases h
    · rintro ⟨_, he, -⟩
      cases he

/-! ## Fields and their texts -/

/-- The texts that fields receive under some variables. -/
def Variables.valuesOf (bindings : Variables) (templates : List (String × String)) :
    List (String × String) :=
  templates.map fun (field, template) => (field, bindings.substitute template)

theorem Variables.map_fst_valuesOf (bindings : Variables) (templates : List (String × String)) :
    (bindings.valuesOf templates).map Prod.fst = templates.map Prod.fst := by
  rw [valuesOf, List.map_map]
  rfl

/-- The field of an assignment, and the template of its value. -/
def Line.Assignment.entry (a : Line.Assignment) : String × String := (a.field, a.template)

namespace Rule

/-- The templates that are kept after some assignments. -/
def templatesAfter (templates : Roster String) (assignments : List Line.Assignment) :
    Roster String :=
  assignments.foldl
    (fun templates a => if a.dynamic then templates.set a.field a.template else templates)
    templates

variable [Plugins]

/-! ## Reading a line -/

theorem map_setField (rule : Rule) (field text : String) :
    (rule.setField field text).map (·.getD rule) =
      ((rule.kind.assign rule.settings field text).map (·.getD rule.settings)).map
        fun settings => { rule with settings } := by
  unfold setField
  rcases rule.kind.assign rule.settings field text with e | _ | settings
  · rfl
  · rfl
  · rfl

theorem assign_eq {rule : Rule} (hform : rule.settings.form = rule.kind.form)
    (bindings : Variables) (a : Line.Assignment) :
    assign bindings rule a =
      match rule.kind.refusal? a.field (bindings.substitute a.template) with
      | some e => .error e
      | none => .ok
          { kind := rule.kind
            settings := rule.kind.update rule.settings a.field (bindings.substitute a.template)
            dynamic := templatesAfter rule.dynamic [a] } := by
  have hrule : (if a.dynamic then rule.setDynamic a.field a.template else rule) =
      { rule with dynamic := templatesAfter rule.dynamic [a] } := by
    cases hd : a.dynamic <;> simp [templatesAfter, setDynamic, hd]
  simp only [assign, hrule, map_setField, RuleKind.map_assign hform]
  cases rule.kind.refusal? a.field (bindings.substitute a.template) <;> rfl

/-- Assignments in order end with the first refused text, or else configure the rule. -/
theorem assignAll_eq {rule : Rule} (hform : rule.settings.form = rule.kind.form)
    (bindings : Variables) (assignments : List Line.Assignment) :
    assignAll bindings rule assignments =
      match rule.kind.firstRefusal? (bindings.valuesOf (assignments.map (·.entry))) with
      | some e => .error e
      | none => .ok
          { kind := rule.kind
            settings := rule.kind.updateAll rule.settings
              (bindings.valuesOf (assignments.map (·.entry)))
            dynamic := templatesAfter rule.dynamic assignments } := by
  induction assignments generalizing rule with
  | nil => rfl
  | cons a assignments ih =>
    rw [assignAll, List.foldlM_cons, assign_eq hform]
    simp only [Variables.valuesOf, List.map_cons, RuleKind.firstRefusal?, List.findSome?_cons,
      Line.Assignment.entry]
    cases rule.kind.refusal? a.field (bindings.substitute a.template) with
    | some e => rfl
    | none => exact ih (RuleKind.form_update hform _ _)

/-- The rule of a line whose kind is registered. -/
theorem parse_eq {registry : Registry} {line : String} {definition : Line.Definition}
    {kind : RuleKind} (hread : Line.Definition.read? line = some definition)
    (hkind : registry.get? definition.kind = some kind) (bindings : Variables) :
    parse registry bindings line =
      match kind.firstRefusal? (bindings.valuesOf (definition.assignments.map (·.entry))) with
      | some e => .error (.coercion e)
      | none => .ok
          { kind := kind
            settings := kind.updateAll kind.blank
              (bindings.valuesOf (definition.assignments.map (·.entry)))
            dynamic := templatesAfter ∅ definition.assignments } := by
  have hform : (ofKind kind).settings.form = (ofKind kind).kind.form := rfl
  have hall := assignAll_eq hform bindings definition.assignments
  simp only [parse_eq_read?, hread, hkind, hall]
  simp only [ofKind]
  cases kind.firstRefusal? (bindings.valuesOf (definition.assignments.map (·.entry))) <;> rfl

/-- A line that gives a rule is not blank, and its kind is registered. -/
theorem exists_of_parse {registry : Registry} {bindings : Variables} {line : String}
    {rule : Rule} (h : parse registry bindings line = .ok rule) :
    ∃ definition kind, Line.Definition.read? line = some definition ∧
      registry.get? definition.kind = some kind := by
  rw [parse_eq_read?] at h
  split at h
  · cases h
  · next definition hread =>
    split at h
    · cases h
    · next kind hkind => exact ⟨definition, kind, hread, hkind⟩

/-- A line that gives a rule has a registered kind that refuses none of its values, and the
    rule is what the values make of a blank one. -/
theorem eq_of_parse {registry : Registry} {bindings : Variables} {line : String} {rule : Rule}
    (h : parse registry bindings line = .ok rule) :
    ∃ definition kind, Line.Definition.read? line = some definition ∧
      registry.get? definition.kind = some kind ∧
      kind.firstRefusal? (bindings.valuesOf (definition.assignments.map (·.entry))) = none ∧
      rule = ⟨kind,
        kind.updateAll kind.blank (bindings.valuesOf (definition.assignments.map (·.entry))),
        templatesAfter ∅ definition.assignments⟩ := by
  obtain ⟨definition, kind, hread, hkind⟩ := exists_of_parse h
  rw [parse_eq hread hkind] at h
  split at h
  · cases h
  · next haccepted => exact ⟨definition, kind, hread, hkind, haccepted, (Except.ok.inj h).symm⟩

/-- A line gives a rule exactly if its kind accepts all values. -/
theorem parse_eq_ok_iff {registry : Registry} {line : String} {definition : Line.Definition}
    {kind : RuleKind} (hread : Line.Definition.read? line = some definition)
    (hkind : registry.get? definition.kind = some kind) {bindings : Variables} {rule : Rule} :
    parse registry bindings line = .ok rule ↔
      kind.firstRefusal? (bindings.valuesOf (definition.assignments.map (·.entry))) = none ∧
        rule = ⟨kind,
          kind.updateAll kind.blank (bindings.valuesOf (definition.assignments.map (·.entry))),
          templatesAfter ∅ definition.assignments⟩ := by
  rw [parse_eq hread hkind]
  cases kind.firstRefusal? (bindings.valuesOf (definition.assignments.map (·.entry))) with
  | some e => simp
  | none => simp [eq_comm]

/-! ## Lines that name no kind -/

theorem parse_eq_emptyLine_iff {registry : Registry} {bindings : Variables} {line : String} :
    parse registry bindings line = .error .emptyLine ↔ Line.Definition.read? line = none := by
  rw [parse_eq_read?]
  split
  · next hread => simp [hread]
  · next definition hread =>
    split
    · simp [hread]
    · simp [hread, mapError_eq_error_iff]

theorem parse_eq_unknownKind_iff {registry : Registry} {bindings : Variables} {line : String}
    {name : String} :
    parse registry bindings line = .error (.unknownKind name) ↔
      ∃ definition, Line.Definition.read? line = some definition ∧
        registry.get? definition.kind = none ∧ definition.kind = name := by
  rw [parse_eq_read?]
  split
  · next hread => simp [hread]
  · next definition hread =>
    split
    · next hkind => simp [hread, hkind]
    · next kind hkind => simp [hread, hkind, mapError_eq_error_iff]

/-! ## Resolving -/

theorem resolve_eq {rule : Rule} (hform : rule.settings.form = rule.kind.form)
    (bindings : Variables) :
    rule.resolve bindings =
      match rule.kind.firstRefusal? (bindings.valuesOf rule.dynamic.entries) with
      | some e => .error (.coercion e)
      | none => .ok
          (rule.kind.updateAll rule.settings (bindings.valuesOf rule.dynamic.entries)) := by
  have hreplay : replay rule.kind bindings rule.settings rule.dynamic.entries =
      (bindings.valuesOf rule.dynamic.entries).foldlM
        (fun (settings : Settings) (value : String × String) =>
          (rule.kind.assign settings value.1 value.2).map (·.getD settings)) rule.settings := by
    rw [replay, Variables.valuesOf, List.foldlM_map]
  simp only [resolve, RuleKind.copy?, if_pos hform, hreplay, RuleKind.foldlM_assign hform]
  cases rule.kind.firstRefusal? (bindings.valuesOf rule.dynamic.entries) <;> rfl

/-- A rule resolves exactly if its kind accepts the values of all templates. -/
theorem resolve_eq_ok_iff {rule : Rule} (hform : rule.settings.form = rule.kind.form)
    {bindings : Variables} {settings : Settings} :
    rule.resolve bindings = .ok settings ↔
      rule.kind.firstRefusal? (bindings.valuesOf rule.dynamic.entries) = none ∧
        settings = rule.kind.updateAll rule.settings (bindings.valuesOf rule.dynamic.entries) := by
  rw [resolve_eq hform]
  cases rule.kind.firstRefusal? (bindings.valuesOf rule.dynamic.entries) with
  | some e => simp
  | none => simp [eq_comm]

end Rule

end Rulebook
