/-
  Rulebook.Proofs.LineErrors

  Why a rule line is refused.  A field refuses a text that is no value of its kind, or one
  whose value does not fit the slot that it writes (`Rejects`), and the first group of a line
  that gives a field such a text is the one that the error tells of (`FirstRejected`).  The
  other errors are a blank line and a first token that is no registered kind; nothing else
  ends the reading of a line (`parse_outcomes`).
-/
import Rulebook.Kind.Custom
import Rulebook.Proofs.LineGroups
import Rulebook.Proofs.RuleLine

namespace Rulebook

open Line (FieldGroup Grouped tokens tokensOf)
open Text (isBlank)

/-- The text that the field of a group receives under some variables. -/
def Line.FieldGroup.text (bindings : Variables) (group : FieldGroup) : String :=
  bindings.substitute group.assignment.template

/-- Each group gives its text to its field. -/
theorem Variables.valuesOf_groups (bindings : Variables) (groups : List FieldGroup) :
    bindings.valuesOf ((groups.map FieldGroup.assignment).map (·.entry)) =
      groups.map fun group => (group.assignment.field, group.text bindings) := by
  rw [valuesOf, List.map_map, List.map_map]
  rfl

/-! ## Texts that a field refuses -/

namespace RuleKind

variable [Plugins] {kind : RuleKind}

/-- A field of a kind refuses a text: the text is no value of the field's kind, or the settings
    do not hold this value. -/
def Rejects (kind : RuleKind) (field : Field) (text : String) : Prop :=
  field.kind.coerce text = none ∨
    ∃ value, field.kind.coerce text = some value ∧
      field.slot.write value kind.blank = .outOfRange

theorem meaning_eq_error_iff {name text : String} {e : CoercionError} :
    kind.meaning name text = .error e ↔
      ∃ field, kind.field? name = some field ∧ kind.Rejects field text ∧
        e = ⟨name, text, field.kind⟩ := by
  unfold meaning
  cases hfield : kind.field? name with
  | none => simp
  | some field =>
    have hblank : kind.blank.form = kind.form := rfl
    simp only [Rejects, Slot.write_eq_outOfRange_iff, hblank, Option.some.injEq,
      exists_eq_left']
    cases hvalue : field.kind.coerce text with
    | none => simp [eq_comm (a := e)]
    | some value =>
      by_cases hform : field.slot.form = kind.form
      · cases hholds : field.slot.holds value <;> simp [hform, hholds, eq_comm (a := e)]
      · simp [hform]

/-- A text is refused exactly if the kind has the field, and the field refuses it. -/
theorem refusal?_eq_some_iff_rejects {name text : String} {e : CoercionError} :
    kind.refusal? name text = some e ↔
      ∃ field, kind.field? name = some field ∧ kind.Rejects field text ∧
        e = ⟨name, text, field.kind⟩ :=
  refusal?_eq_some_iff.trans meaning_eq_error_iff

/-- Whatever was assigned before, an assignment fails exactly if the field refuses the text. -/
theorem assign_eq_error_iff {settings : Settings} (hform : settings.form = kind.form)
    {name text : String} {e : CoercionError} :
    kind.assign settings name text = .error e ↔
      ∃ field, kind.field? name = some field ∧ kind.Rejects field text ∧
        e = ⟨name, text, field.kind⟩ := by
  rw [← meaning_eq_error_iff]
  rcases assign_spec hform name text with ⟨refused, hmeaning, hassign⟩ | ⟨hmeaning, hassign⟩ |
    ⟨slot, content, settings', hmeaning, hassign, -⟩
  · rw [hmeaning, hassign, Except.error.injEq, Except.error.injEq]
  · simp [hmeaning, hassign]
  · simp [hmeaning, hassign]

theorem refusal?_eq_none_of_undeclared {name : String} (h : kind.field? name = none)
    (text : String) : kind.refusal? name text = none := by
  rw [Option.eq_none_iff_forall_ne_some]
  intro e he
  obtain ⟨field, hfield, -⟩ := refusal?_eq_some_iff_rejects.mp he
  rw [h] at hfield
  cases hfield

end RuleKind

/-! ## Groups that are refused -/

namespace RuleKind

variable [Plugins] {kind : RuleKind} {bindings : Variables} {groups : List FieldGroup}

/-- Whether a kind has the field of a group. -/
def declares (kind : RuleKind) (group : FieldGroup) : Bool :=
  (kind.field? group.assignment.field).isSome

/-- A group is refused: the kind has its field, and the field refuses its text. -/
def RejectsGroup (kind : RuleKind) (bindings : Variables) (group : FieldGroup) : Prop :=
  ∃ field, kind.field? group.assignment.field = some field ∧
    kind.Rejects field (group.text bindings)

/-- An error tells of the first group that is refused: it has the name of the group's field,
    the text that the field receives, and the kind of the field. -/
def FirstRejected (kind : RuleKind) (bindings : Variables) (groups : List FieldGroup)
    (e : CoercionError) : Prop :=
  ∃ before group after field, groups = before ++ group :: after ∧
    (∀ earlier ∈ before, ¬ kind.RejectsGroup bindings earlier) ∧
    kind.field? group.assignment.field = some field ∧
    kind.Rejects field (group.text bindings) ∧
    e = ⟨group.assignment.field, group.text bindings, field.kind⟩

/-- The error of a group, if it is refused. -/
def groupRefusal? (kind : RuleKind) (bindings : Variables) (group : FieldGroup) :
    Option CoercionError :=
  kind.refusal? group.assignment.field (group.text bindings)

theorem groupRefusal?_eq_none_iff {group : FieldGroup} :
    kind.groupRefusal? bindings group = none ↔ ¬ kind.RejectsGroup bindings group := by
  simp only [groupRefusal?, Option.eq_none_iff_forall_ne_some, ne_eq,
    refusal?_eq_some_iff_rejects, RejectsGroup]
  constructor
  · rintro h ⟨field, hfield, hrejects⟩
    exact h _ ⟨field, hfield, hrejects, rfl⟩
  · rintro h e ⟨field, hfield, hrejects, -⟩
    exact h ⟨field, hfield, hrejects⟩

theorem firstRefusal?_groups :
    kind.firstRefusal? (bindings.valuesOf ((groups.map FieldGroup.assignment).map (·.entry))) =
      groups.findSome? (kind.groupRefusal? bindings) := by
  rw [firstRefusal?, bindings.valuesOf_groups, List.findSome?_map]
  rfl

theorem findSome?_groupRefusal?_eq_some_iff {e : CoercionError} :
    groups.findSome? (kind.groupRefusal? bindings) = some e ↔
      kind.FirstRejected bindings groups e := by
  simp only [List.findSome?_eq_some_iff, groupRefusal?_eq_none_iff, FirstRejected]
  constructor
  · rintro ⟨before, group, after, hgroups, hrefused, hbefore⟩
    obtain ⟨field, hfield, hrejects, he⟩ := refusal?_eq_some_iff_rejects.mp hrefused
    exact ⟨before, group, after, field, hgroups, hbefore, hfield, hrejects, he⟩
  · rintro ⟨before, group, after, field, hgroups, hbefore, hfield, hrejects, he⟩
    have hrefused := refusal?_eq_some_iff_rejects.mpr ⟨field, hfield, hrejects, he⟩
    exact ⟨before, group, after, hgroups, hrefused, hbefore⟩

/-- Groups for fields that the kind does not have are never refused. -/
theorem findSome?_groupRefusal?_declared :
    (groups.filter kind.declares).findSome? (kind.groupRefusal? bindings) =
      groups.findSome? (kind.groupRefusal? bindings) := by
  induction groups with
  | nil => rfl
  | cons group groups ih =>
    rw [List.findSome?_cons]
    cases hdeclared : kind.declares group with
    | true => rw [List.filter_cons_of_pos hdeclared, List.findSome?_cons, ih]
    | false =>
      have hfield : kind.field? group.assignment.field = none := by
        simpa [declares] using hdeclared
      have hrefusal : kind.groupRefusal? bindings group = none :=
        refusal?_eq_none_of_undeclared hfield _
      rw [List.filter_cons_of_neg (by simp [hdeclared]), hrefusal, ih]

end RuleKind

namespace Rule

/-! ## The outcomes of reading a line -/

section Outcomes

variable [Plugins]

/-- A line that is read token after token is never malformed. -/
theorem scan_eq (registry : Registry) (bindings : Variables) (line : String) :
    scan registry bindings line = (parse registry bindings line).mapError .rule := by
  rw [scan_eq_ofTokens, parse_eq_ofTokens]

theorem parse_ne_otherForm (registry : Registry) (bindings : Variables) (line name : String) :
    parse registry bindings line ≠ .error (.otherForm name) := by
  rw [parse_eq_read?]
  split
  · simp
  · split
    · simp
    · simp [mapError_eq_error_iff]

section Registered

variable {registry : Registry} {bindings : Variables} {line name : String} {kind : RuleKind}
  {groups : List FieldGroup} (hname : (tokens line).head? = some name)
  (hkind : registry.get? name = some kind) (hgroups : Grouped (tokensOf line.toList).tail groups)

include hname hkind hgroups

/-- A line of a registered kind has no error but that of its first group that is refused. -/
theorem parse_eq_error_iff_of_grouped {e : RuleError} :
    parse registry bindings line = .error e ↔
      ∃ refused, groups.findSome? (kind.groupRefusal? bindings) = some refused ∧
        e = .coercion refused := by
  rw [parse_eq (Line.read?_of_head? hname hgroups) hkind, RuleKind.firstRefusal?_groups]
  cases groups.findSome? (kind.groupRefusal? bindings) with
  | some refused => simp [eq_comm]
  | none => simp

/-- A line of a registered kind gives a rule exactly if none of its groups is refused. -/
theorem exists_parse_iff_of_grouped :
    (∃ rule, parse registry bindings line = .ok rule) ↔
      ∀ group ∈ groups, ¬ kind.RejectsGroup bindings group := by
  have hparse := fun rule =>
    @parse_eq_ok_iff _ _ _ _ _ (Line.read?_of_head? hname hgroups) hkind bindings rule
  simp only [hparse, exists_and_left, exists_eq, and_true, RuleKind.firstRefusal?_groups,
    List.findSome?_eq_none_iff, RuleKind.groupRefusal?_eq_none_iff]

end Registered

/-- What comes of reading a line.  A line is empty exactly if it is blank, and of an unknown kind
    exactly if its first token is none that is registered; the error has this token.  With a
    registered kind, the tokens behind the first are groups, and the line is refused exactly if
    one of them is: the error tells of the first.  Otherwise the line gives a rule.  So stray
    tokens and groups for other fields than those of the kind make no difference to the error.
    No line is malformed. -/
theorem parse_outcomes (registry : Registry) (bindings : Variables) (line : String) :
    (parse registry bindings line = .error .emptyLine ↔ ∀ c ∈ line.toList, isBlank c = true) ∧
    (∀ name, parse registry bindings line = .error (.unknownKind name) ↔
      (tokens line).head? = some name ∧ registry.get? name = none) ∧
    (∀ name kind, (tokens line).head? = some name → registry.get? name = some kind →
      (∃ groups, Grouped (tokensOf line.toList).tail groups) ∧
      ∀ groups, Grouped (tokensOf line.toList).tail groups →
        (∀ e, parse registry bindings line = .error (.coercion e) ↔
          kind.FirstRejected bindings groups e) ∧
        ((∃ rule, parse registry bindings line = .ok rule) ↔
          ∀ group ∈ groups, ¬ kind.RejectsGroup bindings group) ∧
        ∀ other groups', (tokens other).head? = some name →
          Grouped (tokensOf other.toList).tail groups' →
          groups'.filter kind.declares = groups.filter kind.declares →
          ∀ e, parse registry bindings other = .error e ↔
            parse registry bindings line = .error e) ∧
    (∀ name, parse registry bindings line ≠ .error (.otherForm name)) ∧
    scan registry bindings line = (parse registry bindings line).mapError .rule := by
  refine ⟨?_, fun name => ?_, fun name kind hname hkind => ⟨?_, fun groups hgroups => ?_⟩,
    parse_ne_otherForm registry bindings line, scan_eq registry bindings line⟩
  · rw [parse_eq_emptyLine_iff, Line.read?_eq_none_iff]
  · rw [parse_eq_unknownKind_iff, Line.head?_tokens]
    constructor
    · rintro ⟨definition, hread, hunknown, rfl⟩
      exact ⟨by rw [hread, Option.map_some], hunknown⟩
    · rintro ⟨hname, hunknown⟩
      obtain ⟨definition, hread, rfl⟩ := Option.map_eq_some_iff.mp hname
      exact ⟨definition, hread, hunknown, rfl⟩
  · exact Line.exists_grouped _
  · have herrors := fun e =>
      @parse_eq_error_iff_of_grouped _ _ bindings _ _ _ _ hname hkind hgroups e
    refine ⟨fun e => ?_, exists_parse_iff_of_grouped hname hkind hgroups,
      fun other groups' hother hgroups' hsame e => ?_⟩
    · rw [herrors, ← RuleKind.findSome?_groupRefusal?_eq_some_iff]
      simp only [RuleError.coercion.injEq, exists_eq_right']
    · -- only the groups for fields of the kind count, and the lines have the same of these
      rw [herrors, parse_eq_error_iff_of_grouped hother hkind hgroups',
        ← RuleKind.findSome?_groupRefusal?_declared, hsame,
        RuleKind.findSome?_groupRefusal?_declared]

end Outcomes

/-- A guard with a stray token, a field that it does not have, a flag, and a text that is no truth
    value: the first time this text is given to its field is what the error tells of. -/
theorem parse_outcomes_guard :
    let bindings : Variables := Std.ExtTreeMap.insert ∅ "v" "maybe"
    let line := "match x --other$ {v} --inverse --value {v} --inverse ' {v}' --inverse no"
    parse .builtin bindings line = .error (.coercion ⟨"inverse", " maybe", .boolean⟩) := by
  intro bindings line
  let before : List FieldGroup := [⟨"other$".toList, ["{v}".toList], by decide⟩,
    ⟨"inverse".toList, [], by decide⟩, ⟨"value".toList, ["{v}".toList], by decide⟩]
  let refused : FieldGroup := ⟨"inverse".toList, ["' {v}'".toList], by decide⟩
  let after : List FieldGroup := [⟨"inverse".toList, ["no".toList], by decide⟩]
  have hname : (tokens line).head? = some "match" := by decide +kernel
  have hkind : Registry.builtin.get? "match" = some .guard := rfl
  have hgroups : Grouped (tokensOf line.toList).tail (before ++ refused :: after) :=
    ⟨["x".toList], by decide, by decide +kernel⟩
  obtain ⟨-, -, hregistered, -, -⟩ := parse_outcomes .builtin bindings line
  obtain ⟨hcoercion, -, -⟩ := (hregistered "match" .guard hname hkind).2 _ hgroups
  have hbefore : ∀ earlier ∈ before, ¬ RuleKind.guard.RejectsGroup bindings earlier := by
    simp only [← RuleKind.groupRefusal?_eq_none_iff]
    decide +kernel
  have hfield : RuleKind.guard.field? refused.assignment.field = some
      { name := "inverse", description := "Defines if the result will be inverted",
        default := some "false", slot := .guardInverse } := by decide +kernel
  have htext : refused.text bindings = " maybe" := by decide +kernel
  have hrejects : FieldKind.boolean.coerce " maybe" = none := by rfl
  exact (hcoercion _).mpr ⟨before, refused, after, _, rfl, hbefore, hfield,
    .inl (htext ▸ hrejects), by decide +kernel⟩

end Rule

end Rulebook
