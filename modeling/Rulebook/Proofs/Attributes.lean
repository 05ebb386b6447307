/-
  Rulebook.Proofs.Attributes

  The attributes of a rule by the names under which lines give them, and what one assignment
  does to them.  In the built-in kinds each field writes the attribute of its own name
  (`attributes_eq_fields`).  So an assignment is refused, writes nothing, or gives just this
  attribute the value of the text (`assign_precise`).
-/
import Rulebook.Kind.Custom
import Rulebook.Proofs.Reassignment

namespace Rulebook

attribute [ext] GuardSettings PrintSettings IssueSettings FilterSettings

/-! ## Attributes by name -/

/-- What an attribute holds that was given a value.  A number is held as its text. -/
def Value.content : Value → Content
  | .string s => .text (some s)
  | .boolean b => .truth b
  | value => .text (some value.text)

section Attributes

variable [Plugins]

namespace Settings

/-- The attributes of a built-in rule, by name. -/
def attributes : Settings → List (String × Content)
  | guard s => [("value", .text s.value), ("pattern", .text s.pattern),
      ("inverse", .truth s.inverse)]
  | print s => [("message", .text s.message)]
  | issue s => [("key", .text s.key), ("message", .text s.message), ("path", .text s.path)]
  | filter s => [("then", .text s.targets), ("name", .text s.name), ("path", .text s.path),
      ("file", .truth s.file), ("folder", .truth s.folder), ("inverse", .truth s.inverse),
      ("childrenfiles", .truth s.childrenFiles), ("childrenfolders", .truth s.childrenFolders),
      ("varname", .text (some s.nameVariable)), ("varpath", .text (some s.pathVariable))]
  | custom _ => []

/-- The attributes after the one of a name was given a value. -/
def Given (name : String) (value : Value) (before after : Settings) : Prop :=
  after.form = before.form ∧ after.issueKind? = before.issueKind? ∧
    after.attributes = before.attributes.map fun (other, content) =>
      (other, if other = name then value.content else content)

end Settings

/-- Rules of a built-in kind that have the same attributes are the same, but for the kind of
    issue that they record. -/
theorem Settings.eq_of_attributes {s t : Settings} (hcustom : ¬ s.form.IsCustom)
    (hform : t.form = s.form) (hissue : t.issueKind? = s.issueKind?)
    (h : t.attributes = s.attributes) : t = s := by
  cases s with
  | custom rule => exact absurd trivial hcustom
  | guard s =>
    cases t with
    | guard t =>
      obtain ⟨value, pattern, inverse⟩ := s
      simpa [attributes, GuardSettings.ext_iff] using h
    | _ => cases hform
  | print s =>
    cases t with
    | print t => simpa [attributes, PrintSettings.ext_iff] using h
    | _ => cases hform
  | issue s =>
    cases t with
    | issue t =>
      -- the kind of issue is no attribute
      have hkind : t.kind = s.kind := Option.some.inj hissue
      simpa [attributes, IssueSettings.ext_iff, hkind] using h
    | _ => cases hform
  | filter s =>
    cases t with
    | filter t => simpa [attributes, FilterSettings.ext_iff] using h
    | _ => cases hform

namespace RuleKind

variable {kind : RuleKind} {settings : Settings}

/-! ## Fields and attributes -/

/-- In the built-in kinds each field reads the attribute of its own name, and there are no
    other attributes. -/
theorem attributes_eq_fields (hkind : kind ∈ builtins) (hform : settings.form = kind.form) :
    settings.attributes.map (fun (name, content) => (name, some content)) =
      kind.fields.map fun field => (field.name, field.slot.read settings) := by
  simp only [builtins, List.mem_cons, List.not_mem_nil, or_false] at hkind
  -- kind by kind, the two tables are the same
  rcases hkind with rfl | rfl | rfl | rfl | rfl
  all_goals cases settings <;> first | rfl | cases hform

/-- A field of a built-in kind takes each value of its own kind, as it is. -/
theorem content?_of_mem_builtins (hkind : kind ∈ builtins) {field : Field}
    (hfield : field ∈ kind.fields) (text : String) :
    field.content? text = (field.kind.coerce text).map Value.content := by
  have hslot := (regular_of_mem_builtins hkind).slot_not_custom hfield
  -- these kinds have no fields of numbers
  have hkinds : ∀ kind ∈ builtins, ∀ field ∈ kind.fields,
      field.kind = .string ∨ field.kind = .boolean := by
    refine forall_mem_builtins.mpr ⟨?_, ?_, ?_, ?_, ?_⟩
    all_goals
      simp [guard, print, warning, problem, fileFilter, issueFields, Field.kind, Slot.kind]
  rcases hkinds kind hkind field hfield with hstring | hboolean
  · rw [Field.content?_of_string hstring hslot, hstring]
    rfl
  · rw [Field.content?_of_boolean hboolean hslot, hboolean, FieldKind.coerce, Option.map_map]
    rfl

/-- A text that is valid for a field of a built-in kind writes its part. -/
theorem exists_meaning_of_coerce (hkind : kind ∈ builtins) {field : Field}
    (hfield : field ∈ kind.fields) {text : String} {value : Value}
    (hvalue : field.kind.coerce text = some value) :
    ∃ written, field.slot.content? written = some value.content ∧
      kind.meaning field.name text = .ok (some (field.slot, written)) := by
  have htext : field.content? text = some value.content := by
    rw [content?_of_mem_builtins hkind hfield, hvalue, Option.map_some]
  exact (regular_of_mem_builtins hkind).exists_meaning_name hfield htext

/-! ## One assignment -/

/-- Two fields of a built-in kind that write one part are one field. -/
theorem Regular.slot_eq_iff (h : kind.Regular) {field other : Field} (hfield : field ∈ kind.fields)
    (hother : other ∈ kind.fields) : other.slot = field.slot ↔ other.name = field.name := by
  constructor
  · exact h.name_eq other hother field hfield
  · intro hname
    have hsame := h.field?_name other hother
    rw [hname, h.field?_name field hfield] at hsame
    rw [Option.some.inj hsame]

/-- The value of a text that a field accepts becomes the field's own attribute. -/
theorem given_update (hkind : kind ∈ builtins) (hform : settings.form = kind.form)
    {field : Field} (hfield : field ∈ kind.fields) {text : String} {value : Value}
    (hvalue : field.kind.coerce text = some value) :
    Settings.Given field.name value settings (kind.update settings field.name text) := by
  have hregular := regular_of_mem_builtins hkind
  obtain ⟨written, hwritten, hmeaning⟩ := exists_meaning_of_coerce hkind hfield hvalue
  have hread : ∀ other ∈ kind.fields,
      other.slot.read (kind.update settings field.name text) =
        if other.name = field.name then some value.content else other.slot.read settings := by
    intro other hother
    rw [read_update hform, hmeaning]
    simp only [hregular.slot_eq_iff hfield hother, hwritten]
  refine ⟨(form_update hform _ _).trans hform.symm, issueKind?_update hform _ _, ?_⟩
  -- both tables are that of the fields, so it is enough to compare what the fields read
  have hafter := attributes_eq_fields hkind (form_update hform field.name text)
  have hbefore := attributes_eq_fields hkind hform
  have hinjective : Function.Injective fun (a : String × Content) => (a.1, some a.2) := by
    rintro ⟨name, content⟩ ⟨name', content'⟩ h
    simpa using h
  refine (List.map_inj_right hinjective).mp ?_
  have hgiven : (settings.attributes.map fun (other, content) =>
      (other, if other = field.name then value.content else content)).map
        (fun (a : String × Content) => (a.1, some a.2)) =
      (settings.attributes.map fun (name, content) => (name, some content)).map
        fun (other, read) => (other, if other = field.name then some value.content else read) := by
    simp only [List.map_map, Function.comp_def, apply_ite some]
  rw [hgiven, hbefore, List.map_map]
  refine hafter.trans (List.map_congr_left fun other hother => ?_)
  rw [hread other hother]
  rfl

/-- A text that is not valid for a field is refused. -/
theorem Regular.assign_of_coerce_none (h : kind.Regular) {field : Field}
    (hfield : field ∈ kind.fields) {text : String} (hvalue : field.kind.coerce text = none)
    (settings : Settings) :
    kind.assign settings field.name text = .error ⟨field.name, text, field.kind⟩ := by
  simp only [assign, h.field?_name field hfield, hvalue]

/-- Every text that is valid for a field of a built-in kind is written. -/
theorem assign_of_coerce (hkind : kind ∈ builtins) (hform : settings.form = kind.form)
    {field : Field} (hfield : field ∈ kind.fields) {text : String} {value : Value}
    (hvalue : field.kind.coerce text = some value) :
    kind.assign settings field.name text = .ok (some (kind.update settings field.name text)) := by
  obtain ⟨_, -, hmeaning⟩ := exists_meaning_of_coerce hkind hfield hvalue
  -- the text has a meaning, so the first two outcomes do not come up
  unfold update
  rcases assign_spec hform field.name text with ⟨e, hm, -⟩ | ⟨hm, -⟩ | ⟨_, _, _, -, ha, -⟩
  · rw [hmeaning] at hm
    cases hm
  · rw [hmeaning] at hm
    cases hm
  · rw [ha]

/-- An assignment finds no field, or one that refuses the text, or one that takes it. -/
theorem assign_cases (hkind : kind ∈ builtins) (hform : settings.form = kind.form)
    (name text : String) :
    ((∀ field ∈ kind.fields, field.name ≠ name) ∧ kind.assign settings name text = .ok none) ∨
    ∃ field ∈ kind.fields, field.name = name ∧
      ((field.kind.coerce text = none ∧
          kind.assign settings name text = .error ⟨name, text, field.kind⟩) ∨
        ∃ value, field.kind.coerce text = some value ∧
          kind.assign settings name text = .ok (some (kind.update settings name text))) := by
  by_cases hdeclared : ∃ field ∈ kind.fields, field.name = name
  · obtain ⟨field, hfield, rfl⟩ := hdeclared
    refine .inr ⟨field, hfield, rfl, ?_⟩
    cases hvalue : field.kind.coerce text with
    | none =>
      have hregular := regular_of_mem_builtins hkind
      exact .inl ⟨rfl, hregular.assign_of_coerce_none hfield hvalue settings⟩
    | some value => exact .inr ⟨value, rfl, assign_of_coerce hkind hform hfield hvalue⟩
  · have hnone : ∀ field ∈ kind.fields, field.name ≠ name := fun field hfield hname =>
      hdeclared ⟨field, hfield, hname⟩
    exact .inl ⟨hnone, assign_of_undeclared hnone settings text⟩

/-- What was assigned to a field earlier does not matter for a later assignment to it. -/
theorem assign_update (hkind : kind ∈ builtins) (hform : settings.form = kind.form)
    (name text later : String) :
    kind.assign (kind.update settings name text) name later = kind.assign settings name later := by
  have hform' : (kind.update settings name text).form = kind.form := form_update hform name text
  rcases assign_cases hkind hform name later with ⟨hnone, hassign⟩ |
    ⟨field, hfield, rfl, ⟨hvalue, hassign⟩ | ⟨value, hvalue, hassign⟩⟩
  · rw [hassign, assign_of_undeclared hnone]
  · rw [hassign, (regular_of_mem_builtins hkind).assign_of_coerce_none hfield hvalue]
  · -- only a text that is accepted replaces the earlier one
    have haccepted : kind.refusal? field.name later = none := by
      obtain ⟨_, -, hmeaning⟩ := exists_meaning_of_coerce hkind hfield hvalue
      simp only [refusal?, hmeaning]
    rw [hassign, assign_of_coerce hkind hform' hfield hvalue,
      (separate_of_mem_builtins hkind).update_update hform haccepted]

/-- Settings that an assignment gives are those after the update. -/
theorem eq_update_of_given (hkind : kind ∈ builtins) (hform : settings.form = kind.form)
    {field : Field} (hfield : field ∈ kind.fields) {text : String} {value : Value}
    (hvalue : field.kind.coerce text = some value) {settings' : Settings}
    (h : Settings.Given field.name value settings settings') :
    settings' = kind.update settings field.name text := by
  obtain ⟨hform', hissue, hattributes⟩ := given_update hkind hform hfield hvalue
  refine Settings.eq_of_attributes ?_ (h.1.trans hform'.symm) (h.2.1.trans hissue.symm)
    (h.2.2.trans hattributes.symm)
  rw [form_update hform]
  exact (regular_of_mem_builtins hkind).not_custom

/-- An assignment to a rule of a built-in kind, whatever was assigned to the rule before: it
    writes nothing if the kind has no field of the name, and is refused if the text is not
    valid for the field.  Otherwise it gives the attribute of that name the value of the text,
    and only this one.  It leaves no trace in a later assignment to the same field, and
    commutes with assignments to other fields. -/
theorem assign_precise (hkind : kind ∈ builtins) (hform : settings.form = kind.form)
    (name text : String) :
    (kind.assign settings name text = .ok none ↔ ∀ field ∈ kind.fields, field.name ≠ name) ∧
    (∀ e, kind.assign settings name text = .error e ↔
      ∃ field ∈ kind.fields, field.name = name ∧ field.kind.coerce text = none ∧
        e = ⟨name, text, field.kind⟩) ∧
    (∀ settings', kind.assign settings name text = .ok (some settings') ↔
      ∃ field ∈ kind.fields, field.name = name ∧ ∃ value, field.kind.coerce text = some value ∧
        Settings.Given name value settings settings') ∧
    ((∀ field ∈ kind.fields, field.name = name → field.kind.coerce text = none) →
      kind.update settings name text = settings) ∧
    (kind.update settings name text).form = kind.form ∧
    (∀ later, kind.assign (kind.update settings name text) name later =
      kind.assign settings name later) ∧
    ∀ other text', name ≠ other →
      kind.update (kind.update settings name text) other text' =
        kind.update (kind.update settings other text') name text := by
  have hregular := regular_of_mem_builtins hkind
  have hcases := assign_cases hkind hform name text
  refine ⟨⟨?_, fun hnone => assign_of_undeclared hnone settings text⟩,
    fun e => ⟨?_, ?_⟩, fun settings' => ⟨?_, ?_⟩, ?_, form_update hform name text,
    assign_update hkind hform name text,
    fun other text' hne => hregular.separate.update_comm hform hne text text'⟩
  -- each outcome of an assignment goes with one of the cases, and the others contradict it
  · intro hassign
    rcases hcases with ⟨hnone, -⟩ | ⟨_, -, -, ⟨-, h⟩ | ⟨_, -, h⟩⟩
    · exact hnone
    all_goals cases hassign.symm.trans h
  · intro hassign
    rcases hcases with ⟨-, h⟩ | ⟨field, hfield, hname, ⟨hvalue, h⟩ | ⟨_, -, h⟩⟩
    · cases hassign.symm.trans h
    · exact ⟨field, hfield, hname, hvalue, Except.error.inj (hassign.symm.trans h)⟩
    · cases hassign.symm.trans h
  · rintro ⟨field, hfield, rfl, hvalue, rfl⟩
    exact hregular.assign_of_coerce_none hfield hvalue settings
  · intro hassign
    rcases hcases with ⟨-, h⟩ | ⟨field, hfield, rfl, ⟨-, h⟩ | ⟨value, hvalue, h⟩⟩
    · cases hassign.symm.trans h
    · cases hassign.symm.trans h
    · obtain rfl : settings' = kind.update settings field.name text :=
        Option.some.inj (Except.ok.inj (hassign.symm.trans h))
      exact ⟨field, hfield, rfl, value, hvalue, given_update hkind hform hfield hvalue⟩
  · rintro ⟨field, hfield, rfl, value, hvalue, hgiven⟩
    rw [assign_of_coerce hkind hform hfield hvalue,
      eq_update_of_given hkind hform hfield hvalue hgiven]
  · intro hinvalid
    rcases hcases with ⟨-, h⟩ | ⟨field, hfield, hname, ⟨-, h⟩ | ⟨_, hvalue, -⟩⟩
    · simp only [update, h]
    · simp only [update, h]
    · rw [hinvalid field hfield hname] at hvalue
      cases hvalue

end RuleKind

end Attributes

namespace RuleKind

/-- A warning on which fields were set, again and again, takes a text through the other kind
    that records issues. -/
theorem assign_precise_problem :
    let settings := warning.updateAll warning.blank
      [("key", "a/b"), ("path", "x"), ("color", "red"), ("key", "c")]
    problem ∈ builtins ∧ settings.form = problem.form ∧
      problem.assign settings "message" "d/e" =
        .ok (some (.issue ⟨.warning, some "c", some "d\\e", some "x"⟩)) := by
  intro settings
  have hkind : problem ∈ builtins := by decide
  have hform : settings.form = problem.form := form_updateAll rfl
  have hmessage : ⟨"message", "Defines the message to be shown", true, none, .issueMessage⟩ ∈
      problem.fields := by decide
  refine ⟨hkind, hform, ?_⟩
  rw [(assign_precise hkind hform "message" "d/e").2.2.1]
  have hunified : separatorsUnified "d/e" = "d\\e" := by decide
  refine ⟨_, hmessage, rfl, .string "d\\e", ?_, ?_⟩
  · exact congrArg (fun text => some (Value.string text)) hunified
  · have hsettings : settings = .issue ⟨.warning, some "c", none, some "x"⟩ := by decide
    rw [hsettings]
    exact ⟨rfl, rfl, rfl⟩

end RuleKind

end Rulebook
