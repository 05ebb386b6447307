/-
  Rulebook.Proofs.RuleEdits

  Rules that are configured call by call: texts are assigned to fields and templates are
  kept for dynamic ones, in any order, and some of the texts are refused.

  Two things keep a rule and its kind together.  A kind that a builder makes has only fields
  that write settings of its own form (`RuleKind.built_iff`), and the settings of a rule are
  at all times what the texts make of the blank ones (`Rule.editAll_eq`).  So a text is ignored
  only for want of a field, the settings can be copied, and resolving fails only where a
  field refuses the text of its template.  A rule whose templates are all for fields that its
  kind lacks resolves to what it holds, which is why one without templates is tested as it
  is (`Rule.editAll_accounts`).
-/
import Mathlib.Data.List.Induction
import Rulebook.Kind.Counter
import Rulebook.Proofs.LineErrors
import Rulebook.Proofs.Reassignment
import Rulebook.Proofs.Registrations
import Rulebook.Proofs.StaticFields

namespace Rulebook

section Edits

variable [Plugins]

/-! ## Kinds that are built -/

namespace RuleKind

/-- A kind that a builder makes.  It starts from a name and the settings of a rule with
    nothing assigned, and is given a description and fields one by one.  A builder is for
    settings of one form: its fields write no others. -/
inductive Built : RuleKind → Prop
  | start (name : String) (blank : Settings) : Built { name, fields := [], blank }
  | describe {kind : RuleKind} (h : Built kind) (text : String) :
      Built { kind with description := some text }
  | addField {kind : RuleKind} (h : Built kind) {field : Field}
      (hslot : field.slot.form = kind.form) : Built { kind with fields := kind.fields ++ [field] }

variable {kind : RuleKind}

theorem Built.slot_form (h : kind.Built) {field : Field} (hfield : field ∈ kind.fields) :
    field.slot.form = kind.form := by
  induction h with
  | start name blank => cases hfield
  | describe h text ih => exact ih hfield
  | @addField kind h added hslot ih =>
    rcases List.mem_append.mp hfield with hfield | hfield
    · exact ih hfield
    · rw [List.mem_singleton.mp hfield]
      exact hslot

/-- A builder makes all kinds whose fields write settings of the form of the blank ones. -/
theorem built_iff : kind.Built ↔ ∀ field ∈ kind.fields, field.slot.form = kind.form := by
  refine ⟨fun h field hfield => h.slot_form hfield, fun h => ?_⟩
  obtain ⟨name, description, fields, blank⟩ := kind
  -- the last field is the last call of the builder
  induction fields using List.reverseRecOn with
  | nil =>
    cases description with
    | none => exact .start name blank
    | some text => exact (Built.start name blank).describe text
  | append_singleton fields field ih =>
    have hfields : Built ⟨name, description, fields, blank⟩ :=
      ih fun other hother => h other (List.mem_append_left _ hother)
    exact hfields.addField (h field (List.mem_append_right _ List.mem_cons_self))

theorem built_of_mem_builtins : ∀ kind ∈ builtins, kind.Built := by
  simp only [built_iff]
  refine forall_mem_builtins.mpr ⟨?_, ?_, ?_, ?_, ?_⟩
  all_goals
    simp [guard, print, warning, problem, fileFilter, issueFields, Slot.form, form, Settings.form]

end RuleKind

/-- If all kinds that calls offer are built, all that are registered are. -/
theorem Registry.built_of_get?_ofCalls {calls : List Registration}
    (hcalls : ∀ call ∈ calls, ∀ kind ∈ call.offered, kind.Built) {name : String}
    {kind : RuleKind} (hkind : (ofCalls calls).get? name = some kind) : kind.Built := by
  rw [get?_ofCalls] at hkind
  have haccepted : kind ∈ calls.flatMap (·.accepted) :=
    (List.mem_filter.mp (List.mem_of_getLast? hkind)).1
  obtain ⟨call, hcall, hmem⟩ := List.mem_flatMap.mp haccepted
  exact hcalls call hcall kind ((List.takeWhile_prefix _).subset hmem)

/-! ## Fields that a kind has or lacks -/

namespace RuleKind

/-- The kind declares a field of the name. -/
def HasField (kind : RuleKind) (name : String) : Prop := ∃ field ∈ kind.fields, field.name = name

instance (kind : RuleKind) (name : String) : Decidable (kind.HasField name) :=
  inferInstanceAs (Decidable (∃ field ∈ kind.fields, field.name = name))

variable {kind : RuleKind} {settings : Settings} {name : String}

theorem field?_eq_none_iff_not_hasField : kind.field? name = none ↔ ¬ kind.HasField name := by
  rw [field?_eq_none_iff]
  simp [HasField]

theorem assign_of_not_hasField (h : ¬ kind.HasField name) (settings : Settings) (text : String) :
    kind.assign settings name text = .ok none :=
  assign_of_undeclared (field?_eq_none_iff.mp (field?_eq_none_iff_not_hasField.mpr h)) settings text

/-- A field of a built kind refuses a text or takes it, so a text is ignored only if the kind
    lacks the field. -/
theorem Built.assign_eq_ok_none_iff (h : kind.Built) (hform : settings.form = kind.form)
    (text : String) : kind.assign settings name text = .ok none ↔ ¬ kind.HasField name := by
  constructor
  · intro hassign hhas
    obtain ⟨field, hfield⟩ : ∃ field, kind.field? name = some field :=
      Option.ne_none_iff_exists'.mp fun hnone => field?_eq_none_iff_not_hasField.mp hnone hhas
    -- it writes a part of these settings, so the text is refused or written
    have hslot : field.slot.form = kind.form := h.slot_form (mem_of_field? hfield).1
    rcases assign_spec hform name text with ⟨e, -, he⟩ | ⟨hmeaning, -⟩ | ⟨_, _, _, -, hsome, -⟩
    · cases hassign.symm.trans he
    · exact meaning_ne_ok_none hfield hslot text hmeaning
    · cases hassign.symm.trans hsome
  · intro hlacks
    exact assign_of_not_hasField hlacks settings text

theorem copy?_ne_none_iff : kind.copy? settings ≠ none ↔ settings.form = kind.form := by
  simp [copy?]

/-- A built kind writes no settings of another form. -/
theorem Built.assign_of_form_ne (h : kind.Built) (hform : settings.form ≠ kind.form)
    (name text : String) (settings' : Settings) :
    kind.assign settings name text ≠ .ok (some settings') := by
  unfold assign
  cases hfield : kind.field? name with
  | none => simp
  | some field =>
    have hslot : field.slot.form ≠ settings.form := by
      rw [h.slot_form (mem_of_field? hfield).1]
      exact hform.symm
    simp only [Slot.write_of_form_ne hslot]
    cases field.kind.coerce text <;> simp

/-- Texts for fields that the kind lacks leave the settings as they are. -/
theorem updateAll_of_not_hasField {values : List (String × String)}
    (h : ∀ value ∈ values, ¬ kind.HasField value.1) (settings : Settings) :
    kind.updateAll settings values = settings := by
  induction values with
  | nil => rfl
  | cons value values ih =>
    have hassign := assign_of_not_hasField (h value List.mem_cons_self) settings value.2
    rw [updateAll_cons, update, hassign]
    exact ih fun other hother => h other (List.mem_cons_of_mem _ hother)

theorem firstRefusal?_of_not_hasField {values : List (String × String)}
    (h : ∀ value ∈ values, ¬ kind.HasField value.1) : kind.firstRefusal? values = none := by
  rw [firstRefusal?_eq_none_iff]
  intro value hvalue
  have hnone := field?_eq_none_iff_not_hasField.mpr (h value hvalue)
  exact refusal?_eq_none_of_undeclared hnone value.2

end RuleKind

/-! ## Edits of a rule -/

namespace Rule

/-- A call that configures a rule. -/
inductive Edit
  /-- Assign a text to a field. -/
  | setField (field text : String)
  /-- Keep a template for a dynamic field. -/
  | setDynamic (field template : String)
  deriving DecidableEq, Repr

namespace Edit

/-- The field and the text of an assignment. -/
def text? : Edit → Option (String × String)
  | setField field text => some (field, text)
  | setDynamic _ _ => none

/-- The field and the template that is to be kept for it. -/
def template? : Edit → Option (String × String)
  | setField _ _ => none
  | setDynamic field template => some (field, template)

end Edit

/-- A rule after a call.  An assignment that is refused, or finds no field, leaves the rule as
    it is. -/
def edit (rule : Rule) : Edit → Rule
  | .setField field text =>
    match rule.setField field text with
    | .ok (some rule') => rule'
    | _ => rule
  | .setDynamic field template => rule.setDynamic field template

/-- A rule after some calls, in order. -/
def editAll (rule : Rule) (edits : List Edit) : Rule := edits.foldl edit rule

theorem setField_eq_ok_none_iff {rule : Rule} {field text : String} :
    rule.setField field text = .ok none ↔
      rule.kind.assign rule.settings field text = .ok none := by
  unfold setField
  rcases rule.kind.assign rule.settings field text with e | _ | settings <;> simp [Except.map]

theorem edit_setField (rule : Rule) (field text : String) :
    rule.edit (.setField field text) =
      { rule with settings := rule.kind.update rule.settings field text } := by
  simp only [edit, setField, RuleKind.update]
  rcases rule.kind.assign rule.settings field text with e | _ | settings
  · rfl
  · rfl
  · rfl

/-- Assignments and templates do not meet: the settings are what the texts make of them, and
    the table what the templates make of it. -/
theorem editAll_eq (rule : Rule) (edits : List Edit) :
    rule.editAll edits =
      { kind := rule.kind
        settings := rule.kind.updateAll rule.settings (edits.filterMap Edit.text?)
        dynamic := (edits.filterMap Edit.template?).foldl
          (fun templates entry => templates.set entry.1 entry.2) rule.dynamic } := by
  induction edits generalizing rule with
  | nil => rfl
  | cons first edits ih =>
    rw [editAll, List.foldl_cons]
    cases first with
    | setField field text =>
      -- refused or not, an assignment is an update, which leaves the table alone
      rw [edit_setField]
      exact ih _
    | setDynamic field template => exact ih _

/-! ## Resolving and testing -/

variable {rule : Rule}

/-- A rule with settings of the form of its kind resolves to such settings, or one of its
    templates gives a text that its field refuses. -/
theorem resolve_cases (hform : rule.settings.form = rule.kind.form) (bindings : Variables) :
    (∃ settings, rule.resolve bindings = .ok settings ∧ settings.form = rule.kind.form ∧
      settings.issueKind? = rule.settings.issueKind?) ∨
    ∃ field ∈ rule.kind.fields, ∃ template, (field.name, template) ∈ rule.dynamic.entries ∧
      rule.resolve bindings =
        .error (.coercion ⟨field.name, bindings.substitute template, field.kind⟩) := by
  rw [resolve_eq hform]
  cases hrefusal : rule.kind.firstRefusal? (bindings.valuesOf rule.dynamic.entries) with
  | none =>
    exact .inl ⟨_, rfl, RuleKind.form_updateAll hform, RuleKind.issueKind?_updateAll hform _⟩
  | some e =>
    -- the first refused text is that of a template, and its field is one of the kind
    obtain ⟨value, hvalue, he⟩ := List.exists_of_findSome?_eq_some hrefusal
    obtain ⟨⟨name, template⟩, hentry, rfl⟩ := List.mem_map.mp hvalue
    obtain ⟨field, hfield, -, rfl⟩ := RuleKind.refusal?_eq_some_iff_rejects.mp he
    obtain ⟨hmem, rfl⟩ := RuleKind.mem_of_field? hfield
    exact .inr ⟨field, hmem, template, hentry, rfl⟩

/-- Templates for fields that the kind lacks have no say in what a rule resolves to. -/
theorem resolve_of_not_hasField (hform : rule.settings.form = rule.kind.form)
    (h : ∀ name ∈ rule.dynamic.names, ¬ rule.kind.HasField name) (bindings : Variables) :
    rule.resolve bindings = .ok rule.settings := by
  have hvalues : ∀ value ∈ bindings.valuesOf rule.dynamic.entries,
      ¬ rule.kind.HasField value.1 := by
    intro value hvalue
    refine h value.1 ?_
    rw [Roster.names, ← bindings.map_fst_valuesOf]
    exact List.mem_map_of_mem hvalue
  rw [resolve_eq hform, RuleKind.firstRefusal?_of_not_hasField hvalues,
    RuleKind.updateAll_of_not_hasField hvalues]

/-- Test what a rule resolves to, also if it has no dynamic fields. -/
def testResolved [PluginTests] (fs : FileSystem) (run : Runner) (input : Input) (session : Session)
    (rule : Rule) : Option (Bool × Session) :=
  match rule.resolve session.bindings with
  | .ok settings => settings.test fs run input session
  | .error _ => some (false, session)

/-! ## Rules after any edits -/

/-- What a rule of a kind is after some edits. -/
structure EditAccount [PluginTests] (kind : RuleKind) (edits : List Edit) (rule : Rule) : Prop where
  kind_eq : rule.kind = kind
  /-- The settings are of the form of the kind.  If the kind is one of a plugin, they are a rule
      of the concrete type that it was built for. -/
  form_eq : rule.settings.form = kind.form
  /-- Kinds of one form do not turn into each other: the kind of issue stays too. -/
  issueKind_eq : rule.settings.issueKind? = kind.blank.issueKind?
  /-- The settings are what the texts make of the blank ones. -/
  settings_eq : rule.settings = kind.updateAll kind.blank (edits.filterMap Edit.text?)
  /-- A text is ignored exactly if the kind lacks the field. -/
  setField_eq_ok_none_iff (name text : String) :
    rule.setField name text = .ok none ↔ ¬ kind.HasField name
  copy?_eq : kind.copy? rule.settings = some rule.settings
  /-- Another kind can copy the settings as well exactly if it has the same form. -/
  copy?_ne_none_iff (other : RuleKind) : other.copy? rule.settings ≠ none ↔ other.form = kind.form
  /-- A kind of another form leaves the settings as they are. -/
  assign_of_form_ne (other : RuleKind) : other.Built → other.form ≠ kind.form →
    ∀ name text settings, other.assign rule.settings name text ≠ .ok (some settings)
  /-- The rule resolves to settings of its kind, or a field refuses the text of its template.
      There is no other error. -/
  resolve_cases (bindings : Variables) :
    (∃ settings, rule.resolve bindings = .ok settings ∧ settings.form = kind.form ∧
      settings.issueKind? = rule.settings.issueKind?) ∨
    ∃ field ∈ kind.fields, ∃ template, (field.name, template) ∈ rule.dynamic.entries ∧
      rule.resolve bindings =
        .error (.coercion ⟨field.name, bindings.substitute template, field.kind⟩)
  /-- No field has two templates. -/
  nodup_names : rule.dynamic.names.Nodup
  /-- The fields with a template are in the order in which they were first given one. -/
  names_eq : rule.dynamic.names = ((edits.filterMap Edit.template?).map Prod.fst).eraseDups
  /-- A field has the template that it was given last. -/
  get?_eq (name : String) :
    rule.dynamic.get? name = Roster.lastIn name (edits.filterMap Edit.template?)
  /-- If all templates are for fields that the kind lacks, the rule resolves to what it holds. -/
  resolve_settings : (∀ name ∈ rule.dynamic.names, ¬ kind.HasField name) →
    ∀ bindings, rule.resolve bindings = .ok rule.settings
  /-- A rule without templates is tested as it is, others resolved; it comes to the same as
      resolving all of them. -/
  test_eq (fs : FileSystem) (run : Runner) (input : Input) (session : Session) :
    rule.test fs run input session = rule.testResolved fs run input session
  /-- If all templates are for fields that the kind lacks, a test is one of the rule as it is. -/
  test_settings : (∀ name ∈ rule.dynamic.names, ¬ kind.HasField name) →
    ∀ fs run input session,
      rule.test fs run input session = rule.settings.test fs run input session

/-- Whatever was registered by calls that offer built kinds, and whatever edits a rule of a
    registered kind has seen, refused ones among them: its settings are some of its kind, and
    its table has one template a field.  So no text is ignored that is for a field of the kind,
    the rule can be copied and resolved, and a rule without templates may be tested as it is. -/
theorem editAll_accounts [PluginTests] {calls : List Registration}
    (hcalls : ∀ call ∈ calls, ∀ kind ∈ call.offered, kind.Built) {name : String}
    {kind : RuleKind} (hkind : (Registry.ofCalls calls).get? name = some kind)
    (edits : List Edit) : EditAccount kind edits ((ofKind kind).editAll edits) := by
  have hbuilt : kind.Built := Registry.built_of_get?_ofCalls hcalls hkind
  have hblank : kind.blank.form = kind.form := rfl
  -- the one fact about the settings that carries all the others
  have hform : (kind.updateAll kind.blank (edits.filterMap Edit.text?)).form = kind.form :=
    RuleKind.form_updateAll hblank
  rw [editAll_eq]
  exact {
    kind_eq := rfl
    form_eq := hform
    issueKind_eq := RuleKind.issueKind?_updateAll hblank _
    settings_eq := rfl
    setField_eq_ok_none_iff := fun name text =>
      setField_eq_ok_none_iff.trans (hbuilt.assign_eq_ok_none_iff hform text)
    copy?_eq := if_pos hform
    copy?_ne_none_iff := fun other =>
      RuleKind.copy?_ne_none_iff.trans ⟨fun h => h.symm.trans hform, fun h => hform.trans h.symm⟩
    assign_of_form_ne := fun other hother hne name text settings =>
      hother.assign_of_form_ne (hform ▸ hne.symm) name text settings
    resolve_cases := resolve_cases hform
    nodup_names := Roster.nodup _
    names_eq := Roster.names_foldl_change_empty Prod.fst (fun entry _ => entry.2) _
    get?_eq := Roster.get?_foldl_set_empty _
    resolve_settings := resolve_of_not_hasField hform
    test_eq := test_eq_resolve hform
    test_settings := fun h fs run input session => by
      rw [test_eq_resolve hform, resolve_of_not_hasField hform h] }

end Rule

end Edits

namespace Rule

open Counter

/-- A counter, whose kind shares its concrete type with another kind and not with a third.  Its
    result is set and then refused another value, and its templates are for a field that the
    kind lacks. -/
theorem editAll_accounts_counter :
    let tally : RuleKind := Counter.kind "tally" "tally"
    let count : RuleKind := Counter.kind "count" "tally"
    let note : RuleKind := Counter.kind "note" "note"
    let calls : List Registration :=
      [.several RuleKind.builtins, .one note, .several [tally, count]]
    let edits : List Edit := [.setDynamic "color" "{x}", .setField "result" "false",
      .setField "result" "maybe", .setField "color" "red", .setDynamic "color" "{y}"]
    let rule := (ofKind tally).editAll edits
    let held : Settings := Counter.settings "tally" false
    (∀ call ∈ calls, ∀ kind ∈ call.offered, kind.Built) ∧
      (Registry.ofCalls calls).get? "tally" = some tally ∧
      rule.settings = held ∧ rule.dynamic.entries = [("color", "{y}")] ∧ rule.isDynamic = true ∧
      count.copy? rule.settings ≠ none ∧ note.copy? rule.settings = none ∧
      (∀ settings, note.assign rule.settings "result" "true" ≠ .ok (some settings)) ∧
      rule.setField "color" "red" = .ok none ∧ rule.setField "result" "many" ≠ .ok none ∧
      (∀ bindings, rule.resolve bindings = .ok held) ∧
      ∀ fs run input session,
        rule.test fs run input session = held.test fs run input session := by
  intro tally count note calls edits rule held
  have hcounter : ∀ name type : String, (Counter.kind name type).Built := by
    intro name type
    rw [RuleKind.built_iff]
    intro field hfield
    rw [List.mem_singleton.mp hfield]
    rfl
  have hcalls : ∀ call ∈ calls, ∀ kind ∈ call.offered, kind.Built := by
    intro call hcall kind hkind
    simp only [calls, List.mem_cons, List.not_mem_nil, or_false] at hcall
    rcases hcall with rfl | rfl | rfl
    · exact RuleKind.built_of_mem_builtins kind hkind
    · rw [List.mem_singleton.mp hkind]
      exact hcounter _ _
    · simp only [Registration.offered, List.mem_cons, List.not_mem_nil, or_false] at hkind
      rcases hkind with rfl | rfl <;> exact hcounter _ _
  have hkind : (Registry.ofCalls calls).get? "tally" = some tally := by decide +kernel
  have account := editAll_accounts hcalls hkind edits
  have hsettings : rule.settings = held := by decide +kernel
  have hentries : rule.dynamic.entries = [("color", "{y}")] := by decide +kernel
  have hlacks : ∀ name ∈ rule.dynamic.names, ¬ tally.HasField name := by decide +kernel
  have hforms : note.form ≠ tally.form := by decide
  refine ⟨hcalls, hkind, hsettings, hentries, ?_, ?_, ?_, ?_, ?_, ?_, ?_, ?_⟩
  · rw [isDynamic, hentries]
    rfl
  · exact (account.copy?_ne_none_iff count).mpr rfl
  · exact Classical.not_not.mp fun h => hforms ((account.copy?_ne_none_iff note).mp h)
  · exact account.assign_of_form_ne note (hcounter _ _) hforms "result" "true"
  · exact (account.setField_eq_ok_none_iff "color" "red").mpr (by decide)
  · exact fun h => (account.setField_eq_ok_none_iff "result" "many").mp h (by decide)
  · exact fun bindings => hsettings ▸ account.resolve_settings hlacks bindings
  · exact fun fs run input session => hsettings ▸ account.test_settings hlacks fs run input session

end Rule

end Rulebook
