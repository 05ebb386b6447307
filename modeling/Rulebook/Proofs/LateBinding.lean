/-
  Rulebook.Proofs.LateBinding

  Late binding: a rule that was read under some variables and is resolved under
  others is the rule that its line gives under these.

  Fields that are not dynamic have no placeholder, so their texts are the same
  under all variables.  The text that a dynamic field had at first is replaced
  when the rule is resolved, and until then the updates of the other fields, which
  write apart from it, do not touch it (`updateAll_rebind`).
-/
import Rulebook.Kind.Custom
import Rulebook.Proofs.Assignment
import Rulebook.Proofs.DynamicTable
import Rulebook.Proofs.Substitution

namespace Rulebook

open Line (Assignment)

namespace Rule

section Binding

variable [Plugins] {kind : RuleKind}

/-! ## Binding anew -/

/-- Updates under some variables, followed by those of the dynamic fields under others,
    come to the updates under the others. -/
theorem updateAll_rebind (hkind : kind.Separate) {settings : Settings}
    (hform : settings.form = kind.form) (bindings bindings' : Variables)
    {assignments : List Assignment} (hnodup : (assignments.map (·.field)).Nodup)
    (hstatic : ∀ a ∈ assignments, a.dynamic = false →
      ¬ Variables.HasPlaceholder a.template.toList)
    (haccepted : ∀ a ∈ assignments,
      kind.refusal? a.field (bindings'.substitute a.template) = none) :
    kind.updateAll (kind.updateAll settings (bindings.valuesOf (assignments.map (·.entry))))
        (bindings'.valuesOf ((assignments.filter (·.dynamic)).map (·.entry))) =
      kind.updateAll settings (bindings'.valuesOf (assignments.map (·.entry))) := by
  induction assignments generalizing settings with
  | nil => rfl
  | cons a assignments ih =>
    rw [List.map_cons, List.nodup_cons] at hnodup
    have hrest : ∀ b ∈ assignments, b ∈ a :: assignments := fun b hb =>
      List.mem_cons_of_mem _ hb
    have ih' := fun {settings : Settings} (h : settings.form = kind.form) =>
      ih h hnodup.2 (fun b hb => hstatic b (hrest b hb)) fun b hb => haccepted b (hrest b hb)
    simp only [Variables.valuesOf, List.map_cons, RuleKind.updateAll_cons]
    cases hd : a.dynamic with
    | false =>
      have hplain := hstatic a (by simp) hd
      have hsame : bindings.substitute a.template = bindings'.substitute a.template :=
        Variables.substitute_eq_substitute bindings bindings' hplain
      rw [List.filter_cons_of_neg (by simp [hd]), Assignment.entry, hsame]
      exact ih' (RuleKind.form_update hform _ _)
    | true =>
      have hfield : a.field ∉
          (bindings.valuesOf (assignments.map (·.entry))).map Prod.fst := by
        rw [Variables.map_fst_valuesOf, List.map_map]
        exact hnodup.1
      rw [List.filter_cons_of_pos (by simp [hd]), List.map_cons, List.map_cons,
        RuleKind.updateAll_cons]
      -- the field's new text is moved in front of the other updates, to where it
      -- replaces the field's first text
      have hmove := hkind.updateAll_update (RuleKind.form_update hform a.field
        (bindings.substitute a.template)) (bindings'.substitute a.template) hfield
      have hreplace := hkind.update_update hform (haccepted a (by simp))
        (bindings.substitute a.template)
      rw [hreplace] at hmove
      have hlast := ih' (RuleKind.form_update hform a.field (bindings'.substitute a.template))
      rw [hmove] at hlast
      exact hlast

/-- The first refused text of the dynamic fields is the first of all fields, as a field
    without a placeholder is accepted under all variables or none. -/
theorem firstRefusal?_dynamic (bindings bindings' : Variables) {assignments : List Assignment}
    (hstatic : ∀ a ∈ assignments, a.dynamic = false →
      ¬ Variables.HasPlaceholder a.template.toList)
    (haccepted : kind.firstRefusal?
      (bindings.valuesOf (assignments.map (·.entry))) = none) :
    kind.firstRefusal?
        (bindings'.valuesOf ((assignments.filter (·.dynamic)).map (·.entry))) =
      kind.firstRefusal? (bindings'.valuesOf (assignments.map (·.entry))) := by
  induction assignments with
  | nil => rfl
  | cons a assignments ih =>
    simp only [Variables.valuesOf, List.map_cons, RuleKind.firstRefusal?_cons,
      Assignment.entry, Option.or_eq_none_iff] at haccepted ⊢
    have hrest := ih (fun b hb => hstatic b (List.mem_cons_of_mem _ hb)) haccepted.2
    cases hd : a.dynamic with
    | false =>
      have hplain := hstatic a (by simp) hd
      have hsame : bindings'.substitute a.template = bindings.substitute a.template :=
        Variables.substitute_eq_substitute bindings' bindings hplain
      rw [List.filter_cons_of_neg (by simp [hd]), hsame, haccepted.1, Option.none_or]
      exact hrest
    | true =>
      -- the text of a dynamic field is judged anew, in the same place among the others
      rw [List.filter_cons_of_pos (by simp [hd]), List.map_cons, List.map_cons,
        RuleKind.firstRefusal?_cons]
      exact congrArg _ hrest

/-! ## Resolving and reading again -/

/-- Resolving a rule under other variables comes to reading its line under them: both
    give the same settings, or fail with the same error. -/
theorem resolve_rebinds {registry : Registry} (hkinds : ∀ kind ∈ registry.toList, kind.Separate)
    {bindings : Variables} (bindings' : Variables) {line : String} {rule : Rule}
    (hparse : parse registry bindings line = .ok rule) {definition : Line.Definition}
    (hread : Line.Definition.read? line = some definition)
    (hnodup : (definition.assignments.map (·.field)).Nodup)
    (hstatic : ∀ a ∈ definition.assignments, a.dynamic = false →
      ¬ Variables.HasPlaceholder a.template.toList) :
    (∃ rule', parse registry bindings' line = .ok rule' ∧
      rule.resolve bindings' = .ok rule'.settings) ∨
    ∃ e, parse registry bindings' line = .error (.coercion e) ∧
      rule.resolve bindings' = .error (.coercion e) := by
  obtain ⟨definition', kind, hread', hkind⟩ := exists_of_parse hparse
  obtain rfl : definition' = definition := Option.some.inj (hread'.symm.trans hread)
  have hseparate : kind.Separate :=
    hkinds kind (List.mem_map_of_mem (Roster.mem_of_get?_eq_some hkind))
  rw [parse_eq hread hkind] at hparse ⊢
  cases haccepted : kind.firstRefusal?
      (bindings.valuesOf (definition'.assignments.map (·.entry))) with
  | some e => simp [haccepted] at hparse
  | none =>
    simp only [haccepted, Except.ok.injEq] at hparse
    subst hparse
    have hform : (kind.updateAll kind.blank
        (bindings.valuesOf (definition'.assignments.map (·.entry)))).form = kind.form :=
      RuleKind.form_updateAll rfl
    have hentries : (templatesAfter ∅ definition'.assignments).entries =
        (definition'.assignments.filter (·.dynamic)).map (·.entry) := by
      rw [entries_templatesAfter hnodup (by simp), Roster.entries_empty, List.nil_append]
    -- both runs are now decided by the first refusal among the same texts
    rw [resolve_eq hform, hentries, firstRefusal?_dynamic bindings bindings' hstatic haccepted]
    cases hrefusal : kind.firstRefusal?
        (bindings'.valuesOf (definition'.assignments.map (·.entry))) with
    | some e => exact .inr ⟨e, rfl, rfl⟩
    | none =>
      have hall : ∀ a ∈ definition'.assignments,
          kind.refusal? a.field (bindings'.substitute a.template) = none := by
        intro a ha
        have hmem : (a.field, bindings'.substitute a.template) ∈
            bindings'.valuesOf (definition'.assignments.map (·.entry)) :=
          List.mem_map_of_mem (List.mem_map_of_mem ha)
        exact RuleKind.firstRefusal?_eq_none_iff.mp hrefusal _ hmem
      have hblank : kind.blank.form = kind.form := rfl
      have hrebind := updateAll_rebind hseparate hblank bindings bindings' hnodup hstatic hall
      exact .inl ⟨_, rfl, congrArg Except.ok hrebind⟩

end Binding

/-- The value of a guard is bound anew, its pattern and its flag are not. -/
theorem resolve_rebinds_guard :
    ∃ rule, parse .builtin ∅ "match --value$ '{x} a' --inverse --pattern ^a" = .ok rule ∧
      ((∃ rule', parse .builtin (.insert ∅ "x" "7")
          "match --value$ '{x} a' --inverse --pattern ^a" = .ok rule' ∧
        rule.resolve (.insert ∅ "x" "7") = .ok rule'.settings) ∨
      ∃ e, parse .builtin (.insert ∅ "x" "7")
          "match --value$ '{x} a' --inverse --pattern ^a" = .error (.coercion e) ∧
        rule.resolve (.insert ∅ "x" "7") = .error (.coercion e)) := by
  have hread : Line.Definition.read? "match --value$ '{x} a' --inverse --pattern ^a" =
      some ⟨"match", [⟨"value", true, "{x} a"⟩, ⟨"inverse", false, "true"⟩,
        ⟨"pattern", false, "^a"⟩]⟩ := by decide +kernel
  have hkind : Registry.builtin.get? "match" = some RuleKind.guard := rfl
  have haccepted : RuleKind.guard.firstRefusal? (Variables.valuesOf ∅
      [("value", "{x} a"), ("inverse", "true"), ("pattern", "^a")]) = none := by
    decide +kernel
  have hparse := parse_eq hread hkind ∅
  simp only [List.map_cons, List.map_nil, Assignment.entry, haccepted] at hparse
  refine ⟨_, hparse, resolve_rebinds ?_ _ hparse hread (by decide) ?_⟩
  · intro kind hmem
    exact RuleKind.separate_of_mem_builtins hmem
  · intro a ha hd
    simp only [List.mem_cons, List.not_mem_nil, or_false] at ha
    rcases ha with rfl | rfl | rfl
    · cases hd
    · exact Variables.not_hasPlaceholder_of_not_mem (by decide)
    · exact Variables.not_hasPlaceholder_of_not_mem (by decide)

end Rule

end Rulebook
