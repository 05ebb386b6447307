/-
  Rulebook.Proofs.FieldOrder

  The order in which a rule line gives its fields does not matter.  Different fields
  write apart from each other, so texts for them update the settings to the same in any
  order (`Separate.updateAll_perm`), and no field looks at what was set
  before when it refuses a text.  The same holds when the templates of the dynamic fields
  are replayed.  So lines that have the same groups in different orders give the same rule
  but for the order of its templates, and it resolves to the same (`parse_reordered`).
-/
import Rulebook.Kind.Custom
import Rulebook.Proofs.Assignment
import Rulebook.Proofs.DynamicTable
import Rulebook.Proofs.LineGroups

namespace Rulebook

open Line (Assignment FieldGroup tokensOf)

/-! ## Texts and templates in another order -/

theorem Variables.valuesOf_perm (bindings : Variables)
    {templates templates' : List (String × String)} (h : templates.Perm templates') :
    (bindings.valuesOf templates).Perm (bindings.valuesOf templates') :=
  h.map _

/-- The dynamic fields keep the same templates, one for each of them. -/
theorem Rule.entries_templatesAfter_perm {assignments assignments' : List Assignment}
    (hperm : assignments.Perm assignments') (hnodup : (assignments.map (·.field)).Nodup) :
    (templatesAfter ∅ assignments).entries.Perm (templatesAfter ∅ assignments').entries := by
  have hnodup' : (assignments'.map (·.field)).Nodup := (hperm.map _).nodup_iff.mp hnodup
  rw [entries_templatesAfter hnodup (by simp), entries_templatesAfter hnodup' (by simp)]
  exact ((hperm.filter _).map _).append_left _

section Order

variable [Plugins]

namespace RuleKind

variable {kind : RuleKind} {values values' : List (String × String)}

/-- Whether all texts are accepted does not depend on their order. -/
theorem firstRefusal?_eq_none_iff_of_perm (h : values.Perm values') :
    kind.firstRefusal? values = none ↔ kind.firstRefusal? values' = none := by
  rw [firstRefusal?_eq_none_iff, firstRefusal?_eq_none_iff]
  constructor
  · intro haccepted value hvalue
    exact haccepted value (h.mem_iff.mpr hvalue)
  · intro haccepted value hvalue
    exact haccepted value (h.mem_iff.mp hvalue)

/-- Texts for different fields update the settings to the same in any order. -/
theorem Separate.updateAll_perm (h : kind.Separate) {settings : Settings}
    (hform : settings.form = kind.form) (hperm : values.Perm values')
    (hnodup : (values.map Prod.fst).Nodup) :
    kind.updateAll settings values = kind.updateAll settings values' := by
  induction hperm generalizing settings with
  | nil => rfl
  | cons value _ ih =>
    rw [List.map_cons, List.nodup_cons] at hnodup
    exact ih (form_update hform value.1 value.2) hnodup.2
  | swap first second values =>
    -- two neighbours change places: they are for different fields
    have hne : second.1 ≠ first.1 := by
      rw [List.map_cons, List.nodup_cons] at hnodup
      intro hsame
      exact hnodup.1 (hsame ▸ List.mem_map_of_mem List.mem_cons_self)
    have hcomm := h.update_comm hform hne second.2 first.2
    simp only [updateAll_cons, hcomm]
  | trans hfirst _ ih ih' =>
    have hnodup' := (hfirst.map Prod.fst).nodup_iff.mp hnodup
    exact (ih hform hnodup).trans (ih' hform hnodup')

end RuleKind

namespace Rule

/-! ## Assignments in another order -/

/-- The values update the settings of a kind to the same. -/
theorem updateAll_entries_perm {assignments assignments' : List Assignment}
    (hperm : assignments.Perm assignments') (hnodup : (assignments.map (·.field)).Nodup)
    {kind : RuleKind} (hkind : kind.Separate) {settings : Settings}
    (hform : settings.form = kind.form) (bindings : Variables) :
    kind.updateAll settings (bindings.valuesOf (assignments.map (·.entry))) =
      kind.updateAll settings (bindings.valuesOf (assignments'.map (·.entry))) := by
  refine hkind.updateAll_perm hform (bindings.valuesOf_perm (hperm.map _)) ?_
  rw [Variables.map_fst_valuesOf, List.map_map]
  exact hnodup

/-- Rules that differ in the order of their templates resolve to the same, or not at all. -/
theorem resolve_perm {rule rule' : Rule} (hseparate : rule.kind.Separate)
    (hform : rule.settings.form = rule.kind.form) (hkind : rule.kind = rule'.kind)
    (hsettings : rule.settings = rule'.settings)
    (hdynamic : rule.dynamic.entries.Perm rule'.dynamic.entries) (bindings : Variables)
    (settings : Settings) :
    rule.resolve bindings = .ok settings ↔ rule'.resolve bindings = .ok settings := by
  have hform' : rule'.settings.form = rule'.kind.form := by rw [← hsettings, ← hkind, hform]
  have hvalues := bindings.valuesOf_perm hdynamic
  have hnodup : ((bindings.valuesOf rule.dynamic.entries).map Prod.fst).Nodup := by
    rw [Variables.map_fst_valuesOf]
    exact rule.dynamic.nodup
  rw [resolve_eq_ok_iff hform, resolve_eq_ok_iff hform', ← hkind, ← hsettings,
    RuleKind.firstRefusal?_eq_none_iff_of_perm hvalues,
    hseparate.updateAll_perm hform hvalues hnodup]

/-! ## Lines in another order -/

/-- The order of the fields in a line does not matter.  Two lines that name one built-in kind
    and have the same groups in different orders, none of them for a field of another one, give
    both a rule or none.  The rules have the same settings and the same templates, and whatever
    the variables are later, they resolve to the same settings or both do not resolve. -/
theorem parse_reordered {registry : Registry} {name : String} {kind : RuleKind}
    (hkind : registry.get? name = some kind) (hbuiltin : kind ∈ RuleKind.builtins)
    {groups groups' : List FieldGroup} (horder : groups.Perm groups')
    (hfields : (groups.map (·.assignment.field)).Nodup) {line line' : String}
    (hline : tokensOf line.toList = name.toList :: groups.flatMap FieldGroup.tokens)
    (hline' : tokensOf line'.toList = name.toList :: groups'.flatMap FieldGroup.tokens)
    (bindings : Variables) :
    ((∃ rule, parse registry bindings line = .ok rule) ↔
      ∃ rule, parse registry bindings line' = .ok rule) ∧
    ∀ rule rule', parse registry bindings line = .ok rule →
      parse registry bindings line' = .ok rule' →
      rule.kind = rule'.kind ∧ rule.settings = rule'.settings ∧
        rule.dynamic.entries.Perm rule'.dynamic.entries ∧
        ∀ bindings' settings,
          rule.resolve bindings' = .ok settings ↔ rule'.resolve bindings' = .ok settings := by
  have hseparate : kind.Separate := RuleKind.separate_of_mem_builtins hbuiltin
  have hblank : kind.blank.form = kind.form := rfl
  have hread := Line.read?_of_grouped hline (Line.grouped_flatMap_tokens groups)
  have hread' := Line.read?_of_grouped hline' (Line.grouped_flatMap_tokens groups')
  have hperm : (groups.map FieldGroup.assignment).Perm (groups'.map FieldGroup.assignment) :=
    horder.map _
  have hnodup : ((groups.map FieldGroup.assignment).map (·.field)).Nodup := by
    rw [List.map_map]
    exact hfields
  have hparse := fun rule => @parse_eq_ok_iff _ _ _ _ _ hread hkind bindings rule
  have hparse' := fun rule => @parse_eq_ok_iff _ _ _ _ _ hread' hkind bindings rule
  -- both lines are decided by the same values, in different orders
  have haccepted := @RuleKind.firstRefusal?_eq_none_iff_of_perm _ kind _ _
    (bindings.valuesOf_perm (hperm.map Assignment.entry))
  refine ⟨?_, fun rule rule' hrule hrule' => ?_⟩
  · simp only [hparse, hparse', exists_and_left, exists_eq, and_true]
    exact haccepted
  · obtain ⟨-, hmade⟩ := (hparse rule).mp hrule
    obtain ⟨-, hmade'⟩ := (hparse' rule').mp hrule'
    have hkinds : rule.kind = rule'.kind := by rw [hmade, hmade']
    have hsettings : rule.settings = rule'.settings := by
      rw [hmade, hmade']
      exact updateAll_entries_perm hperm hnodup hseparate hblank bindings
    have htemplates : rule.dynamic.entries.Perm rule'.dynamic.entries := by
      rw [hmade, hmade']
      exact entries_templatesAfter_perm hperm hnodup
    have hform : rule.settings.form = rule.kind.form := by
      rw [hmade]
      exact RuleKind.form_updateAll hblank
    have hown : rule.kind.Separate := by
      rw [hmade]
      exact hseparate
    exact ⟨hkinds, hsettings, htemplates, fun bindings' settings =>
      resolve_perm hown hform hkinds hsettings htemplates bindings' settings⟩

end Rule

end Order

namespace Rule

/-- A file filter with a dynamic field, a flag and a dynamic field that it does not have, in one
    order and in the reverse of it. -/
theorem parse_reordered_filter :
    let line := "file-filter --then a --name$ {x} --file --other$ 'b --c' d"
    let line' := "file-filter --other$ 'b --c' d --file --name$ {x} --then a"
    ∃ rule rule', parse .builtin ∅ line = .ok rule ∧ parse .builtin ∅ line' = .ok rule' ∧
      rule.dynamic.names = ["name", "other"] ∧ rule'.dynamic.names = ["other", "name"] ∧
      rule.settings = rule'.settings ∧
      ∀ bindings settings,
        rule.resolve bindings = .ok settings ↔ rule'.resolve bindings = .ok settings := by
  intro line line'
  let groups : List FieldGroup := [⟨"then".toList, ["a".toList], by decide⟩,
    ⟨"name$".toList, ["{x}".toList], by decide⟩, ⟨"file".toList, [], by decide⟩,
    ⟨"other$".toList, ["'b --c'".toList, "d".toList], by decide⟩]
  have hkind : Registry.builtin.get? "file-filter" = some .fileFilter := rfl
  have hbuiltin : RuleKind.fileFilter ∈ RuleKind.builtins := by decide
  have horder : groups.Perm groups.reverse := (List.reverse_perm groups).symm
  have hfields : (groups.map (·.assignment.field)).Nodup := by decide +kernel
  have hline : tokensOf line.toList =
      "file-filter".toList :: groups.flatMap FieldGroup.tokens := by decide +kernel
  have hline' : tokensOf line'.toList =
      "file-filter".toList :: groups.reverse.flatMap FieldGroup.tokens := by decide +kernel
  have hread := Line.read?_of_grouped hline (Line.grouped_flatMap_tokens groups)
  have haccepted : RuleKind.fileFilter.firstRefusal? (Variables.valuesOf ∅
      ((groups.map FieldGroup.assignment).map (·.entry))) = none := by decide +kernel
  have hparse := (parse_eq_ok_iff hread hkind).mpr ⟨haccepted, rfl⟩
  obtain ⟨hboth, hsame⟩ := parse_reordered hkind hbuiltin horder hfields hline hline' ∅
  obtain ⟨rule', hparse'⟩ := hboth.mp ⟨_, hparse⟩
  obtain ⟨-, hsettings, -, hresolve⟩ := hsame _ rule' hparse hparse'
  have hread' := Line.read?_of_grouped hline' (Line.grouped_flatMap_tokens groups.reverse)
  have hrule' := ((parse_eq_ok_iff hread' hkind).mp hparse').2
  refine ⟨_, rule', hparse, hparse', by decide +kernel, ?_, hsettings, hresolve⟩
  rw [hrule']
  decide +kernel

end Rule

end Rulebook
