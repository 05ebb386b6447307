/-
  Rulebook.Proofs.Builtin

  Rules of the built-in kinds.  A line that names a built-in kind gives such a
  rule (`isBuiltin_of_parse`), and resolving its dynamic fields does not change
  the form of its settings (`form_resolve`).
-/
import Rulebook.Proofs.RegisteredKinds
import Rulebook.Proofs.RuleLine
import Rulebook.RuleSet

namespace Rulebook

variable [Plugins]

namespace Rule

/-- A rule of a built-in kind, with settings of the form of its kind. -/
structure IsBuiltin (rule : Rule) : Prop where
  kind_mem : rule.kind ∈ RuleKind.builtins
  form_eq : rule.settings.form = rule.kind.form

instance (rule : Rule) : Decidable rule.IsBuiltin :=
  decidable_of_iff (rule.kind ∈ RuleKind.builtins ∧ rule.settings.form = rule.kind.form)
    ⟨fun h => ⟨h.1, h.2⟩, fun h => ⟨h.kind_mem, h.form_eq⟩⟩

theorem IsBuiltin.form_ne_custom {rule : Rule} (h : rule.IsBuiltin) :
    ¬ rule.settings.form.IsCustom := by
  rw [h.form_eq]
  have hforms : ∀ kind ∈ RuleKind.builtins, ¬ kind.form.IsCustom :=
    RuleKind.forall_mem_builtins.mpr ⟨id, id, id, id, id⟩
  exact hforms rule.kind h.kind_mem

/-- A rule that is read has the kind that its line names, with settings of its form. -/
theorem form_of_parse {registry : Registry} {bindings : Variables} {line : String} {rule : Rule}
    (h : parse registry bindings line = .ok rule) :
    rule.kind ∈ registry.toList ∧ rule.settings.form = rule.kind.form := by
  obtain ⟨definition, kind, -, hkind, -, rfl⟩ := eq_of_parse h
  exact ⟨List.mem_map_of_mem (Roster.mem_of_get?_eq_some hkind), RuleKind.form_updateAll rfl⟩

theorem isBuiltin_of_parse {bindings : Variables} {line : String} {rule : Rule}
    (h : parse .builtin bindings line = .ok rule) : rule.IsBuiltin :=
  ⟨Registry.toList_builtin ▸ (form_of_parse h).1, (form_of_parse h).2⟩

/-- Resolving the dynamic fields of a rule keeps the form of its settings. -/
theorem form_resolve {rule : Rule} (hform : rule.settings.form = rule.kind.form)
    {bindings : Variables} {settings : Settings} (h : rule.resolve bindings = .ok settings) :
    settings.form = rule.settings.form := by
  rw [resolve_eq hform] at h
  split at h
  · cases h
  · cases h
    rw [RuleKind.form_updateAll hform, hform]

end Rule

/-- All rules of a set are of built-in kinds. -/
def RuleSet.IsBuiltin (set : RuleSet) : Prop := ∀ rule ∈ set.rules, rule.IsBuiltin

/-- All sets of a table hold rules of built-in kinds only. -/
def SetTable.IsBuiltin (table : SetTable) : Prop :=
  ∀ (name : String) (set : RuleSet), table[name]? = some set → set.IsBuiltin

end Rulebook
