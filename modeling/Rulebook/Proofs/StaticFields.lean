/-
  Rulebook.Proofs.StaticFields

  What resolving leaves of a rule.  A field without a template keeps what it holds
  (`read_resolve`), so what a file filter runs and which variables it sets can be
  read off the rule where these fields are static (`IsBuiltin.resolve_filter`).
-/
import Rulebook.Evaluation
import Rulebook.Proofs.Assignment
import Rulebook.Proofs.Builtin
import Rulebook.Proofs.NameMaps

namespace Rulebook

section Resolving

variable [Plugins]

/-! ## The rules of a table -/

/-- A set of the table holds the rule. -/
def SetTable.HasRule (table : SetTable) (rule : Rule) : Prop :=
  ∃ (name : String) (set : RuleSet), table[name]? = some set ∧ rule ∈ set.rules

theorem SetTable.isBuiltin_iff {table : SetTable} :
    table.IsBuiltin ↔ ∀ rule, table.HasRule rule → rule.IsBuiltin := by
  constructor
  · rintro h rule ⟨name, set, hset, hrule⟩
    exact h name set hset rule hrule
  · intro h name set hset rule hrule
    exact h rule ⟨name, set, hset, hrule⟩

/-- What all rules of some sets have all rules of their table have. -/
theorem SetTable.forall_hasRule_ofEntries {sets : List (String × RuleSet)} {p : Rule → Prop}
    (h : ∀ entry ∈ sets, ∀ rule ∈ entry.2.rules, p rule) (rule : Rule)
    (hrule : SetTable.HasRule (NameMap.ofEntries sets) rule) : p rule := by
  obtain ⟨name, set, hset, hmem⟩ := hrule
  exact h (name, set) (NameMap.mem_of_getElem?_ofEntries hset) rule hmem

/-- The field is static in all file filters of the table. -/
def SetTable.FilterStatic (table : SetTable) (field : String) : Prop :=
  ∀ rule, table.HasRule rule → rule.kind = .fileFilter → field ∉ rule.dynamic.names

namespace Rule

variable {rule : Rule} {bindings : Variables} {settings : Settings}

/-! ## Resolving a rule -/

/-- A rule without templates resolves to what it holds. -/
theorem resolve_of_not_isDynamic (hform : rule.settings.form = rule.kind.form)
    (hdynamic : rule.isDynamic = false) : rule.resolve bindings = .ok rule.settings := by
  have hentries : rule.dynamic.entries = [] := by simpa [isDynamic] using hdynamic
  rw [resolve_eq hform, hentries]
  rfl

/-- Testing a rule is testing what it resolves to, whether it is dynamic or not. -/
theorem test_eq_resolve [PluginTests] (hform : rule.settings.form = rule.kind.form)
    (fs : FileSystem) (run : Runner) (input : Input) (session : Session) :
    rule.test fs run input session =
      match rule.resolve session.bindings with
      | .ok settings => settings.test fs run input session
      | .error _ => some (false, session) := by
  unfold test
  split
  · rfl
  · next hdynamic => rw [resolve_of_not_isDynamic hform (by simpa using hdynamic)]

theorem IsBuiltin.resolve_ne_custom (hrule : rule.IsBuiltin) (held : PluginRule) :
    rule.resolve bindings ≠ .ok (.custom held) := by
  intro hresolve
  have hform := form_resolve hrule.form_eq hresolve
  exact hrule.form_ne_custom (hform ▸ trivial)

theorem IsBuiltin.kind_eq_fileFilter (hrule : rule.IsBuiltin)
    (hform : rule.settings.form = .filter) : rule.kind = .fileFilter := by
  have hkinds : ∀ kind ∈ RuleKind.builtins, kind.form = .filter → kind = .fileFilter :=
    RuleKind.forall_mem_builtins.mpr ⟨nofun, nofun, nofun, nofun, fun _ => rfl⟩
  exact hkinds rule.kind hrule.kind_mem (hrule.form_eq.symm.trans hform)

/-! ## Fields without templates -/

/-- A field without a template holds in the resolved rule what it holds in the rule. -/
theorem IsBuiltin.read_resolve (hrule : rule.IsBuiltin)
    (hresolve : rule.resolve bindings = .ok settings) {field : Field}
    (hfield : field ∈ rule.kind.fields) (hstatic : field.name ∉ rule.dynamic.names) :
    field.slot.read settings = field.slot.read rule.settings := by
  rw [resolve_eq hrule.form_eq] at hresolve
  split at hresolve
  · cases hresolve
  · cases hresolve
    have hvalues : field.name ∉ (bindings.valuesOf rule.dynamic.entries).map Prod.fst := by
      rwa [Variables.map_fst_valuesOf]
    exact (RuleKind.regular_of_mem_builtins hrule.kind_mem).read_updateAll_of_not_mem hfield
      hrule.form_eq hvalues

/-- What resolves to a file filter is one, and a static field of it keeps what it holds. -/
theorem IsBuiltin.resolve_filter (hrule : rule.IsBuiltin) {filter : FilterSettings}
    (hresolve : rule.resolve bindings = .ok (.filter filter)) :
    ∃ stored, rule.settings = .filter stored ∧ rule.kind = .fileFilter ∧
      ("then" ∉ rule.dynamic.names → filter.targets = stored.targets) ∧
      ("varname" ∉ rule.dynamic.names → filter.nameVariable = stored.nameVariable) ∧
      ("varpath" ∉ rule.dynamic.names → filter.pathVariable = stored.pathVariable) := by
  have hform : rule.settings.form = .filter := (form_resolve hrule.form_eq hresolve).symm
  have hkind : rule.kind = .fileFilter := hrule.kind_eq_fileFilter hform
  obtain ⟨stored, hstored⟩ : ∃ stored, rule.settings = .filter stored := by
    cases hsettings : rule.settings with
    | filter stored => exact ⟨stored, rfl⟩
    | _ => simp [hsettings, Settings.form] at hform
  have hread : ∀ name slot, (∃ field ∈ RuleKind.fileFilter.fields, field.name = name ∧
      field.slot = slot) → name ∉ rule.dynamic.names →
      slot.read (.filter filter) = slot.read (.filter stored) := by
    rintro name slot ⟨field, hfield, rfl, rfl⟩ hstatic
    rw [← hstored]
    exact hrule.read_resolve hresolve (hkind ▸ hfield) hstatic
  refine ⟨stored, hstored, hkind, fun hstatic => ?_, fun hstatic => ?_, fun hstatic => ?_⟩
  all_goals simp only [RuleKind.fileFilter] at hread
  · simpa [Slot.read] using hread "then" .filterTargets (by simp) hstatic
  · simpa [Slot.read] using hread "varname" .filterNameVariable (by simp) hstatic
  · simpa [Slot.read] using hread "varpath" .filterPathVariable (by simp) hstatic

end Rule

end Resolving

end Rulebook
