/-
  Rulebook.Proofs.WrittenRule

  The rule that a written line defines.  Reading the line carries out exactly the
  assignments that were written, in order, on a blank rule of the kind that is
  named (`parse_written`).
-/
import Rulebook.Kind.Custom
import Rulebook.Proofs.DynamicTable
import Rulebook.Proofs.LineText
import Rulebook.Proofs.RegisteredKinds

namespace Rulebook

open Line (Assignment Definition)

/-- Steps in order end with the error of the first one that fails. -/
theorem foldlM_eq_error_iff {α σ ε : Type} {step : σ → α → Except ε σ} {s : σ} {as : List α}
    {e : ε} :
    as.foldlM step s = .error e ↔
      ∃ before a after t, as = before ++ a :: after ∧ before.foldlM step s = .ok t ∧
        step t a = .error e := by
  induction as generalizing s with
  | nil =>
    constructor
    · intro h
      cases h
    · rintro ⟨before, a, after, t, has, -⟩
      simp at has
  | cons a as ih =>
    rw [List.foldlM_cons]
    cases hstep : step s a with
    | error e' =>
      constructor
      · intro h
        cases h
        exact ⟨[], a, as, s, rfl, rfl, hstep⟩
      · rintro ⟨before, b, after, t, has, hbefore, hb⟩
        -- a failure further on would need the first step to succeed
        cases before with
        | nil =>
          cases has
          cases hbefore
          rw [← hb, hstep]
          rfl
        | cons c before =>
          cases has
          rw [List.foldlM_cons, hstep] at hbefore
          cases hbefore
    | ok s' =>
      constructor
      · intro h
        obtain ⟨before, b, after, t, rfl, hbefore, hb⟩ := ih.mp h
        refine ⟨a :: before, b, after, t, rfl, ?_, hb⟩
        rw [List.foldlM_cons, hstep]
        exact hbefore
      · rintro ⟨before, b, after, t, has, hbefore, hb⟩
        cases before with
        | nil =>
          cases has
          cases hbefore
          rw [hstep] at hb
          cases hb
        | cons c before =>
          cases has
          rw [List.foldlM_cons, hstep] at hbefore
          exact ih.mpr ⟨before, b, after, t, rfl, hbefore, hb⟩

namespace Rule

section Written

variable [Plugins]

/-- The rule that assignments in order make: its settings are updated by all values, and each
    field keeps the template of the last dynamic assignment to it, at the place of the first. -/
theorem eq_of_assignAll {bindings : Variables} {kind : RuleKind} {assignments : List Assignment}
    {rule : Rule} (h : assignAll bindings (ofKind kind) assignments = .ok rule) :
    rule.kind = kind ∧
      rule.settings = kind.updateAll kind.blank (bindings.valuesOf (assignments.map (·.entry))) ∧
      rule.dynamic.names = ((assignments.filter (·.dynamic)).map (·.field)).eraseDups ∧
      ∀ field, rule.dynamic.get? field =
        (assignments.filter fun a => a.dynamic && a.field == field).getLast?.map
          (·.template) := by
  have hform : (ofKind kind).settings.form = (ofKind kind).kind.form := rfl
  rw [assignAll_eq hform] at h
  split at h
  · cases h
  · cases h
    refine ⟨rfl, rfl, ?_, ?_⟩
    · simp [names_templatesAfter, ofKind, List.filter_eq_self.mpr]
    · intro field
      rw [get?_templatesAfter]
      exact Option.or_none

/-- A line that is written for a registered kind is read as the assignments that were
    written.  It fails with the error of the first assignment that fails; otherwise all of
    them are carried out, and the dynamic ones leave their templates. -/
theorem parse_written {registry : Registry} (hregistry : registry.Reached)
    {definition : Definition} {kind : RuleKind}
    (hkind : registry.get? definition.kind = some kind)
    (hquote : definition.kind.toList.head? ≠ some '\'')
    (hassignments : ∀ a ∈ definition.assignments, a.Writable) (bindings : Variables) :
    parse registry bindings definition.text =
      (assignAll bindings (ofKind kind) definition.assignments).mapError .coercion ∧
    (∀ e, parse registry bindings definition.text = .error (.coercion e) ↔
      ∃ before a after rule, definition.assignments = before ++ a :: after ∧
        assignAll bindings (ofKind kind) before = .ok rule ∧
        assign bindings rule a = .error e) ∧
    ∀ rule, parse registry bindings definition.text = .ok rule →
      rule.kind = kind ∧
        rule.settings = kind.updateAll kind.blank
          (bindings.valuesOf (definition.assignments.map (·.entry))) ∧
        rule.dynamic.names =
          ((definition.assignments.filter (·.dynamic)).map (·.field)).eraseDups ∧
        ∀ field, rule.dynamic.get? field =
          (definition.assignments.filter fun a => a.dynamic && a.field == field).getLast?.map
            (·.template) := by
  obtain ⟨hname, hflaw⟩ := hregistry.get?_flawless hkind
  have hwritable : definition.Writable :=
    ⟨hname ▸ RuleKind.isWord_name hflaw, hquote, hassignments⟩
  have hparse : parse registry bindings definition.text =
      (assignAll bindings (ofKind kind) definition.assignments).mapError .coercion := by
    simp only [parse_eq_read?, Line.read?_text hwritable, hkind]
  refine ⟨hparse, ?_, ?_⟩
  · intro e
    have hfirst : assignAll bindings (ofKind kind) definition.assignments = .error e ↔
        ∃ before a after rule, definition.assignments = before ++ a :: after ∧
          assignAll bindings (ofKind kind) before = .ok rule ∧
          assign bindings rule a = .error e := foldlM_eq_error_iff
    rw [hparse, mapError_eq_error_iff, ← hfirst]
    constructor
    · rintro ⟨e', he, hsame⟩
      cases hsame
      exact he
    · intro he
      exact ⟨e, he, rfl⟩
  · intro rule hrule
    rw [hparse, mapError_eq_ok_iff] at hrule
    exact eq_of_assignAll hrule

end Written

/-- A line with a quote, dashes, a placeholder and a letter of two bytes in its values.  The
    first field is assigned twice, the second is none of the kind. -/
theorem parse_written_guard :
    let definition : Definition := ⟨"match", [⟨"value", true, "it\\'s --{x} é"⟩,
      ⟨"other", false, "é"⟩, ⟨"value", true, ""⟩]⟩
    definition.text = "match --value$ 'it\\'s --{x} é' --other 'é' --value$ ''" ∧
      Registry.builtin.Reached ∧
      Registry.builtin.get? definition.kind = some RuleKind.guard ∧
      definition.kind.toList.head? ≠ some '\'' ∧
      (∀ a ∈ definition.assignments, a.Writable) ∧
      parse .builtin ∅ definition.text =
        (assignAll ∅ (ofKind RuleKind.guard) definition.assignments).mapError .coercion := by
  intro definition
  have hkind : Registry.builtin.get? definition.kind = some RuleKind.guard := rfl
  have hquote : definition.kind.toList.head? ≠ some '\'' := by decide
  have hassignments : ∀ a ∈ definition.assignments, a.Writable := by decide
  exact ⟨by rfl, Registry.reached_builtin, hkind, hquote, hassignments,
    (parse_written Registry.reached_builtin hkind hquote hassignments ∅).1⟩

end Rule

end Rulebook
