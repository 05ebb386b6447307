/-
  Rulebook.Proofs.RunCongruence

  Runs that come out the same from every session, although the sets are run in
  other ways, on other inputs or in other file systems.  Two sets do the same if
  their rules do and running their children does (`RuleSet.run_congr`).
-/
import Rulebook.Proofs.StaticFields

namespace Rulebook

/-- Elements without effect may be left out of a loop. -/
theorem foldlM_filter_eq {α β : Type} {step : α → β → Option α} {keep : β → Bool} {bs : List β}
    (h : ∀ b ∈ bs, keep b = false → ∀ a, step a b = some a) (a : α) :
    (bs.filter keep).foldlM step a = bs.foldlM step a := by
  induction bs generalizing a with
  | nil => rfl
  | cons b bs ih =>
    have hrest := ih fun c hc => h c (List.mem_cons_of_mem _ hc)
    cases hkeep : keep b with
    | false =>
      rw [List.filter_cons_of_neg (by simp [hkeep]), hrest, List.foldlM_cons,
        h b (by simp) hkeep]
      rfl
    | true =>
      rw [List.filter_cons_of_pos hkeep, List.foldlM_cons, List.foldlM_cons]
      cases step a b with
      | none => rfl
      | some next => exact hrest next

section Congruence

variable {fs fs' : FileSystem} {run run' : Runner} {input input' : Input}

theorem Runner.runAll_congr {names : List String}
    (h : ∀ name ∈ names, ∀ session, run name input session = run' name input' session)
    (session : Session) : run.runAll names input session = run'.runAll names input' session := by
  induction names generalizing session with
  | nil => rfl
  | cons name names ih =>
    rw [runAll, runAll, List.foldlM_cons, List.foldlM_cons, h name (by simp)]
    cases run' name input' session with
    | none => rfl
    | some next => exact ih (fun other hother => h other (List.mem_cons_of_mem _ hother)) next

variable [Plugins] [PluginTests]

theorem testRules_congr {rules : List Rule}
    (h : ∀ rule ∈ rules, ∀ session,
      rule.test fs run input session = rule.test fs' run' input' session) (session : Session) :
    testRules fs run input rules session = testRules fs' run' input' rules session := by
  induction rules generalizing session with
  | nil => rfl
  | cons rule rules ih =>
    rw [testRules, testRules, h rule (by simp)]
    rcases rule.test fs' run' input' session with _ | ⟨_ | _, next⟩
    · rfl
    · rfl
    · exact ih (fun other hother => h other (List.mem_cons_of_mem _ hother)) next

theorem RuleSet.run_congr {set set' : RuleSet} (hrules : set.rules = set'.rules)
    (htest : ∀ rule ∈ set.rules, ∀ session,
      rule.test fs run input session = rule.test fs' run' input' session)
    (hchildren : ∀ session,
      run.runAll set.children input session = run'.runAll set'.children input' session)
    (session : Session) : set.run fs run input session = set'.run fs' run' input' session := by
  rw [RuleSet.run, RuleSet.run, ← hrules, testRules_congr htest]
  rcases testRules fs' run' input' set.rules session with _ | ⟨_ | _, next⟩
  · rfl
  · rfl
  · exact hchildren next

/-- A rule that is no file filter does not look at its input or at the file system, and runs
    no sets. -/
theorem Rule.IsBuiltin.test_congr_of_ne {rule : Rule} (hrule : rule.IsBuiltin)
    (hkind : rule.kind ≠ .fileFilter) (session : Session) :
    rule.test fs run input session = rule.test fs' run' input' session := by
  rw [test_eq_resolve hrule.form_eq, test_eq_resolve hrule.form_eq]
  cases hresolve : rule.resolve session.bindings with
  | error e => rfl
  | ok settings =>
    cases settings with
    | filter filter =>
      obtain ⟨-, -, hfilter, -⟩ := hrule.resolve_filter hresolve
      exact absurd hfilter hkind
    | custom stored => exact absurd hresolve (hrule.resolve_ne_custom stored)
    | _ => rfl

end Congruence

end Rulebook
