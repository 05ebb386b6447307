/-
  Rulebook.Proofs.Report

  What adding issues does to a report.  A key that is new goes to the end, the
  group of the key takes the issue at its end, and no other group changes.  So the
  keys and groups of a report to which many issues are added are known
  (`keys_addAll`, `issuesUnder_addAll`, `perm_issues_addAll`), and it only grows
  (`keys_prefix_addAll`, `issuesUnder_prefix_addAll`, `countOf_le_addAll`).
-/
import Mathlib.Data.List.Infix
import Mathlib.Data.List.Perm.Basic
import Rulebook.Proofs.Roster
import Rulebook.Report

namespace Rulebook.Report

/-! ## One issue -/

theorem keys_addUnder (report : Report) (key : String) (issue : Issue) :
    (report.addUnder key issue).keys =
      if key ∈ report.keys then report.keys else report.keys ++ [key] :=
  report.groups.names_change key _

theorem mem_keys_addUnder {report : Report} {key other : String} {issue : Issue} :
    other ∈ (report.addUnder key issue).keys ↔ other = key ∨ other ∈ report.keys := by
  rw [keys_addUnder]
  split
  · next hkey => exact ⟨.inr, fun h => h.elim (fun he => he ▸ hkey) id⟩
  · rw [List.mem_append, List.mem_singleton, or_comm]

theorem issuesUnder_addUnder (report : Report) (key other : String) (issue : Issue) :
    (report.addUnder key issue).issuesUnder other =
      if key = other then report.issuesUnder other ++ [issue] else report.issuesUnder other := by
  simp only [issuesUnder, addUnder, Roster.get?_change]
  split
  · next h =>
    subst h
    rw [Option.getD_some, Array.toList_push]
  · rfl

theorem perm_flatMap_changeIn (key : String) (issue : Issue)
    (entries : List (String × Array Issue)) :
    ((Roster.changeIn key (fun group => (group.getD #[]).push issue) entries).flatMap
        (·.2.toList)).Perm
      (issue :: entries.flatMap (·.2.toList)) := by
  induction entries with
  | nil => simp [Roster.changeIn]
  | cons entry entries ih =>
    obtain ⟨other, group⟩ := entry
    by_cases h : other = key
    · -- the issue stands behind those of the group
      rw [Roster.changeIn, if_pos h]
      simp only [List.flatMap_cons, Option.getD_some, Array.toList_push, List.append_assoc,
        List.singleton_append]
      exact List.perm_middle
    · rw [Roster.changeIn, if_neg h]
      simp only [List.flatMap_cons]
      exact (ih.append_left _).trans List.perm_middle

/-- The issues after an addition are those before it and the one that is added. -/
theorem perm_issues_addUnder (report : Report) (key : String) (issue : Issue) :
    (report.addUnder key issue).issues.Perm (issue :: report.issues) :=
  perm_flatMap_changeIn key issue report.groups.entries

theorem mem_issues_addUnder {report : Report} {key : String} {issue other : Issue} :
    other ∈ (report.addUnder key issue).issues ↔ other = issue ∨ other ∈ report.issues :=
  (perm_issues_addUnder report key issue).mem_iff.trans List.mem_cons

theorem countOf_addUnder (report : Report) (key : String) (issue : Issue) (kind : IssueKind) :
    (report.addUnder key issue).countOf kind =
      report.countOf kind + if issue.kind = kind then 1 else 0 := by
  rw [countOf, (perm_issues_addUnder report key issue).countP_eq, List.countP_cons, countOf]
  simp

/-! ## Many issues -/

/-- Add issues under their keys, one by one. -/
def addAll (report : Report) (added : List (String × Issue)) : Report :=
  added.foldl (fun report (key, issue) => report.addUnder key issue) report

@[simp] theorem addAll_nil (report : Report) : report.addAll [] = report := rfl

@[simp] theorem addAll_cons (report : Report) (key : String) (issue : Issue)
    (added : List (String × Issue)) :
    report.addAll ((key, issue) :: added) = (report.addUnder key issue).addAll added := rfl

@[simp] theorem addAll_concat (report : Report) (added : List (String × Issue)) (key : String)
    (issue : Issue) :
    report.addAll (added ++ [(key, issue)]) = (report.addAll added).addUnder key issue := by
  rw [addAll, List.foldl_append]
  rfl

theorem keys_addAll (report : Report) (added : List (String × Issue)) :
    (report.addAll added).keys =
      report.keys ++ ((added.map Prod.fst).filter (· ∉ report.keys)).eraseDups := by
  have hgroups : (report.addAll added).groups =
      added.foldl (fun groups entry =>
        groups.change entry.1 fun group => (group.getD #[]).push entry.2) report.groups := by
    induction added generalizing report with
    | nil => rfl
    | cons entry added ih => exact ih (report.addUnder entry.1 entry.2)
  rw [keys, hgroups, Roster.names_foldl_change]
  rfl

theorem issuesUnder_addAll (report : Report) (added : List (String × Issue)) (key : String) :
    (report.addAll added).issuesUnder key =
      report.issuesUnder key ++ (added.filter (·.1 == key)).map Prod.snd := by
  induction added generalizing report with
  | nil => simp
  | cons entry added ih =>
    obtain ⟨other, issue⟩ := entry
    rw [addAll_cons, ih, issuesUnder_addUnder]
    by_cases h : other = key
    · simp [h]
    · simp [h]

theorem perm_issues_addAll (report : Report) (added : List (String × Issue)) :
    (report.addAll added).issues.Perm (report.issues ++ added.map Prod.snd) := by
  induction added generalizing report with
  | nil => simp
  | cons entry added ih =>
    obtain ⟨key, issue⟩ := entry
    have hfirst := (perm_issues_addUnder report key issue).append_right (added.map Prod.snd)
    exact (ih _).trans (hfirst.trans List.perm_middle.symm)

/-! ## A report only grows -/

theorem keys_prefix_addAll (report : Report) (added : List (String × Issue)) :
    report.keys <+: (report.addAll added).keys := by
  rw [keys_addAll]
  exact List.prefix_append _ _

theorem issuesUnder_prefix_addAll (report : Report) (added : List (String × Issue))
    (key : String) : report.issuesUnder key <+: (report.addAll added).issuesUnder key := by
  rw [issuesUnder_addAll]
  exact List.prefix_append _ _

theorem countOf_le_addAll (report : Report) (added : List (String × Issue)) (kind : IssueKind) :
    report.countOf kind ≤ (report.addAll added).countOf kind := by
  rw [countOf, countOf, (perm_issues_addAll report added).countP_eq, List.countP_append]
  exact Nat.le_add_right _ _

end Rulebook.Report
