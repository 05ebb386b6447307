/-
  Rulebook.Proofs.Grouping

  How a report follows from the calls that add its issues.  Each key holds what was
  added under it, in order, the keys stand in the order of their first use, and no
  issue is lost or there twice (`keeps_additions`).  A report kept in parts of its
  own, with a map of groups, a list of keys and counts that run along, is the same
  at all times (`Ledger.represents_ofAdditions`).
-/
import Rulebook.NameMap
import Rulebook.Proofs.Report

namespace Rulebook

/-! ## The issues of a report -/

namespace Report

theorem issues_eq_flatMap_keys (report : Report) :
    report.issues = report.keys.flatMap report.issuesUnder := by
  rw [issues, keys, Roster.names, List.flatMap_map]
  refine List.flatMap_congr fun entry hentry => ?_
  rw [issuesUnder, Roster.get?_of_mem hentry, Option.getD_some]

/-- Each issue is a warning or a problem. -/
theorem issueCount_eq_length (report : Report) : report.issueCount = report.issues.length := by
  have hkinds : ∀ issue ∈ report.issues,
      decide (issue.kind = .problem) = true ↔ (!decide (issue.kind = .warning)) = true := by
    intro issue _
    cases issue.kind <;> decide
  rw [issueCount, warningCount, problemCount, countOf, countOf, List.countP_congr hkinds,
    List.length_eq_countP_add_countP (fun issue : Issue => decide (issue.kind = .warning))]
  simp

theorem isClean_iff (report : Report) : report.isClean = true ↔ report.issues = [] := by
  rw [isClean, beq_iff_eq, issueCount_eq_length, List.length_eq_zero_iff]

theorem issuesUnder_of_not_mem {report : Report} {key : String} (h : key ∉ report.keys) :
    report.issuesUnder key = [] := by
  cases hgroup : report.groups.get? key with
  | none => simp [issuesUnder, hgroup]
  | some group => exact absurd (Roster.mem_names_iff.mpr ⟨group, hgroup⟩) h

end Report

/-! ## Calls that add issues -/

/-- A call that adds an issue: under the empty key, or under a given one. -/
inductive Addition
  | plain (issue : Issue)
  | under (key : String) (issue : Issue)

namespace Addition

/-- The key that the issue goes under. -/
def key : Addition → String
  | plain _ => ""
  | under key _ => key

/-- The issue that is added. -/
def issue : Addition → Issue
  | plain issue => issue
  | under _ issue => issue

end Addition

namespace Report

/-- The report after one more call. -/
def take (report : Report) : Addition → Report
  | .plain issue => report.add issue
  | .under key issue => report.addUnder key issue

/-- The report after some calls. -/
def ofAdditions (additions : List Addition) : Report := additions.foldl take ∅

theorem take_eq (report : Report) (addition : Addition) :
    report.take addition = report.addUnder addition.key addition.issue := by
  cases addition <;> rfl

theorem ofAdditions_eq (additions : List Addition) :
    ofAdditions additions = addAll ∅ (additions.map fun a => (a.key, a.issue)) := by
  have hstep : take = fun report a => report.addUnder a.key a.issue := by
    funext report a
    exact take_eq report a
  rw [ofAdditions, addAll, List.foldl_map, hstep]

end Report

/-! ## A report kept in parts -/

/-- A report whose groups are in a map, apart from the keys in the order of their first use,
    and whose counts run along. -/
structure Ledger where
  groups : NameMap (List Issue) := ∅
  keys : List String := []
  warnings : Nat := 0
  problems : Nat := 0

namespace Ledger

/-- Count an issue of a kind. -/
def count (ledger : Ledger) : IssueKind → Ledger
  | .warning => { ledger with warnings := ledger.warnings + 1 }
  | .problem => { ledger with problems := ledger.problems + 1 }

/-- Put an issue at the end of the group of a key.  A key without a group is new, and goes to
    the end of the keys. -/
def put (ledger : Ledger) (key : String) (issue : Issue) : Ledger :=
  match ledger.groups[key]? with
  | some group => { ledger with groups := ledger.groups.insert key (group ++ [issue]) }
  | none => { ledger with
      keys := ledger.keys ++ [key]
      groups := ledger.groups.insert key [issue] }

/-- Add an issue under a key. -/
def addUnder (ledger : Ledger) (key : String) (issue : Issue) : Ledger :=
  (ledger.count issue.kind).put key issue

/-- The ledger after some calls. -/
def ofAdditions (additions : List Addition) : Ledger :=
  additions.foldl (fun ledger a => ledger.addUnder a.key a.issue) {}

/-- All issues: the groups of the keys, as far as these have one. -/
def issues (ledger : Ledger) : List Issue :=
  (ledger.keys.filterMap fun key => ledger.groups[key]?).flatten

/-- The parts of a ledger are those of a report: the same keys, a group for these and for no
    others, and the counts of the issues. -/
structure Represents (ledger : Ledger) (report : Report) : Prop where
  keys_eq : ledger.keys = report.keys
  groups_eq : ∀ key : String, ledger.groups[key]? =
    if key ∈ report.keys then some (report.issuesUnder key) else none
  warnings_eq : ledger.warnings = report.warningCount
  problems_eq : ledger.problems = report.problemCount

/-! ### What single steps do to the parts -/

variable {ledger : Ledger}

theorem keys_count (kind : IssueKind) : (ledger.count kind).keys = ledger.keys := by
  cases kind <;> rfl

theorem groups_count (kind : IssueKind) : (ledger.count kind).groups = ledger.groups := by
  cases kind <;> rfl

theorem warnings_count (kind : IssueKind) :
    (ledger.count kind).warnings = ledger.warnings + if kind = .warning then 1 else 0 := by
  cases kind <;> rfl

theorem problems_count (kind : IssueKind) :
    (ledger.count kind).problems = ledger.problems + if kind = .problem then 1 else 0 := by
  cases kind <;> rfl

theorem warnings_put (key : String) (issue : Issue) :
    (ledger.put key issue).warnings = ledger.warnings := by
  unfold put
  split <;> rfl

theorem problems_put (key : String) (issue : Issue) :
    (ledger.put key issue).problems = ledger.problems := by
  unfold put
  split <;> rfl

theorem keys_put (key : String) (issue : Issue) :
    (ledger.put key issue).keys =
      if (ledger.groups[key]?).isSome then ledger.keys else ledger.keys ++ [key] := by
  unfold put
  split
  · next hgroup => simp [hgroup]
  · next hgroup => simp [hgroup]

theorem getElem?_groups_put (key other : String) (issue : Issue) :
    (ledger.put key issue).groups[other]? =
      if key = other then some ((ledger.groups[key]?).getD [] ++ [issue])
      else ledger.groups[other]? := by
  unfold put
  split
  · next hgroup => rw [NameMap.getElem?_insert_name, hgroup, Option.getD_some]
  · next hgroup => rw [NameMap.getElem?_insert_name, hgroup, Option.getD_none, List.nil_append]

/-! ### The parts of a report -/

theorem represents_empty : ({} : Ledger).Represents ∅ := by
  refine ⟨rfl, fun key => ?_, rfl, rfl⟩
  have hkey : key ∉ (∅ : Report).keys := List.not_mem_nil
  rw [if_neg hkey]
  exact Std.ExtTreeMap.getElem?_empty

namespace Represents

variable {report : Report}

theorem isSome_iff (h : ledger.Represents report) (key : String) :
    (ledger.groups[key]?).isSome = true ↔ key ∈ report.keys := by
  rw [h.groups_eq]
  split <;> simp_all

theorem getD_eq (h : ledger.Represents report) (key : String) :
    (ledger.groups[key]?).getD [] = report.issuesUnder key := by
  rw [h.groups_eq]
  split
  · rfl
  · next hkey => exact (Report.issuesUnder_of_not_mem hkey).symm

/-- One more issue keeps the parts together. -/
theorem addUnder (h : ledger.Represents report) (key : String) (issue : Issue) :
    (ledger.addUnder key issue).Represents (report.addUnder key issue) := by
  constructor
  · rw [Ledger.addUnder, keys_put, groups_count, keys_count, Report.keys_addUnder, h.keys_eq]
    exact if_congr (h.isSome_iff key) rfl rfl
  · intro other
    rw [Ledger.addUnder, getElem?_groups_put, groups_count, h.getD_eq, h.groups_eq,
      Report.issuesUnder_addUnder]
    by_cases hsame : key = other
    · -- the key has a group now, if it had none before
      subst hsame
      have hmem : key ∈ (report.addUnder key issue).keys := Report.mem_keys_addUnder.mpr (.inl rfl)
      rw [if_pos rfl, if_pos hmem, if_pos rfl]
    · have hmem : other ∈ (report.addUnder key issue).keys ↔ other ∈ report.keys := by
        rw [Report.mem_keys_addUnder, or_iff_right (Ne.symm hsame)]
      rw [if_neg hsame, if_neg hsame]
      exact (if_congr hmem rfl rfl).symm
  · rw [Ledger.addUnder, warnings_put, warnings_count, h.warnings_eq, Report.warningCount,
      Report.warningCount, Report.countOf_addUnder]
  · rw [Ledger.addUnder, problems_put, problems_count, h.problems_eq, Report.problemCount,
      Report.problemCount, Report.countOf_addUnder]

/-- No group is passed over, so the issues are those of the report. -/
theorem issues_eq (h : ledger.Represents report) : ledger.issues = report.issues := by
  have hgroups : ∀ key ∈ report.keys,
      ledger.groups[key]? = (some ∘ report.issuesUnder) key := by
    intro key hkey
    rw [h.groups_eq, if_pos hkey]
    rfl
  rw [Ledger.issues, h.keys_eq, List.filterMap_congr hgroups, List.filterMap_eq_map,
    report.issues_eq_flatMap_keys, List.flatMap_def]

end Represents

/-- The ledger of some calls is at all times that of the report. -/
theorem represents_ofAdditions (additions : List Addition) :
    (ofAdditions additions).Represents (Report.ofAdditions additions) := by
  refine List.foldl_rel represents_empty fun a _ ledger report h => ?_
  rw [Report.take_eq]
  exact h.addUnder a.key a.issue

end Ledger

/-! ## All that is added is kept -/

namespace Report

/-- After any calls on an empty report, the keys are those that were used, each once and in
    the order of their first use, and under a key stand the issues that were added under it,
    in order.  The issues are those of the keys one after the other, and no issue that was
    added is lost or there twice.  The counts are those of the issues, the report is clean
    only if nothing was added, and its export has a line for each issue.  Groups, keys and
    counts that are kept apart from each other come to the same. -/
theorem keeps_additions (additions : List Addition) :
    let report := ofAdditions additions
    let ledger := Ledger.ofAdditions additions
    report.keys = (additions.map (·.key)).eraseDups ∧ report.keys.Nodup ∧
    (∀ key, report.issuesUnder key = (additions.filter (·.key == key)).map (·.issue)) ∧
    report.issues = report.keys.flatMap report.issuesUnder ∧
    report.issues.Perm (additions.map (·.issue)) ∧
    report.warningCount = report.issues.countP (·.kind = .warning) ∧
    report.problemCount = report.issues.countP (·.kind = .problem) ∧
    report.issueCount = report.warningCount + report.problemCount ∧
    report.issueCount = report.issues.length ∧
    (report.isClean = true ↔ additions = []) ∧
    report.exportText = String.join (report.issues.map fun issue =>
      "[" ++ issue.path ++ "]: " ++ issue.message ++ "\n") ∧
    ledger.Represents report ∧ ledger.issues = report.issues := by
  intro report ledger
  have hadded : report = addAll ∅ (additions.map fun a => (a.key, a.issue)) :=
    ofAdditions_eq additions
  have hkeys : report.keys = (additions.map (·.key)).eraseDups := by
    have hempty : (∅ : Report).keys = [] := rfl
    rw [hadded, keys_addAll, hempty, List.map_map]
    simp [Function.comp_def, List.filter_eq_self.mpr]
  have hunder : ∀ key,
      report.issuesUnder key = (additions.filter (·.key == key)).map (·.issue) := by
    intro key
    have hempty : (∅ : Report).issuesUnder key = [] := rfl
    rw [hadded, issuesUnder_addAll, hempty, List.nil_append, List.filter_map, List.map_map]
    rfl
  have hperm : report.issues.Perm (additions.map (·.issue)) := by
    have hall := perm_issues_addAll ∅ (additions.map fun a => (a.key, a.issue))
    rw [← hadded, List.map_map] at hall
    exact hall
  have hclean : report.isClean = true ↔ additions = [] := by
    rw [isClean_iff, ← List.length_eq_zero_iff, hperm.length_eq, List.length_map,
      List.length_eq_zero_iff]
  have hledger : ledger.Represents report := Ledger.represents_ofAdditions additions
  exact ⟨hkeys, report.groups.nodup, hunder, report.issues_eq_flatMap_keys, hperm, rfl, rfl, rfl,
    report.issueCount_eq_length, hclean, rfl, hledger, hledger.issues_eq⟩

end Report

end Rulebook
