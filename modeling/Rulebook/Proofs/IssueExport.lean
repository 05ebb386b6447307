/-
  Rulebook.Proofs.IssueExport

  Exporting a report and reading the export back.  A line may also be ended by a
  carriage return in front of the line feed, so a message that ends in a carriage
  return comes back without it; everything else comes back as it was
  (`readExport_exportText_iff`).
-/
import Rulebook.Proofs.IssueLine
import Rulebook.Proofs.Lines
import Rulebook.Report

namespace Rulebook

/-! ## One issue -/

namespace Issue

/-- What the exported line of an issue is read back as. -/
def readBack (issue : Issue) : IssueLine :=
  ⟨issue.path, String.ofList (Text.dropReturn issue.message.toList)⟩

theorem dropReturn_text (issue : Issue) :
    Text.dropReturn issue.text.toList = issue.readBack.text.toList := by
  -- the end of the line is that of the message, or the blank in front of an empty one
  have hsplit : issue.text.toList =
      ('[' :: (issue.path.toList ++ [']', ':'])) ++ (' ' :: issue.message.toList) := by
    simp [text, IssueLine.text, line]
  have hspace : Text.dropReturn (' ' :: issue.message.toList) =
      ' ' :: Text.dropReturn issue.message.toList := by
    rw [Text.dropReturn]
    intro hc
    exact absurd hc (by decide)
  rw [hsplit, Text.dropReturn_append (by simp), hspace]
  simp [IssueLine.text, readBack]

theorem newline_not_mem_text {issue : Issue} (hpath : '\n' ∉ issue.path.toList)
    (hmessage : '\n' ∉ issue.message.toList) : '\n' ∉ issue.text.toList := by
  simp [text, IssueLine.text, line, hpath, hmessage]

/-- An issue is read back as it was written if its message does not end in a carriage
    return. -/
theorem readBack_eq_line_iff (issue : Issue) :
    issue.readBack = issue.line ↔ issue.message.toList.getLast? ≠ some '\r' := by
  rw [← Text.dropReturn_eq_self_iff]
  constructor
  · intro h
    have hmessage : issue.readBack.message = issue.line.message := congrArg _ h
    have hlist := congrArg String.toList hmessage
    simpa [readBack, line] using hlist
  · intro h
    rw [readBack, h, String.ofList_toList, line]

end Issue

/-! ## A report -/

namespace Report

variable {report : Report}

theorem lines_exportText
    (hlines : ∀ issue ∈ report.issues,
      '\n' ∉ issue.path.toList ∧ '\n' ∉ issue.message.toList) :
    Text.lines report.exportText = report.issues.map (·.readBack.text) := by
  have htext : report.exportText.toList =
      (report.issues.map (·.text.toList)).flatMap (· ++ ['\n']) := by
    rw [exportText, String.toList_join, List.flatMap_map, List.flatMap_map]
    simp
  have hpieces : ∀ piece ∈ report.issues.map (·.text.toList), '\n' ∉ piece := by
    intro piece hpiece
    obtain ⟨issue, hissue, rfl⟩ := List.mem_map.mp hpiece
    exact Issue.newline_not_mem_text (hlines issue hissue).1 (hlines issue hissue).2
  rw [Text.lines, htext, Text.linesOf_flatMap hpieces, List.map_map, List.map_map]
  apply List.map_congr_left
  intro issue _
  simp [Issue.dropReturn_text]

theorem mapM_parse_text {lines : List IssueLine}
    (h : ∀ line ∈ lines, ¬ IssueLine.separator <:+: line.path.toList) :
    (lines.map IssueLine.text).mapM IssueLine.parse = .ok lines := by
  induction lines with
  | nil => rfl
  | cons line lines ih =>
    have hrest := ih fun other hother => h other (List.mem_cons_of_mem _ hother)
    rw [List.map_cons, List.mapM_cons, IssueLine.parse_text (h line (by simp)), hrest]
    rfl

/-- An export is read back issue by issue. -/
theorem readExport_exportText
    (hpaths : ∀ issue ∈ report.issues, ¬ IssueLine.separator <:+: issue.path.toList)
    (hlines : ∀ issue ∈ report.issues,
      '\n' ∉ issue.path.toList ∧ '\n' ∉ issue.message.toList) :
    readExport report.exportText = .ok (report.issues.map (·.readBack)) := by
  -- no line is empty, so none is skipped as blank
  have hfull : ∀ s ∈ report.issues.map (·.readBack.text), (!s.isEmpty) = true := by
    intro s hs
    obtain ⟨issue, -, rfl⟩ := List.mem_map.mp hs
    simp [IssueLine.text]
  rw [readExport, lines_exportText hlines, List.filter_eq_self.mpr hfull]
  have hlist : report.issues.map (·.readBack.text) =
      (report.issues.map (·.readBack)).map IssueLine.text := by
    rw [List.map_map]
    rfl
  rw [hlist]
  apply mapM_parse_text
  intro line hline
  obtain ⟨issue, hissue, rfl⟩ := List.mem_map.mp hline
  exact hpaths issue hissue

/-- The export of a report whose paths hold no separator, and in which no path or message
    holds a line feed, is always read back with one line for each issue.  The lines are
    those of the issues if and only if no message ends in a carriage return. -/
theorem readExport_exportText_iff
    (hpaths : ∀ issue ∈ report.issues, ¬ IssueLine.separator <:+: issue.path.toList)
    (hlines : ∀ issue ∈ report.issues,
      '\n' ∉ issue.path.toList ∧ '\n' ∉ issue.message.toList) :
    readExport report.exportText = .ok (report.issues.map (·.readBack)) ∧
      (readExport report.exportText = .ok (report.issues.map (·.line)) ↔
        ∀ issue ∈ report.issues, issue.message.toList.getLast? ≠ some '\r') := by
  have hread := readExport_exportText hpaths hlines
  refine ⟨hread, ?_⟩
  rw [hread, Except.ok.injEq, List.map_inj_left]
  constructor
  · intro h issue hissue
    exact issue.readBack_eq_line_iff.mp (h issue hissue)
  · intro h issue hissue
    exact issue.readBack_eq_line_iff.mpr (h issue hissue)

/-- A path may end like a separator, and a message may hold one. -/
theorem readExport_exportText_brackets :
    let report : Report :=
      ((∅ : Report).addUnder "k" ⟨.problem, "]: b", "a]:"⟩).add ⟨.warning, "", "\r"⟩
    readExport report.exportText = .ok (report.issues.map (·.readBack)) ∧
      (readExport report.exportText = .ok (report.issues.map (·.line)) ↔
        ∀ issue ∈ report.issues, issue.message.toList.getLast? ≠ some '\r') :=
  readExport_exportText_iff (by decide) (by decide)

/-- A carriage return at the end of a message is lost, although the path holds no separator
    and there is no line feed. -/
theorem readExport_exportText_return :
    ∃ report : Report,
      (∀ issue ∈ report.issues, ¬ IssueLine.separator <:+: issue.path.toList) ∧
      (∀ issue ∈ report.issues, '\n' ∉ issue.path.toList ∧ '\n' ∉ issue.message.toList) ∧
      readExport report.exportText = .ok [⟨"p", "a"⟩] ∧
      report.issues.map (·.line) = [⟨"p", "a\r"⟩] ∧
      readExport report.exportText ≠ .ok (report.issues.map (·.line)) := by
  have hread : readExport ((∅ : Report).add ⟨.warning, "a\r", "p"⟩).exportText =
      .ok [⟨"p", "a"⟩] := by rfl
  have hlines : ((∅ : Report).add ⟨.warning, "a\r", "p"⟩).issues.map (·.line) =
      [⟨"p", "a\r"⟩] := by rfl
  refine ⟨(∅ : Report).add ⟨.warning, "a\r", "p"⟩, by decide, by decide, hread, hlines, ?_⟩
  rw [hread, hlines, ne_eq, Except.ok.injEq]
  decide

end Report

end Rulebook
