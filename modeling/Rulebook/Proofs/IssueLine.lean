/-
  Rulebook.Proofs.IssueLine

  Reading an issue line is the inverse of writing it.  The separator cannot
  overlap itself, so the first one in a line is the one that was written, if the
  path does not contain one.  So a text is read as a path and a message exactly if
  it is the line that these make up and the path contains no separator
  (`parse_inverts_text`).
-/
import Rulebook.Issue

namespace Rulebook

/-! ## The first separator in a text -/

namespace Text

variable {separator s before after : List Char}

theorem behind_eq_none_iff : behind separator s = none ↔ ¬ separator <+: s := by
  rw [Option.eq_none_iff_forall_ne_some]
  constructor
  · rintro h ⟨rest, rfl⟩
    exact h rest (behind_eq_some_iff.mpr rfl)
  · intro h rest hrest
    exact h ⟨rest, (behind_eq_some_iff.mp hrest).symm⟩

/-- A text is not split exactly if the separator is nowhere in it. -/
theorem splitFirst_eq_none_iff (hne : separator ≠ []) :
    splitFirst separator s = none ↔ ¬ separator <:+: s := by
  induction s with
  | nil => simp [splitFirst, hne]
  | cons c rest ih =>
    rw [splitFirst, List.infix_cons_iff, not_or, ← behind_eq_none_iff, ← ih]
    cases behind separator (c :: rest) with
    | some found => simp
    | none => simp

/-- A text is split in front of the first separator: none is in the part before it. -/
theorem not_infix_of_splitFirst (hne : separator ≠ [])
    (h : splitFirst separator s = some (before, after)) : ¬ separator <:+: before := by
  induction s generalizing before with
  | nil =>
    rw [splitFirst, if_neg (by simpa using hne)] at h
    cases h
  | cons c rest ih =>
    have hs : c :: rest = before ++ separator ++ after := splitFirst_append h
    rw [splitFirst] at h
    split at h
    · cases h
      rwa [List.infix_nil]
    · next hbehind =>
      obtain ⟨⟨lead, trail⟩, hsplit, heq⟩ := Option.map_eq_some_iff.mp h
      cases heq
      rw [List.infix_cons_iff, not_or]
      -- a separator at the front of the part would be one at the front of the text
      have hfront : ¬ separator <+: c :: rest := behind_eq_none_iff.mp hbehind
      have hpart : c :: lead <+: c :: rest := by
        rw [hs, List.append_assoc]
        exact List.prefix_append _ _
      exact ⟨fun hstart => hfront (hstart.trans hpart), ih hsplit⟩

end Text

namespace IssueLine

theorem separator_ne_nil : separator ≠ [] := List.cons_ne_nil _ _

theorem splitFirst_separator {path : List Char} (h : ¬ separator <:+: path)
    (message : List Char) :
    Text.splitFirst separator (path ++ separator ++ message) = some (path, message) := by
  induction path with
  | nil => simp [separator, Text.splitFirst, Text.behind]
  | cons c rest ih =>
    have hrest : ¬ separator <:+: rest := fun hinfix => h (List.infix_cons hinfix)
    have hbehind : Text.behind separator (c :: (rest ++ separator ++ message)) = none := by
      rw [Option.eq_none_iff_forall_ne_some]
      intro after hafter
      have hsplit := Text.behind_eq_some_iff.mp hafter
      -- a separator at the front would reach into the one that was written, or else
      -- lie within the path
      rcases rest with _ | ⟨d, _ | ⟨e, rest⟩⟩
      · simp [separator] at hsplit
      · simp [separator] at hsplit
      · simp only [separator, List.cons_append, List.cons.injEq] at hsplit
        obtain ⟨rfl, rfl, rfl, -⟩ := hsplit
        exact h ⟨[], rest, rfl⟩
    rw [List.cons_append, List.cons_append, Text.splitFirst, hbehind]
    simp only [ih hrest, Option.map_some]

/-- What is split off in front of a separator is any text that holds none. -/
theorem splitFirst_separator_iff {s path message : List Char} :
    Text.splitFirst separator s = some (path, message) ↔
      s = path ++ separator ++ message ∧ ¬ separator <:+: path := by
  constructor
  · intro h
    exact ⟨Text.splitFirst_append h, Text.not_infix_of_splitFirst separator_ne_nil h⟩
  · rintro ⟨rfl, hpath⟩
    exact splitFirst_separator hpath message

/-! ## Lines -/

theorem toList_text (line : IssueLine) :
    line.text.toList = '[' :: (line.path.toList ++ separator ++ line.message.toList) := by
  simp [text, separator]

/-- A line whose path has no separator is read back as it was written. -/
theorem parse_text {line : IssueLine} (h : ¬ separator <:+: line.path.toList) :
    parse line.text = .ok line := by
  rw [parse, toList_text]
  simp only [splitFirst_separator h, String.ofList_toList]

/-- A line that is read is written as the text that it was read from. -/
theorem text_of_parse {s : String} {line : IssueLine} (h : parse s = .ok line) :
    line.text = s ∧ ¬ separator <:+: line.path.toList := by
  unfold parse at h
  split at h
  · next body hs =>
    split at h
    · next path message hsplit =>
      cases h
      obtain ⟨hbody, hpath⟩ := splitFirst_separator_iff.mp hsplit
      simp only [← String.toList_inj, toList_text, String.toList_ofList]
      exact ⟨by rw [hs, hbody], hpath⟩
    · cases h
  · cases h

theorem parse_eq_ok_iff {s : String} {line : IssueLine} :
    parse s = .ok line ↔ s = line.text ∧ ¬ separator <:+: line.path.toList := by
  constructor
  · intro h
    obtain ⟨htext, hpath⟩ := text_of_parse h
    exact ⟨htext.symm, hpath⟩
  · rintro ⟨rfl, hpath⟩
    exact parse_text hpath

/-- A text is refused for a bracket that it does not start with, and otherwise for a separator
    that does not follow. -/
theorem parse_eq_error_iff {s : String} {e : IssueLineError} :
    parse s = .error e ↔
      (e = .missingBracket s ∧ ¬ ['['] <+: s.toList) ∨
      (e = .missingSeparator s ∧
        ∃ body, s.toList = '[' :: body ∧ ¬ separator <:+: body) := by
  unfold parse
  split
  · next body hs =>
    have hbracket : ['['] <+: s.toList := ⟨body, hs.symm⟩
    have hbody : (∃ other, s.toList = '[' :: other ∧ ¬ separator <:+: other) ↔
        ¬ separator <:+: body := by
      simp [hs]
    rw [hbody, ← Text.splitFirst_eq_none_iff separator_ne_nil]
    cases Text.splitFirst separator body with
    | some parts => simp [hbracket]
    | none => simp [hbracket, eq_comm]
  · next hs =>
    have hbracket : ¬ ['['] <+: s.toList := by
      rintro ⟨body, hbody⟩
      exact hs body hbody.symm
    have hbody : ¬ ∃ body, s.toList = '[' :: body ∧ ¬ separator <:+: body := by
      rintro ⟨body, hbody, -⟩
      exact hs body hbody
    rw [Except.error.injEq, and_iff_left hbracket, or_iff_left (fun h => hbody h.2)]
    exact eq_comm

/-- Reading an issue line is exactly the inverse of writing it.  A text is read as a path and a
    message if and only if it is the line that they make up and there is no separator in the
    path.  If it is refused, it does not start with a bracket, or it does and no separator
    follows.  So every line that is read is written as it was, and an issue is read back from
    its text if and only if there is no separator in its path. -/
theorem parse_inverts_text (s : String) :
    (∀ path message : String, parse s = .ok ⟨path, message⟩ ↔
      s = "[" ++ path ++ "]: " ++ message ∧ ¬ "]: ".toList <:+: path.toList) ∧
    (∀ e, parse s = .error e ↔
      (e = .missingBracket s ∧ ¬ "[".toList <+: s.toList) ∨
      (e = .missingSeparator s ∧
        ∃ body, s.toList = '[' :: body ∧ ¬ "]: ".toList <:+: body)) ∧
    (∀ line, parse s = .ok line → line.text = s) ∧
    ∀ issue : Issue,
      parse issue.text = .ok ⟨issue.path, issue.message⟩ ↔
        ¬ "]: ".toList <:+: issue.path.toList := by
  refine ⟨fun path message => parse_eq_ok_iff, fun e => parse_eq_error_iff, ?_, ?_⟩
  · intro line hline
    exact (text_of_parse hline).1
  · intro issue
    have hread := @parse_eq_ok_iff issue.text issue.line
    exact hread.trans (and_iff_right rfl)

/-- The path of the line ends like a separator, and its message holds one. -/
theorem parse_inverts_text_brackets :
    parse "[a]:]: b]: c" = .ok ⟨"a]:", "b]: c"⟩ ∧
      text ⟨"a]:", "b]: c"⟩ = "[a]:]: b]: c" := by
  have hread := ((parse_inverts_text "[a]:]: b]: c").1 "a]:" "b]: c").mpr ⟨by decide, by decide⟩
  exact ⟨hread, (parse_inverts_text "[a]:]: b]: c").2.2.1 _ hread⟩

end IssueLine

end Rulebook
