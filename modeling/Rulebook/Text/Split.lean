/-
  Rulebook.Text.Split

  Cutting a text at the first occurrence of a separator.  `splitFirst_append`
  says that nothing but the separator is lost.
-/

namespace Rulebook.Text

/-- What is left of a text behind an opening that it starts with. -/
def behind : List Char → List Char → Option (List Char)
  | [], s => some s
  | _ :: _, [] => none
  | p :: opening, c :: s => if p = c then behind opening s else none

theorem behind_eq_some_iff {opening s rest : List Char} :
    behind opening s = some rest ↔ s = opening ++ rest := by
  fun_induction behind opening s with
  | case1 s => simp
  | case2 p opening => simp
  | case3 opening c s ih => simp [ih]
  | case4 p opening c s h => simp [Ne.symm h]

/-- The parts of a text before and after the first occurrence of `separator`. -/
def splitFirst (separator : List Char) : List Char → Option (List Char × List Char)
  | [] => if separator.isEmpty then some ([], []) else none
  | c :: rest =>
    match behind separator (c :: rest) with
    | some after => some ([], after)
    | none => (splitFirst separator rest).map fun (before, after) => (c :: before, after)

theorem splitFirst_append {separator s before after : List Char}
    (h : splitFirst separator s = some (before, after)) : s = before ++ separator ++ after := by
  induction s generalizing before after with
  | nil =>
    rw [splitFirst] at h
    split at h
    · cases h
      simp_all
    · cases h
  | cons c rest ih =>
    rw [splitFirst] at h
    split at h
    · next after' hb =>
      cases h
      simpa using behind_eq_some_iff.1 hb
    · obtain ⟨⟨b, a⟩, hb, he⟩ := Option.map_eq_some_iff.1 h
      cases he
      simp [ih hb]

/-- The text behind a separator is shorter than the whole. -/
theorem length_lt_of_splitFirst {separator s before after : List Char} (hs : separator ≠ [])
    (h : splitFirst separator s = some (before, after)) : after.length < s.length := by
  have hl : 0 < separator.length := List.length_pos_iff.2 hs
  rw [splitFirst_append h]
  simp only [List.length_append]
  omega

end Rulebook.Text
