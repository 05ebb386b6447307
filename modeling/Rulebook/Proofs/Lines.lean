/-
  Rulebook.Proofs.Lines

  The lines of a text that is written line by line.  A line is read back as it
  was written, except that a carriage return at its end is lost
  (`linesOf_flatMap`, `dropReturn_eq_self_iff`).
-/
import Rulebook.Text.Lines

namespace Rulebook.Text

/-! ## The end of a line -/

theorem dropReturn_append {s t : List Char} (h : t ≠ []) :
    dropReturn (s ++ t) = s ++ dropReturn t := by
  induction s with
  | nil => rfl
  | cons c s ih =>
    have hne : s ++ t ≠ [] := by simp [h]
    rw [List.cons_append, dropReturn, ih, List.cons_append]
    intro _ hnil
    exact hne hnil

/-- Exactly the lines that end in a carriage return are not read back as they are. -/
theorem dropReturn_eq_self_iff {s : List Char} :
    dropReturn s = s ↔ s.getLast? ≠ some '\r' := by
  fun_induction dropReturn s with
  | case1 => simp
  | case2 => simp
  | case3 c rest hne ih =>
    -- a character that is kept does not decide unless it is the last one
    rw [List.cons_inj_right, ih]
    cases rest with
    | nil =>
      have hc : c ≠ '\r' := fun hc => hne hc rfl
      simp [hc]
    | cons d rest => rw [List.getLast?_cons_cons]

/-! ## Lines one behind the other -/

theorem linesFrom_append {piece : List Char} (h : '\n' ∉ piece) (current rest : List Char) :
    linesFrom current (piece ++ '\n' :: rest) =
      dropReturn (current.reverse ++ piece) :: linesFrom [] rest := by
  induction piece generalizing current with
  | nil => simp [linesFrom]
  | cons c piece ih =>
    rw [List.mem_cons, not_or] at h
    have hc : ¬ c = '\n' := fun hc => h.1 hc.symm
    rw [List.cons_append, linesFrom, if_neg hc, ih h.2, List.reverse_cons, List.append_assoc,
      List.singleton_append]

theorem linesOf_flatMap {pieces : List (List Char)} (h : ∀ piece ∈ pieces, '\n' ∉ piece) :
    linesOf (pieces.flatMap (· ++ ['\n'])) = pieces.map dropReturn := by
  induction pieces with
  | nil => rfl
  | cons piece pieces ih =>
    have hrest := ih fun other hother => h other (List.mem_cons_of_mem _ hother)
    rw [List.flatMap_cons, List.append_assoc, List.singleton_append, linesOf,
      linesFrom_append (h piece (by simp)), List.reverse_nil, List.nil_append, List.map_cons]
    exact congrArg _ hrest

end Rulebook.Text
