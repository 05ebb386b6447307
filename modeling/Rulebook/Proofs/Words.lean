/-
  Rulebook.Proofs.Words

  The words of a text: none is empty or holds a blank, and words that are joined
  by single spaces are the words of what they make up (`words_intercalate`).  A word between
  blanks is what is left when they are trimmed (`trimmed_append`).
-/
import Mathlib.Data.List.TakeWhile
import Rulebook.Text.Blank

namespace Rulebook.Text

/-- A text that can be a word: it is not empty, and there is no blank in it. -/
def IsWord (word : List Char) : Prop := word ≠ [] ∧ ∀ c ∈ word, isBlank c = false

instance (word : List Char) : Decidable (IsWord word) :=
  decidable_of_iff (word ≠ [] ∧ word.all (!isBlank ·) = true) (by simp [IsWord])

/-! ## The words that are found -/

theorem isWord_reverse {current : List Char} (hne : current.isEmpty = false)
    (hcurrent : ∀ c ∈ current, isBlank c = false) : IsWord current.reverse := by
  constructor
  · simpa using hne
  · simpa using hcurrent

theorem isWord_of_mem_wordsFrom {current s word : List Char}
    (hcurrent : ∀ c ∈ current, isBlank c = false) (h : word ∈ wordsFrom current s) :
    IsWord word := by
  fun_induction wordsFrom current s with
  | case1 => simp at h
  | case2 current hne =>
    obtain rfl := List.mem_singleton.mp h
    exact isWord_reverse (by simpa using hne) hcurrent
  | case3 current c rest hblank hempty ih => exact ih (by simp) h
  | case4 current c rest hblank hne ih =>
    rcases List.mem_cons.mp h with rfl | h
    · exact isWord_reverse (by simpa using hne) hcurrent
    · exact ih (by simp) h
  | case5 current c rest hblank ih =>
    -- a character that is no blank is added to the word that is being read
    refine ih ?_ h
    intro d hd
    rcases List.mem_cons.mp hd with rfl | hd
    · simpa using hblank
    · exact hcurrent d hd

theorem isWord_of_mem_words {s word : String} (h : word ∈ words s) : IsWord word.toList := by
  obtain ⟨w, hw, rfl⟩ := List.mem_map.mp h
  rw [String.toList_ofList]
  exact isWord_of_mem_wordsFrom (by simp) hw

/-! ## Joined words -/

theorem wordsFrom_append {word : List Char} (h : ∀ c ∈ word, isBlank c = false)
    (current rest : List Char) :
    wordsFrom current (word ++ rest) = wordsFrom (word.reverse ++ current) rest := by
  induction word generalizing current with
  | nil => rfl
  | cons c word ih =>
    have hc : isBlank c = false := h c (by simp)
    have hword := ih fun d hd => h d (List.mem_cons_of_mem _ hd)
    rw [List.cons_append, wordsFrom, if_neg (by simp [hc]), hword, List.reverse_cons,
      List.append_assoc, List.singleton_append]

theorem wordsFrom_word {word : List Char} (h : IsWord word) (rest : List Char) :
    wordsFrom word.reverse (' ' :: rest) = word :: wordsFrom [] rest := by
  have hspace : isBlank ' ' = true := by decide
  have hne : word.reverse.isEmpty = false := by simpa using h.1
  rw [wordsFrom, if_pos hspace, if_neg (by simp [hne]), List.reverse_reverse]

theorem wordsOf_intercalate {ws : List (List Char)} (h : ∀ w ∈ ws, IsWord w) :
    wordsOf ([' '].intercalate ws) = ws := by
  induction ws with
  | nil => rfl
  | cons w ws ih =>
    have hw : IsWord w := h w (by simp)
    have hrest := ih fun v hv => h v (List.mem_cons_of_mem _ hv)
    cases ws with
    | nil =>
      have hne : w.reverse.isEmpty = false := by simpa using hw.1
      have hlast := wordsFrom_append hw.2 [] []
      rw [List.append_nil, List.append_nil, wordsFrom, if_neg (by simp [hne]),
        List.reverse_reverse] at hlast
      rw [List.intercalate_singleton]
      exact hlast
    | cons v ws =>
      rw [List.intercalate_cons_cons, List.append_assoc, wordsOf, wordsFrom_append hw.2,
        List.append_nil, List.singleton_append, wordsFrom_word hw]
      exact congrArg _ hrest

/-- Words that are joined by single spaces are found again, in the same order. -/
theorem words_intercalate {names : List String} (h : ∀ name ∈ names, IsWord name.toList) :
    words (" ".intercalate names) = names := by
  have hlists : ∀ w ∈ names.map String.toList, IsWord w := by
    intro w hw
    obtain ⟨name, hname, rfl⟩ := List.mem_map.mp hw
    exact h name hname
  have hjoin : (" ".intercalate names).toList = [' '].intercalate (names.map String.toList) := by
    rw [String.toList_intercalate]
    rfl
  rw [words, hjoin, wordsOf_intercalate hlists, List.map_map]
  simp [Function.comp_def]

/-! ## Blanks at the ends of a text -/

theorem skipBlanks_eq_nil_iff {s : List Char} :
    skipBlanks s = [] ↔ ∀ c ∈ s, isBlank c = true := by
  rw [skipBlanks, List.dropWhile_eq_nil_iff]

theorem skipBlanks_append_of_blank {gap : List Char} (hgap : ∀ c ∈ gap, isBlank c = true)
    (rest : List Char) : skipBlanks (gap ++ rest) = skipBlanks rest :=
  List.dropWhile_append_of_pos hgap

theorem skipBlanks_append_of_isWord {word : List Char} (h : IsWord word) (rest : List Char) :
    skipBlanks (word ++ rest) = word ++ rest := by
  obtain ⟨hne, hword⟩ := h
  cases word with
  | nil => exact absurd rfl hne
  | cons c word =>
    have hc : isBlank c = false := hword c List.mem_cons_self
    rw [skipBlanks, List.cons_append, List.dropWhile_cons_of_neg (by simp [hc])]

/-- A text is a gap of blanks, and then what is left when these are dropped. -/
theorem exists_skipBlanks (s : List Char) :
    ∃ gap, (∀ c ∈ gap, isBlank c = true) ∧ s = gap ++ skipBlanks s :=
  ⟨s.takeWhile isBlank, List.all_eq_true.mp List.all_takeWhile,
    List.takeWhile_append_dropWhile.symm⟩

/-- A word between blanks is what trimming leaves. -/
theorem trimmed_append {lead word trail : List Char} (hlead : ∀ c ∈ lead, isBlank c = true)
    (htrail : ∀ c ∈ trail, isBlank c = true) (hword : IsWord word) :
    trimmed (lead ++ word ++ trail) = word := by
  have htrail' : ∀ c ∈ trail.reverse, isBlank c = true := by simpa using htrail
  have hword' : IsWord word.reverse := isWord_reverse (by simpa using hword.1) hword.2
  rw [trimmed, List.append_assoc, skipBlanks_append_of_blank hlead,
    skipBlanks_append_of_isWord hword, List.reverse_append,
    skipBlanks_append_of_blank htrail', ← List.append_nil word.reverse,
    skipBlanks_append_of_isWord hword', List.append_nil, List.reverse_reverse]

/-- A text is what trimming leaves of it, between blanks. -/
theorem exists_trimmed (s : List Char) :
    ∃ lead trail, (∀ c ∈ lead, isBlank c = true) ∧ (∀ c ∈ trail, isBlank c = true) ∧
      s = lead ++ trimmed s ++ trail := by
  obtain ⟨lead, hlead, hs⟩ := exists_skipBlanks s
  obtain ⟨trail, htrail, hrest⟩ := exists_skipBlanks (skipBlanks s).reverse
  refine ⟨lead, trail.reverse, hlead, by simpa using htrail, ?_⟩
  have hreversed := congrArg List.reverse hrest
  rw [List.reverse_reverse, List.reverse_append] at hreversed
  rw [List.append_assoc, trimmed, ← hreversed]
  exact hs

end Rulebook.Text
