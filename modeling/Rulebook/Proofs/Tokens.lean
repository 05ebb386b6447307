/-
  Rulebook.Proofs.Tokens

  The tokens of a line, described without the way in which they are found:
  `Tokenized` relates a text to its tokens, with blanks in front of each of them
  and behind the last.  Every text is related to exactly one list of tokens, the
  one that `tokensOf` gives (`tokensOf_eq_iff`).
-/
import Mathlib.Data.List.TakeWhile
import Rulebook.Line.Token
import Rulebook.Proofs.Words

namespace Rulebook.Line

open Rulebook.Text (isBlank skipBlanks skipBlanks_eq_nil_iff skipBlanks_append_of_blank
  exists_skipBlanks)

/-! ## What a token is -/

/-- A text that runs through the first quote in it that no backslash escapes.  A backslash
    takes away the meaning of the character behind it, whatever that is. -/
inductive Closing : List Char → Prop
  | quote : Closing ['\'']
  | escaped (c : Char) {body : List Char} (h : Closing body) : Closing ('\\' :: c :: body)
  | plain {c : Char} {body : List Char} (hquote : c ≠ '\'') (hbackslash : c ≠ '\\')
      (h : Closing body) : Closing (c :: body)

/-- The first token of a text that does not start with a blank, and the text behind it. -/
inductive TokenAt : List Char → List Char → Prop
  /-- A token that starts with a quote runs through the quote that closes it. -/
  | quoted {body after : List Char} (h : Closing body) : TokenAt ('\'' :: body) after
  /-- Any other token, also one whose quote is not closed, runs to the next blank. -/
  | bare {c : Char} {body after : List Char} (hbare : ∀ d ∈ c :: body, isBlank d = false)
      (hafter : ∀ d ∈ after.head?, isBlank d = true)
      (hopen : c = '\'' → ¬ ∃ closing rest, Closing closing ∧ body ++ after = closing ++ rest) :
      TokenAt (c :: body) after

/-- A text and its tokens. -/
inductive Tokenized : List Char → List (List Char) → Prop
  | nil {gap : List Char} (hgap : ∀ c ∈ gap, isBlank c = true) : Tokenized gap []
  | cons {gap token after : List Char} {tokens : List (List Char)}
      (hgap : ∀ c ∈ gap, isBlank c = true) (htoken : TokenAt token after)
      (hafter : Tokenized after tokens) : Tokenized (gap ++ token ++ after) (token :: tokens)

/-! ## Quotes -/

/-- A character that is not read as a backslash, alone or with one behind it, is none. -/
theorem ne_backslash_of_not_escape {c : Char} {rest : List Char}
    (hlone : c = '\\' → rest = [] → False)
    (hpair : ∀ d tail, c = '\\' → rest = d :: tail → False) : c ≠ '\\' := by
  intro hbackslash
  cases rest with
  | nil => exact hlone hbackslash rfl
  | cons d rest => exact hpair d rest hbackslash rfl

theorem closing_of_throughQuote {s body after : List Char}
    (h : throughQuote s = some (body, after)) : Closing body := by
  fun_induction throughQuote s generalizing body after with
  | case1 => cases h
  | case2 => cases h
  | case3 c rest ih =>
    obtain ⟨⟨b, a⟩, hb, he⟩ := Option.map_eq_some_iff.mp h
    cases he
    exact .escaped c (ih hb)
  | case4 rest =>
    cases h
    exact .quote
  | case5 c rest hlone hpair hquote ih =>
    obtain ⟨⟨b, a⟩, hb, he⟩ := Option.map_eq_some_iff.mp h
    cases he
    exact .plain hquote (ne_backslash_of_not_escape hlone hpair) (ih hb)

theorem throughQuote_of_closing {body : List Char} (h : Closing body) (after : List Char) :
    throughQuote (body ++ after) = some (body, after) := by
  induction h with
  | quote => simp [throughQuote]
  | escaped c _ ih => simp [throughQuote, ih]
  | plain hquote hbackslash _ ih => simp [throughQuote, hquote, hbackslash, ih]

/-- No closing quote is found exactly if there is none. -/
theorem throughQuote_eq_none_iff {s : List Char} :
    throughQuote s = none ↔ ¬ ∃ closing rest, Closing closing ∧ s = closing ++ rest := by
  constructor
  · rintro hnone ⟨closing, rest, hclosing, rfl⟩
    rw [throughQuote_of_closing hclosing] at hnone
    cases hnone
  · intro hopen
    rw [Option.eq_none_iff_forall_ne_some]
    rintro ⟨body, after⟩ hsome
    exact hopen ⟨body, after, closing_of_throughQuote hsome, (throughQuote_append hsome).symm⟩

/-! ## One token -/

theorem throughBare_of_bare {body after : List Char} (hbare : ∀ d ∈ body, isBlank d = false)
    (hafter : ∀ d ∈ after.head?, isBlank d = true) :
    throughBare (body ++ after) = (body, after) := by
  have htake : ∀ d ∈ body, (!isBlank d) = true := by
    intro d hd
    simp [hbare d hd]
  rw [throughBare, List.takeWhile_append_of_pos htake, List.dropWhile_append_of_pos htake]
  cases after with
  | nil => simp
  | cons d after =>
    have hd : isBlank d = true := hafter d rfl
    simp [hd]

/-- What is read of a token up to the next blank is a token, if its quote is not closed. -/
theorem tokenAt_throughBare {c : Char} {rest : List Char} (hc : isBlank c = false)
    (hopen : c = '\'' → throughQuote rest = none) :
    TokenAt (c :: (throughBare rest).1) (throughBare rest).2 := by
  apply TokenAt.bare
  · intro d hd
    rcases List.mem_cons.mp hd with rfl | hd
    · exact hc
    · have hbare := List.all_eq_true.mp List.all_takeWhile d hd
      simpa using hbare
  · intro d hd
    have hblank := List.head?_dropWhile_not (!isBlank ·) rest
    rw [throughBare] at hd
    rw [Option.mem_def] at hd
    simp only [hd] at hblank
    simpa using hblank
  · intro hquote
    rw [throughBare_append]
    exact throughQuote_eq_none_iff.mp (hopen hquote)

theorem tokenAt_splitToken {c : Char} {rest : List Char} (hc : isBlank c = false) :
    TokenAt (splitToken c rest).1 (splitToken c rest).2 := by
  unfold splitToken
  split
  · next hquote =>
    split
    · next body after hclosed =>
      subst hquote
      exact .quoted (closing_of_throughQuote hclosed)
    · next hnone => exact tokenAt_throughBare hc fun _ => hnone
  · next hquote => exact tokenAt_throughBare hc fun he => absurd he hquote

/-- The token of a text is the one that is split off it. -/
theorem splitToken_of_tokenAt {token after : List Char} (h : TokenAt token after) :
    ∃ c rest, token ++ after = c :: rest ∧ isBlank c = false ∧
      splitToken c rest = (token, after) := by
  cases h with
  | @quoted body after hclosing =>
    refine ⟨'\'', body ++ after, rfl, by decide, ?_⟩
    rw [splitToken, if_pos rfl, throughQuote_of_closing hclosing]
  | @bare c body after hbare hafter hopen =>
    have hsplit : throughBare (body ++ after) = (body, after) :=
      throughBare_of_bare (fun d hd => hbare d (List.mem_cons_of_mem _ hd)) hafter
    refine ⟨c, body ++ after, rfl, hbare c (by simp), ?_⟩
    rw [splitToken, hsplit]
    split
    · next hquote => rw [throughQuote_eq_none_iff.mpr (hopen hquote)]
    · rfl

theorem ne_nil_of_tokenAt {token after : List Char} (h : TokenAt token after) : token ≠ [] := by
  cases h <;> exact List.cons_ne_nil _ _

/-! ## All tokens -/

theorem skipBlanks_append {gap : List Char} (hgap : ∀ c ∈ gap, isBlank c = true)
    {c : Char} (hc : isBlank c = false) (rest : List Char) :
    skipBlanks (gap ++ c :: rest) = c :: rest := by
  rw [skipBlanks_append_of_blank hgap]
  exact List.dropWhile_cons_of_neg (by simp [hc])

/-- A text with a token in it is a gap of blanks, and then the character that the token
    starts with. -/
theorem exists_gap {s rest : List Char} {c : Char} (h : skipBlanks s = c :: rest) :
    ∃ gap, (∀ d ∈ gap, isBlank d = true) ∧ s = gap ++ c :: rest ∧ isBlank c = false := by
  obtain ⟨gap, hgap, hs⟩ := exists_skipBlanks s
  exact ⟨gap, hgap, h ▸ hs, skipBlanks_eq_cons h⟩

theorem tokensOf_of_skipBlanks_nil {s : List Char} (h : skipBlanks s = []) :
    tokensOf s = [] := by
  rw [tokensOf, h, readTokens_of_none rfl]

theorem tokensOf_of_skipBlanks_cons {s rest : List Char} {c : Char}
    (h : skipBlanks s = c :: rest) :
    tokensOf s = (splitToken c rest).1 :: tokensOf (splitToken c rest).2 := by
  have htoken : token? (c :: rest) = some ((splitToken c rest).1, (splitToken c rest).2) :=
    token?_cons (skipBlanks_eq_cons h) rest
  rw [tokensOf, h, readTokens_of_some htoken]

theorem tokensOf_eq_nil_iff {s : List Char} : tokensOf s = [] ↔ ∀ c ∈ s, isBlank c = true := by
  rw [← skipBlanks_eq_nil_iff]
  constructor
  · intro h
    cases hskip : skipBlanks s with
    | nil => rfl
    | cons c rest =>
      rw [tokensOf_of_skipBlanks_cons hskip] at h
      cases h
  · exact tokensOf_of_skipBlanks_nil

/-- The tokens that are found are the tokens of the text. -/
theorem tokenized_tokensOf (s : List Char) : Tokenized s (tokensOf s) := by
  induction hlength : s.length using Nat.strongRecOn generalizing s with
  | ind n ih =>
    subst hlength
    cases hskip : skipBlanks s with
    | nil =>
      rw [tokensOf_of_skipBlanks_nil hskip]
      exact .nil (skipBlanks_eq_nil_iff.mp hskip)
    | cons c rest =>
      -- the text is a gap, the token that is split off, and what the induction is about
      obtain ⟨gap, hgap, hs, hc⟩ := exists_gap hskip
      have htoken : TokenAt (splitToken c rest).1 (splitToken c rest).2 := tokenAt_splitToken hc
      have hshorter : (splitToken c rest).2.length < s.length := by
        have hlt := length_splitToken_lt c rest
        rw [hs, List.length_append]
        omega
      have hrest : Tokenized (splitToken c rest).2 (tokensOf (splitToken c rest).2) :=
        ih _ hshorter _ rfl
      rw [tokensOf_of_skipBlanks_cons hskip, hs, ← splitToken_append c rest, ← List.append_assoc]
      exact .cons hgap htoken hrest

/-- The tokens of a text are the ones that are found. -/
theorem tokensOf_of_tokenized {s : List Char} {tokens : List (List Char)}
    (h : Tokenized s tokens) : tokensOf s = tokens := by
  induction h with
  | nil hgap => exact tokensOf_of_skipBlanks_nil (skipBlanks_eq_nil_iff.mpr hgap)
  | @cons gap token after tokens hgap htoken _ ih =>
    obtain ⟨c, rest, htext, hc, hsplit⟩ := splitToken_of_tokenAt htoken
    have hskip : skipBlanks (gap ++ token ++ after) = c :: rest := by
      rw [List.append_assoc, htext]
      exact skipBlanks_append hgap hc rest
    rw [tokensOf_of_skipBlanks_cons hskip, hsplit, ih]

theorem tokensOf_eq_iff {s : List Char} {tokens : List (List Char)} :
    tokensOf s = tokens ↔ Tokenized s tokens :=
  ⟨fun h => h ▸ tokenized_tokensOf s, tokensOf_of_tokenized⟩

/-! ## What a text and its tokens have in common -/

theorem Tokenized.ne_nil {s : List Char} {tokens : List (List Char)} (h : Tokenized s tokens) :
    ∀ token ∈ tokens, token ≠ [] := by
  induction h with
  | nil => simp
  | cons _ htoken _ ih =>
    intro token hmem
    rcases List.mem_cons.mp hmem with rfl | hmem
    · exact ne_nil_of_tokenAt htoken
    · exact ih token hmem

/-- Only blanks stand between the tokens. -/
theorem Tokenized.filter_flatten {s : List Char} {tokens : List (List Char)}
    (h : Tokenized s tokens) :
    tokens.flatten.filter (!isBlank ·) = s.filter (!isBlank ·) := by
  have hblank : ∀ gap : List Char, (∀ c ∈ gap, isBlank c = true) →
      gap.filter (!isBlank ·) = [] := by
    intro gap hgap
    rw [List.filter_eq_nil_iff]
    intro c hc
    simp [hgap c hc]
  induction h with
  | @nil gap hgap => rw [hblank gap hgap]; rfl
  | @cons gap token after tokens hgap _ _ ih =>
    rw [List.flatten_cons, List.filter_append, List.filter_append, List.filter_append,
      hblank gap hgap, ih, List.nil_append]

/-! ## The tokens of a line -/

/-- Reading the tokens of a line never fails, and gives the one list of texts that the line
    is made up of.  None of them is empty, and the characters of the line that are not blank
    are those of its tokens, each as often as it stands in the line and in the same order. -/
theorem tokens_eq_iff_tokenized (line : String) :
    tokenize? line = some (tokens line) ∧
    (∀ ts : List String, tokens line = ts ↔ Tokenized line.toList (ts.map String.toList)) ∧
    (∀ token ∈ tokens line, token ≠ "") ∧
    ((tokens line).flatMap String.toList).filter (!isBlank ·) =
      line.toList.filter (!isBlank ·) := by
  have hlists := map_toList_tokens line
  have hfound : Tokenized line.toList ((tokens line).map String.toList) := by
    rw [hlists]
    exact tokenized_tokensOf line.toList
  refine ⟨tokenize?_eq_some line, fun ts => ⟨?_, ?_⟩, ?_, ?_⟩
  · rintro rfl
    exact hfound
  · intro h
    have hsame : (tokens line).map String.toList = ts.map String.toList := by
      rw [hlists]
      exact tokensOf_eq_iff.mpr h
    -- two texts with the same characters are the same text
    exact (List.map_inj_right fun _ _ => String.toList_inj.mp).mp hsame
  · rintro token hmem rfl
    exact hfound.ne_nil "".toList (List.mem_map_of_mem hmem) rfl
  · rw [List.flatMap_def]
    exact hfound.filter_flatten

end Rulebook.Line
