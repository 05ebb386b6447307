/-
  Rulebook.Proofs.Respacing

  The tokens of a line depend on where the blanks between them stand, but not on how many
  there are or which: a text that holds the same tokens with other gaps has the same tokens
  (`Tokenized.respaced`).

  The only token that looks beyond its own end is one whose quote is not closed: there must
  be no closing quote in all that follows.  A gap takes part in that search by ending an
  escape, if it stands behind a backslash, and in no other way.  So the search comes to each
  token as if the text started there (`throughQuote_append_eq_none_iff`), and it finds
  nothing exactly if none of the tokens closes the quote by itself.
-/
import Rulebook.Proofs.Tokens

namespace Rulebook.Line

open Rulebook.Text (isBlank)

/-! ## Tokens written with gaps -/

/-- The text behind a token: the tokens that follow, with at least one blank in front of each,
    and blanks at the end. -/
inductive Trail : List (List Char) → List Char → Prop
  | nil {gap : List Char} (hgap : ∀ c ∈ gap, isBlank c = true) : Trail [] gap
  | cons {gap token after : List Char} {tokens : List (List Char)} (hne : gap ≠ [])
      (hgap : ∀ c ∈ gap, isBlank c = true) (hafter : Trail tokens after) :
      Trail (token :: tokens) (gap ++ token ++ after)

/-- A text in which tokens stand in order: blanks or none in front of the first and behind
    the last, and at least one between any two. -/
inductive Respaced : List (List Char) → List Char → Prop
  | nil {gap : List Char} (hgap : ∀ c ∈ gap, isBlank c = true) : Respaced [] gap
  | cons {gap token after : List Char} {tokens : List (List Char)}
      (hgap : ∀ c ∈ gap, isBlank c = true) (hafter : Trail tokens after) :
      Respaced (token :: tokens) (gap ++ token ++ after)

/-- What stands behind a token ends it, if it is not quoted. -/
theorem Trail.isBlank_head? {tokens : List (List Char)} {text : List Char}
    (h : Trail tokens text) : ∀ c ∈ text.head?, isBlank c = true := by
  cases h with
  | nil hgap =>
    intro c hc
    exact hgap c (List.mem_of_mem_head? hc)
  | @cons gap token after tokens hne hgap hafter =>
    obtain ⟨b, gap, rfl⟩ := List.exists_cons_of_ne_nil hne
    intro c hc
    obtain rfl : b = c := by simpa using hc
    exact hgap b (by simp)

theorem Respaced.trail {tokens : List (List Char)} {text : List Char} (h : Respaced tokens text)
    {b : Char} (hb : isBlank b = true) : Trail tokens (b :: text) := by
  have hblanks : ∀ gap : List Char, (∀ c ∈ gap, isBlank c = true) →
      ∀ c ∈ b :: gap, isBlank c = true := by
    intro gap hgap c hc
    rcases List.mem_cons.mp hc with rfl | hc
    · exact hb
    · exact hgap c hc
  cases h with
  | nil hgap => exact .nil (hblanks _ hgap)
  | cons hgap hafter => exact .cons (List.cons_ne_nil _ _) (hblanks _ hgap) hafter

/-- Joining tokens by single spaces is one way of writing them. -/
theorem respaced_intercalate (tokens : List (List Char)) :
    Respaced tokens ([' '].intercalate tokens) := by
  have hnone : ∀ c ∈ ([] : List Char), isBlank c = true := by simp
  induction tokens with
  | nil => exact .nil hnone
  | cons token tokens ih =>
    have hafter : ∃ after, [' '].intercalate (token :: tokens) = token ++ after ∧
        Trail tokens after := by
      cases tokens with
      | nil => exact ⟨[], by simp, .nil hnone⟩
      | cons next tokens =>
        refine ⟨' ' :: [' '].intercalate (next :: tokens), ?_, ih.trail (by decide)⟩
        rw [List.intercalate_cons_cons, List.append_assoc, List.singleton_append]
    obtain ⟨after, htext, htrail⟩ := hafter
    rw [htext]
    exact Respaced.cons hnone htrail

/-! ## Closing quotes across gaps -/

/-- A blank never closes a quote.  If it stands behind a backslash it is what is escaped, so
    the text behind it is looked through from its start in either case. -/
theorem throughQuote_append_blank {b : Char} (hb : isBlank b = true) (s rest : List Char) :
    throughQuote (s ++ b :: rest) = none ↔ throughQuote s = none ∧ throughQuote rest = none := by
  have hquote : b ≠ '\'' := by
    rintro rfl
    exact absurd hb (by decide)
  have hbackslash : b ≠ '\\' := by
    rintro rfl
    exact absurd hb (by decide)
  fun_induction throughQuote s with
  | case1 => simp [throughQuote, hquote, hbackslash]
  | case2 =>
    -- the backslash takes the blank
    simp [throughQuote]
  | case3 c s ih => simp [throughQuote, ih]
  | case4 s => simp [throughQuote]
  | case5 c s hlone hpair hc ih =>
    have hplain : c ≠ '\\' := ne_backslash_of_not_escape hlone hpair
    simp [throughQuote, hc, hplain, ih]

theorem throughQuote_gap_append {gap : List Char} (hgap : ∀ c ∈ gap, isBlank c = true)
    (rest : List Char) : throughQuote (gap ++ rest) = none ↔ throughQuote rest = none := by
  induction gap with
  | nil => rfl
  | cons b gap ih =>
    have hrest := ih fun c hc => hgap c (List.mem_cons_of_mem _ hc)
    have hblank := throughQuote_append_blank (hgap b (by simp)) [] (gap ++ rest)
    rw [List.nil_append] at hblank
    rw [List.cons_append, hblank, hrest]
    simp [throughQuote]

/-- No quote is closed in two texts with a gap between them exactly if none is in either. -/
theorem throughQuote_append_eq_none_iff {s after : List Char}
    (hafter : ∀ c ∈ after.head?, isBlank c = true) :
    throughQuote (s ++ after) = none ↔ throughQuote s = none ∧ throughQuote after = none := by
  cases after with
  | nil => simp [throughQuote]
  | cons b rest =>
    have hb : isBlank b = true := hafter b rfl
    have hgap : ∀ c ∈ [b], isBlank c = true := by simpa using hb
    have hrest : throughQuote (b :: rest) = none ↔ throughQuote rest = none :=
      throughQuote_gap_append hgap rest
    rw [throughQuote_append_blank hb, hrest]

/-- In a text that closes no quote there is no quoted token, and no token closes a quote. -/
theorem Tokenized.throughQuote_eq_none {s : List Char} {tokens : List (List Char)}
    (h : Tokenized s tokens) (hopen : throughQuote s = none) :
    ∀ token ∈ tokens, throughQuote token = none := by
  induction h with
  | nil => simp
  | @cons gap token after tokens hgap htoken _ ih =>
    rw [List.append_assoc, throughQuote_gap_append hgap] at hopen
    cases htoken with
    | quoted => simp [throughQuote] at hopen
    | bare _ hafter _ =>
      obtain ⟨htoken, hrest⟩ := (throughQuote_append_eq_none_iff hafter).mp hopen
      intro other hother
      rcases List.mem_cons.mp hother with rfl | hother
      · exact htoken
      · exact ih hrest other hother

/-- Tokens that close no quote by themselves close none however they are written. -/
theorem Trail.throughQuote_eq_none {tokens : List (List Char)} {text : List Char}
    (h : Trail tokens text) (hopen : ∀ token ∈ tokens, throughQuote token = none) :
    throughQuote text = none := by
  induction h with
  | @nil gap hgap =>
    have hnone : throughQuote (gap ++ []) = none := (throughQuote_gap_append hgap []).mpr rfl
    rwa [List.append_nil] at hnone
  | @cons gap token after tokens _ hgap hafter ih =>
    have htoken : throughQuote token = none := hopen token (by simp)
    have hrest := ih fun other hother => hopen other (List.mem_cons_of_mem _ hother)
    rw [List.append_assoc, throughQuote_gap_append hgap,
      throughQuote_append_eq_none_iff hafter.isBlank_head?]
    exact ⟨htoken, hrest⟩

/-! ## The same tokens with other gaps -/

/-- A token stays one if the tokens behind it are written with other gaps. -/
theorem TokenAt.respaced {token after text : List Char} {tokens : List (List Char)}
    (h : TokenAt token after) (hafter : Tokenized after tokens) (htext : Trail tokens text) :
    TokenAt token text := by
  cases h with
  | quoted hclosing => exact .quoted hclosing
  | @bare c body _ hbare hblank hopen =>
    refine .bare hbare htext.isBlank_head? fun hquote => ?_
    -- what is open behind the quote stays open: in the token, and in each one behind it
    have hnone : throughQuote (body ++ after) = none :=
      throughQuote_eq_none_iff.mpr (hopen hquote)
    obtain ⟨hbody, hrest⟩ := (throughQuote_append_eq_none_iff hblank).mp hnone
    have htrail : throughQuote text = none :=
      htext.throughQuote_eq_none (hafter.throughQuote_eq_none hrest)
    apply throughQuote_eq_none_iff.mp
    rw [throughQuote_append_eq_none_iff htext.isBlank_head?]
    exact ⟨hbody, htrail⟩

theorem Tokenized.trail {s : List Char} {tokens : List (List Char)} (h : Tokenized s tokens) :
    ∀ text, Trail tokens text → Tokenized text tokens := by
  induction h with
  | nil =>
    rintro text ⟨hgap⟩
    exact .nil hgap
  | cons _ htoken hrest ih =>
    intro text htext
    cases htext with
    | @cons gap _ after _ _ hgap hafter =>
      exact .cons hgap (htoken.respaced hrest hafter) (ih after hafter)

/-- The tokens of a text are those of every text that is made of them. -/
theorem Tokenized.respaced {s text : List Char} {tokens : List (List Char)}
    (h : Tokenized s tokens) (htext : Respaced tokens text) : Tokenized text tokens := by
  cases htext with
  | nil hgap => exact .nil hgap
  | cons hgap hafter =>
    cases h with
    | cons _ htoken hrest => exact .cons hgap (htoken.respaced hrest hafter) (hrest.trail _ hafter)

/-- Whatever blanks the tokens of a line are written with, reading them does not fail and
    gives the same tokens; in particular, if they are joined by single spaces. -/
theorem tokenize?_respaced (line : String) :
    (∀ other : String, Respaced ((tokens line).map String.toList) other.toList →
      tokenize? other = some (tokens line)) ∧
    tokenize? (" ".intercalate (tokens line)) = some (tokens line) := by
  have hevery : ∀ other : String, Respaced ((tokens line).map String.toList) other.toList →
      tokenize? other = some (tokens line) := by
    intro other hother
    rw [map_toList_tokens] at hother
    have hsame : tokensOf other.toList = tokensOf line.toList :=
      tokensOf_eq_iff.mpr ((tokenized_tokensOf line.toList).respaced hother)
    rw [tokenize?_eq_some, tokens_eq, tokens_eq, hsame]
  refine ⟨hevery, hevery _ ?_⟩
  rw [String.toList_intercalate]
  exact respaced_intercalate _

/-- There is no gap behind the first token, which is quoted.  A backslash ends the second and
    the last one, and the quote of the third is not closed. -/
theorem tokenize?_respaced_unclosed :
    let line := "  'a b'c\\ 'd x\\"
    let other := "'a b'\tc\\\n'd\u3000 x\\ "
    tokens line = ["'a b'", "c\\", "'d", "x\\"] ∧
      Respaced ((tokens line).map String.toList) other.toList ∧
      tokenize? other = some ["'a b'", "c\\", "'d", "x\\"] ∧
      tokenize? "'a b' c\\ 'd x\\" = some ["'a b'", "c\\", "'d", "x\\"] := by
  intro line other
  have htokens : tokens line = ["'a b'", "c\\", "'d", "x\\"] := by decide +kernel
  have hgaps : ["", "\t", "\n", "\u3000 ", " "].all (·.toList.all isBlank) = true := by
    decide +kernel
  have hblank : ∀ gap ∈ ["", "\t", "\n", "\u3000 ", " "], ∀ c ∈ gap.toList,
      isBlank c = true :=
    fun gap hgap => List.all_eq_true.mp (List.all_eq_true.mp hgaps gap hgap)
  have hlast : Trail [] " ".toList := .nil (hblank " " (by simp))
  have hthird : Trail ["x\\".toList] "\u3000 x\\ ".toList :=
    .cons (by decide) (hblank "\u3000 " (by simp)) hlast
  have hsecond : Trail ["'d".toList, "x\\".toList] "\n'd\u3000 x\\ ".toList :=
    .cons (by decide) (hblank "\n" (by simp)) hthird
  have hfirst : Trail ["c\\".toList, "'d".toList, "x\\".toList]
      "\tc\\\n'd\u3000 x\\ ".toList := .cons (by decide) (hblank "\t" (by simp)) hsecond
  have hall : Respaced ["'a b'".toList, "c\\".toList, "'d".toList, "x\\".toList]
      "'a b'\tc\\\n'd\u3000 x\\ ".toList :=
    .cons (hblank "" (by simp)) hfirst
  have hother : Respaced ((tokens line).map String.toList) other.toList := by
    rw [htokens]
    exact hall
  obtain ⟨hevery, hjoined⟩ := tokenize?_respaced line
  have hread := hevery other hother
  rw [htokens] at hread hjoined
  exact ⟨htokens, hother, hread, hjoined⟩

end Rulebook.Line
