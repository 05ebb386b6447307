/-
  Rulebook.Line.Token

  The tokens of a rule line.  Blanks separate tokens.  A token that starts with
  a quote runs to the next quote that no backslash escapes, blanks included; if
  there is none, it is an ordinary token and ends at the next blank.
-/
import Rulebook.Text.Blank

namespace Rulebook.Line

open Rulebook.Text (isBlank skipBlanks)

/-! ## One token -/

/-- Split a text behind the first quote in it that no backslash escapes. -/
def throughQuote : List Char → Option (List Char × List Char)
  | [] => none
  | ['\\'] => none
  | '\\' :: c :: rest =>
    (throughQuote rest).map fun (body, after) => ('\\' :: c :: body, after)
  | c :: rest =>
    if c = '\'' then some (['\''], rest)
    else (throughQuote rest).map fun (body, after) => (c :: body, after)

/-- Split a text in front of its first blank. -/
def throughBare (s : List Char) : List Char × List Char :=
  (s.takeWhile (!isBlank ·), s.dropWhile (!isBlank ·))

/-- The token that starts with `c`, and the text behind it. -/
def splitToken (c : Char) (rest : List Char) : List Char × List Char :=
  if c = '\'' then
    match throughQuote rest with
    | some (body, after) => (c :: body, after)
    | none => (c :: (throughBare rest).1, (throughBare rest).2)
  else (c :: (throughBare rest).1, (throughBare rest).2)

/-! ## A token and what follows it make up the text -/

theorem throughQuote_append {s body after : List Char}
    (h : throughQuote s = some (body, after)) : body ++ after = s := by
  fun_induction throughQuote s generalizing body after with
  | case1 => simp at h
  | case2 => simp at h
  | case3 c rest ih =>
    obtain ⟨⟨b, a⟩, hb, he⟩ := Option.map_eq_some_iff.1 h
    cases he
    simp [ih hb]
  | case4 rest =>
    simp only [Option.some.injEq, Prod.mk.injEq] at h
    simp [← h.1, ← h.2]
  | case5 c rest _ _ _ ih =>
    obtain ⟨⟨b, a⟩, hb, he⟩ := Option.map_eq_some_iff.1 h
    cases he
    simp [ih hb]

theorem throughBare_append (s : List Char) : (throughBare s).1 ++ (throughBare s).2 = s :=
  List.takeWhile_append_dropWhile

theorem splitToken_append (c : Char) (rest : List Char) :
    (splitToken c rest).1 ++ (splitToken c rest).2 = c :: rest := by
  unfold splitToken
  split
  · split
    · next h => simp [throughQuote_append h]
    · simp [throughBare_append]
  · simp [throughBare_append]

/-- A token starts with the character that it was read from. -/
theorem splitToken_fst (c : Char) (rest : List Char) :
    ∃ body, (splitToken c rest).1 = c :: body := by
  unfold splitToken
  split
  · split <;> exact ⟨_, rfl⟩
  · exact ⟨_, rfl⟩

theorem length_splitToken_lt (c : Char) (rest : List Char) :
    (splitToken c rest).2.length < (c :: rest).length := by
  obtain ⟨body, hb⟩ := splitToken_fst c rest
  have h := congrArg List.length (splitToken_append c rest)
  simp only [hb, List.length_append, List.length_cons] at h ⊢
  omega

/-! ## All tokens -/

/-- The token in front of a text, and the text behind it.  No token starts with a blank. -/
def token? : List Char → Option (List Char × List Char)
  | [] => none
  | c :: rest => if isBlank c then none else some (splitToken c rest)

theorem token?_cons {c : Char} (hc : isBlank c = false) (rest : List Char) :
    token? (c :: rest) = some (splitToken c rest) := by
  simp [token?, hc]

/-- What is left behind a token is shorter than the text. -/
theorem length_lt_of_token? {s token after : List Char} (h : token? s = some (token, after)) :
    after.length < s.length := by
  unfold token? at h
  split at h
  · cases h
  · next c rest =>
    split at h
    · cases h
    · have hlt := length_splitToken_lt c rest
      rwa [Option.some.inj h] at hlt

/-- Read tokens and the blanks behind them as long as there is one, and give the text that is
    left. -/
def readTokens (s : List Char) : List (List Char) × List Char :=
  match _h : token? s with
  | none => ([], s)
  | some (token, after) =>
    let (tokens, left) := readTokens (skipBlanks after)
    (token :: tokens, left)
termination_by s.length
decreasing_by
  have hle : (skipBlanks after).length ≤ after.length := (List.dropWhile_sublist _).length_le
  exact Nat.lt_of_le_of_lt hle (length_lt_of_token? _h)

/-- The tokens of a text, in order. -/
def tokensOf (s : List Char) : List (List Char) := (readTokens (skipBlanks s)).1

/-- The tokens of a line, if reading them reaches its end. -/
def tokenize? (line : String) : Option (List String) :=
  match readTokens (skipBlanks line.toList) with
  | (tokens, []) => some (tokens.map String.ofList)
  | (_, _ :: _) => none

/-! ## Reading reaches the end of every line -/

theorem skipBlanks_eq_cons {s rest : List Char} {c : Char} (h : skipBlanks s = c :: rest) :
    isBlank c = false := by
  have hhead := List.head?_dropWhile_not isBlank s
  rw [skipBlanks] at h
  simpa [h] using hhead

theorem readTokens_of_none {s : List Char} (h : token? s = none) : readTokens s = ([], s) := by
  rw [readTokens]
  split
  · rfl
  · next hsome => rw [h] at hsome; cases hsome

theorem readTokens_of_some {s token after : List Char} (h : token? s = some (token, after)) :
    readTokens s = (token :: tokensOf after, (readTokens (skipBlanks after)).2) := by
  rw [readTokens]
  split
  · next hnone => rw [h] at hnone; cases hnone
  · next hsome =>
    rw [h] at hsome
    cases hsome
    rfl

/-- All tokens are read, and nothing is left. -/
theorem readTokens_skipBlanks (s : List Char) : readTokens (skipBlanks s) = (tokensOf s, []) := by
  refine Prod.ext rfl ?_
  -- behind blanks there is a token, or nothing
  cases hskip : skipBlanks s with
  | nil => rw [readTokens_of_none rfl]
  | cons c rest =>
    have htoken : token? (c :: rest) = some ((splitToken c rest).1, (splitToken c rest).2) :=
      token?_cons (skipBlanks_eq_cons hskip) rest
    rw [readTokens_of_some htoken, readTokens_skipBlanks (splitToken c rest).2]
termination_by s.length
decreasing_by
  have hle : (skipBlanks s).length ≤ s.length := (List.dropWhile_sublist _).length_le
  rw [hskip] at hle
  exact Nat.lt_of_lt_of_le (length_splitToken_lt c rest) hle

theorem tokenize?_eq (line : String) :
    tokenize? line = some ((tokensOf line.toList).map String.ofList) := by
  rw [tokenize?, readTokens_skipBlanks]

theorem isSome_tokenize? (line : String) : (tokenize? line).isSome := by
  rw [tokenize?_eq]
  rfl

/-- The tokens of a rule line, in order. -/
def tokens (line : String) : List String := (tokenize? line).get (isSome_tokenize? line)

theorem tokenize?_eq_some (line : String) : tokenize? line = some (tokens line) :=
  (Option.some_get _).symm

theorem tokens_eq (line : String) : tokens line = (tokensOf line.toList).map String.ofList :=
  Option.some.inj ((tokenize?_eq_some line).symm.trans (tokenize?_eq line))

theorem map_toList_tokens (line : String) :
    (tokens line).map String.toList = tokensOf line.toList := by
  rw [tokens_eq, List.map_map]
  simp [Function.comp_def]

end Rulebook.Line
