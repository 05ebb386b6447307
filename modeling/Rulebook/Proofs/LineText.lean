/-
  Rulebook.Proofs.LineText

  Writing rule lines.  Each field stands behind two dashes and each value between
  quotes, and what is written is read back as it was (`read?_text`): a value may
  hold anything in which quotes are escaped, blanks, dashes and braces included.
-/
import Rulebook.Line.Definition
import Rulebook.Proofs.Tokens
import Rulebook.Proofs.Words

namespace Rulebook.Line

open Rulebook.Text (isBlank IsWord)

/-! ## The text of a definition -/

/-- The text of an assignment: the field, with a mark if it is dynamic, and the quoted value. -/
def Assignment.text (a : Assignment) : String :=
  " --" ++ a.field ++ (if a.dynamic then "$" else "") ++ " '" ++ a.template ++ "'"

/-- The line that says what a definition says. -/
def Definition.text (definition : Definition) : String :=
  definition.kind ++ String.join (definition.assignments.map Assignment.text)

/-- A text that can stand between quotes: each quote in it is escaped by a backslash, and no
    backslash at its end is left to escape the closing quote. -/
inductive Escaped : List Char → Prop
  | nil : Escaped []
  | escape (c : Char) {rest : List Char} (h : Escaped rest) : Escaped ('\\' :: c :: rest)
  | plain {c : Char} {rest : List Char} (hquote : c ≠ '\'') (hbackslash : c ≠ '\\')
      (h : Escaped rest) : Escaped (c :: rest)

/-- Whether a text can stand between quotes. -/
def isEscaped : List Char → Bool
  | [] => true
  | ['\\'] => false
  | '\\' :: _ :: rest => isEscaped rest
  | c :: rest => c != '\'' && isEscaped rest

theorem isEscaped_iff {value : List Char} : isEscaped value = true ↔ Escaped value := by
  constructor
  · intro h
    fun_induction isEscaped value with
    | case1 => exact .nil
    | case2 => cases h
    | case3 c rest ih => exact .escape c (ih h)
    | case4 c rest hlone hpair ih =>
      rw [Bool.and_eq_true] at h
      exact .plain (by simpa using h.1) (ne_backslash_of_not_escape hlone hpair) (ih h.2)
  · intro h
    induction h with
    | nil => rfl
    | escape c _ ih => simpa [isEscaped] using ih
    | plain hquote hbackslash _ ih => simpa [isEscaped, hquote, hbackslash] using ih

instance (value : List Char) : Decidable (Escaped value) := decidable_of_iff _ isEscaped_iff

/-- An assignment that can be written: its field is one token and has no mark of its own, and
    its value can be quoted. -/
structure Assignment.Writable (a : Assignment) : Prop where
  bare : ∀ c ∈ a.field.toList, isBlank c = false
  unmarked : a.field.toList.getLast? ≠ some '$'
  escaped : Escaped a.template.toList

theorem Assignment.writable_iff {a : Assignment} :
    a.Writable ↔ a.field.toList.all (fun c => !isBlank c) = true ∧
      a.field.toList.getLast? ≠ some '$' ∧ Escaped a.template.toList := by
  constructor
  · intro h
    exact ⟨by simpa using h.bare, h.unmarked, h.escaped⟩
  · rintro ⟨hbare, hunmarked, hescaped⟩
    exact ⟨by simpa using hbare, hunmarked, hescaped⟩

instance (a : Assignment) : Decidable a.Writable :=
  decidable_of_iff' _ Assignment.writable_iff

/-- A definition that can be written. -/
structure Definition.Writable (definition : Definition) : Prop where
  kind_isWord : IsWord definition.kind.toList
  kind_unquoted : definition.kind.toList.head? ≠ some '\''
  assignments_writable : ∀ a ∈ definition.assignments, a.Writable

/-! ## The tokens of a written line -/

/-- A word that does not start with a quote is a token up to the next blank. -/
theorem tokenAt_of_unquoted {word after : List Char} (hword : IsWord word)
    (hquote : word.head? ≠ some '\'') (hafter : ∀ c ∈ after.head?, isBlank c = true) :
    TokenAt word after := by
  obtain ⟨c, body, rfl⟩ := List.exists_cons_of_ne_nil hword.1
  refine .bare hword.2 hafter ?_
  rintro rfl
  exact absurd rfl hquote

theorem Escaped.closing {value : List Char} (h : Escaped value) : Closing (value ++ ['\'']) := by
  induction h with
  | nil => exact .quote
  | escape c _ ih => exact .escaped c ih
  | plain hquote hbackslash _ ih => exact .plain hquote hbackslash ih

namespace Assignment

/-- The name of a field with its mark. -/
def markedName (a : Assignment) : List Char :=
  a.field.toList ++ if a.dynamic then ['$'] else []

/-- The token that names the field. -/
def fieldToken (a : Assignment) : List Char := '-' :: '-' :: a.markedName

/-- The token of the value. -/
def valueToken (a : Assignment) : List Char := '\'' :: (a.template.toList ++ ['\''])

theorem toList_text (a : Assignment) :
    a.text.toList = ' ' :: a.fieldToken ++ ' ' :: a.valueToken := by
  cases hd : a.dynamic <;> simp [text, fieldToken, markedName, valueToken, hd]

theorem fieldToken_bare {a : Assignment} (h : a.Writable) :
    ∀ c ∈ a.fieldToken, isBlank c = false := by
  have hdash : isBlank '-' = false := by decide
  have hmark : isBlank '$' = false := by decide
  intro c hc
  simp only [fieldToken, markedName, List.mem_cons, List.mem_append] at hc
  rcases hc with rfl | rfl | hc | hc
  · exact hdash
  · exact hdash
  · exact h.bare c hc
  · split at hc
    · obtain rfl := List.mem_singleton.mp hc
      exact hmark
    · cases hc

end Assignment

/-- The written assignments of a line, one behind the other. -/
def assignmentsText (assignments : List Assignment) : List Char :=
  assignments.flatMap (·.text.toList)

theorem toList_text (definition : Definition) :
    definition.text.toList = definition.kind.toList ++ assignmentsText definition.assignments := by
  rw [Definition.text, String.toList_append, String.toList_join, List.flatMap_map]
  rfl

/-- A blank or the end of the line stands in front of the written assignments. -/
theorem isBlank_head?_assignmentsText (assignments : List Assignment) :
    ∀ c ∈ (assignmentsText assignments).head?, isBlank c = true := by
  have hspace : isBlank ' ' = true := by decide
  cases assignments with
  | nil => simp [assignmentsText]
  | cons a rest => simp [assignmentsText, Assignment.toList_text, hspace]

theorem tokenized_assignmentsText {assignments : List Assignment}
    (h : ∀ a ∈ assignments, a.Writable) :
    Tokenized (assignmentsText assignments)
      (assignments.flatMap fun a => [a.fieldToken, a.valueToken]) := by
  have hspace : isBlank ' ' = true := by decide
  have hgap : ∀ c ∈ [' '], isBlank c = true := by simpa using hspace
  induction assignments with
  | nil => exact .nil (by simp [assignmentsText])
  | cons a rest ih =>
    have ha : a.Writable := h a (by simp)
    have hrest := ih fun b hb => h b (List.mem_cons_of_mem _ hb)
    -- the value runs to the quote that closes it, the field to the blank in front of the value
    have hvalue : TokenAt a.valueToken (assignmentsText rest) := .quoted ha.escaped.closing
    have hfield : TokenAt a.fieldToken ([' '] ++ a.valueToken ++ assignmentsText rest) := by
      refine tokenAt_of_unquoted ⟨List.cons_ne_nil _ _, Assignment.fieldToken_bare ha⟩ ?_ ?_
      · simp [Assignment.fieldToken]
      · intro c hc
        obtain rfl : ' ' = c := Option.some.inj hc
        exact hspace
    have htokens := Tokenized.cons hgap hfield (.cons hgap hvalue hrest)
    have htext : assignmentsText (a :: rest) =
        [' '] ++ a.fieldToken ++ ([' '] ++ a.valueToken ++ assignmentsText rest) := by
      simp [assignmentsText, Assignment.toList_text]
    rw [htext]
    exact htokens

theorem tokensOf_text {definition : Definition} (h : definition.Writable) :
    tokensOf definition.text.toList = definition.kind.toList ::
      definition.assignments.flatMap fun a => [a.fieldToken, a.valueToken] := by
  have hassignments := tokenized_assignmentsText h.assignments_writable
  have htoken : TokenAt definition.kind.toList (assignmentsText definition.assignments) :=
    tokenAt_of_unquoted h.kind_isWord h.kind_unquoted (isBlank_head?_assignmentsText _)
  have hnone : ∀ c ∈ ([] : List Char), isBlank c = true := by simp
  have htokens := Tokenized.cons hnone htoken hassignments
  rw [List.nil_append, ← toList_text] at htokens
  exact tokensOf_of_tokenized htokens

/-! ## What the tokens say -/

theorem fieldToken?_fieldToken (a : Assignment) :
    fieldToken? a.fieldToken = some a.markedName := rfl

theorem fieldToken?_valueToken (a : Assignment) : fieldToken? a.valueToken = none := rfl

theorem unmark_markedName {a : Assignment} (h : a.Writable) :
    unmark a.markedName = (a.field.toList, a.dynamic) := by
  cases hd : a.dynamic with
  | true => simp [unmark, Assignment.markedName, hd]
  | false => simp [unmark, Assignment.markedName, hd, h.unmarked]

theorem templateOf_valueToken (a : Assignment) :
    templateOf [a.valueToken] = a.template.toList := by
  rw [templateOf, List.intercalate_singleton, Assignment.valueToken, unquote,
    List.dropLast_concat]
  simp

theorem ofTokens_tokens {a : Assignment} (h : a.Writable) :
    Assignment.ofTokens a.markedName [a.valueToken] = a := by
  simp only [Assignment.ofTokens, unmark_markedName h, templateOf_valueToken,
    String.ofList_toList]

theorem assignmentsOf_tokens {assignments : List Assignment}
    (h : ∀ a ∈ assignments, a.Writable) :
    assignmentsOf (assignments.flatMap fun a => [a.fieldToken, a.valueToken]) =
      assignments := by
  induction assignments with
  | nil => rfl
  | cons a rest ih =>
    have hrest := ih fun b hb => h b (List.mem_cons_of_mem _ hb)
    -- the value ends where the next field begins, or with the line
    have hvalues : (a.valueToken :: rest.flatMap fun b => [b.fieldToken, b.valueToken]).takeWhile
        (fun t => (fieldToken? t).isNone) = [a.valueToken] := by
      rw [List.takeWhile_cons_of_pos (by rw [fieldToken?_valueToken]; rfl)]
      cases rest with
      | nil => rfl
      | cons b rest =>
        rw [List.flatMap_cons, List.cons_append,
          List.takeWhile_cons_of_neg (by simp [fieldToken?_fieldToken])]
    rw [List.flatMap_cons, List.cons_append, List.singleton_append, assignmentsOf,
      fieldToken?_fieldToken]
    simp only [hvalues]
    rw [ofTokens_tokens (h a (by simp)), assignmentsOf, fieldToken?_valueToken]
    exact congrArg _ hrest

/-- A definition that is written is read back. -/
theorem read?_text {definition : Definition} (h : definition.Writable) :
    Definition.read? definition.text = some definition := by
  rw [Definition.read?, tokensOf_text h, Definition.ofTokens?,
    assignmentsOf_tokens h.assignments_writable, String.ofList_toList]

end Rulebook.Line
