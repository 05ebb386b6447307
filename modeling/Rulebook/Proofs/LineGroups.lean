/-
  Rulebook.Proofs.LineGroups

  The groups of a rule line.  A group is a token that names a field and the tokens up to
  the next one that does.  What stands in front of a group does not change what it says
  (`assignmentsOf_append`), and each assignment is read from a token that names its field
  (`fieldToken_mem_of_mem_assignmentsOf`).  Every list of tokens is a list of groups behind
  some stray tokens, and its assignments are those of the groups (`exists_grouped`,
  `Grouped.assignmentsOf_eq`).  A plain value is one token and needs no quotes: a field that
  is given no more than this has just this text, whatever the variables are.
-/
import Rulebook.Proofs.LineText
import Rulebook.Proofs.Substitution

namespace Rulebook.Line

open Rulebook.Text (isBlank IsWord)

/-! ## Tokens that name fields -/

/-- The token that names a static field. -/
def staticToken (field : String) : List Char := '-' :: '-' :: field.toList

/-- The token that names a dynamic field. -/
def dynamicToken (field : String) : List Char := staticToken field ++ ['$']

theorem fieldToken?_eq_some_iff {token name : List Char} :
    fieldToken? token = some name ↔ token = '-' :: '-' :: name := by
  constructor
  · intro h
    unfold fieldToken? at h
    split at h
    · rw [Option.some.inj h]
    · cases h
  · rintro rfl
    rfl

theorem fieldToken?_eq_none_iff {token : List Char} :
    fieldToken? token = none ↔ ¬ ['-', '-'] <+: token := by
  rw [Option.eq_none_iff_forall_ne_some]
  simp only [ne_eq, fieldToken?_eq_some_iff]
  constructor
  · rintro h ⟨name, rfl⟩
    exact h name rfl
  · rintro h name rfl
    exact h ⟨name, rfl⟩

theorem Assignment.fieldToken_eq (a : Assignment) :
    a.fieldToken = if a.dynamic then dynamicToken a.field else staticToken a.field := by
  cases hd : a.dynamic <;> simp [fieldToken, markedName, staticToken, dynamicToken, hd]

/-- The name of a field with its mark is what its token says. -/
theorem markedName_ofTokens (name : List Char) (values : List (List Char)) :
    (Assignment.ofTokens name values).markedName = name := by
  by_cases hmark : name.getLast? = some '$'
  · obtain ⟨lead, rfl⟩ := List.getLast?_eq_some_iff.mp hmark
    simp [Assignment.ofTokens, unmark, Assignment.markedName]
  · simp [Assignment.ofTokens, unmark, Assignment.markedName, hmark]

/-- An assignment is read from a token that names its field. -/
theorem fieldToken_mem_of_mem_assignmentsOf {tokens : List (List Char)} {a : Assignment}
    (h : a ∈ assignmentsOf tokens) : a.fieldToken ∈ tokens := by
  induction tokens with
  | nil => cases h
  | cons token rest ih =>
    rw [assignmentsOf] at h
    split at h
    · next name hname =>
      obtain rfl := fieldToken?_eq_some_iff.mp hname
      rcases List.mem_cons.mp h with rfl | h
      · rw [Assignment.fieldToken, markedName_ofTokens]
        exact List.mem_cons_self
      · exact List.mem_cons_of_mem _ (ih h)
    · exact List.mem_cons_of_mem _ (ih h)

section WithoutToken

variable {tokens : List (List Char)} {field : String} (hdynamic : dynamicToken field ∉ tokens)

include hdynamic

/-- Without a token that makes a field dynamic, all assignments to the field are static. -/
theorem dynamic_eq_false_of_mem_assignmentsOf {a : Assignment} (ha : a ∈ assignmentsOf tokens)
    (hfield : a.field = field) : a.dynamic = false := by
  have hmem := fieldToken_mem_of_mem_assignmentsOf ha
  rw [a.fieldToken_eq, hfield] at hmem
  cases hd : a.dynamic with
  | false => rfl
  | true =>
    rw [hd, if_pos rfl] at hmem
    exact absurd hmem hdynamic

/-- Without a token that names a field, there is no assignment to it. -/
theorem field_ne_of_mem_assignmentsOf (hstatic : staticToken field ∉ tokens) {a : Assignment}
    (ha : a ∈ assignmentsOf tokens) : a.field ≠ field := by
  intro hfield
  have hmem := fieldToken_mem_of_mem_assignmentsOf ha
  rw [a.fieldToken_eq, dynamic_eq_false_of_mem_assignmentsOf hdynamic ha hfield,
    if_neg Bool.false_ne_true, hfield] at hmem
  exact hstatic hmem

end WithoutToken

/-! ## Plain values -/

/-- A text that is one token, but neither a quoted one nor the name of a field, and that has
    no brace in it. -/
structure Plain (text : List Char) : Prop where
  isWord : IsWord text
  unquoted : text.head? ≠ some '\''
  undashed : ¬ ['-', '-'] <+: text
  unopened : '{' ∉ text
  unclosed : '}' ∉ text

namespace Plain

instance (text : List Char) : Decidable (Plain text) :=
  decidable_of_iff (IsWord text ∧ text.head? ≠ some '\'' ∧ ¬ ['-', '-'] <+: text ∧
      '{' ∉ text ∧ '}' ∉ text)
    ⟨fun ⟨hword, hquote, hdash, hopen, hclose⟩ => ⟨hword, hquote, hdash, hopen, hclose⟩,
      fun h => ⟨h.isWord, h.unquoted, h.undashed, h.unopened, h.unclosed⟩⟩

variable {value : String}

theorem tokenAt (h : Plain value.toList) {after : List Char}
    (hafter : ∀ c ∈ after.head?, isBlank c = true) : TokenAt value.toList after :=
  tokenAt_of_unquoted h.isWord h.unquoted hafter

theorem fieldToken?_eq (h : Plain value.toList) : fieldToken? value.toList = none :=
  fieldToken?_eq_none_iff.mpr h.undashed

theorem templateOf_eq (h : Plain value.toList) : templateOf [value.toList] = value.toList := by
  show unquote ([' '].intercalate [value.toList]) = value.toList
  rw [List.intercalate_singleton, unquote.eq_def]
  split
  · next hquote => exact absurd (congrArg List.head? hquote) h.unquoted
  · rfl

theorem substitute_eq (h : Plain value.toList) (bindings : Variables) :
    bindings.substitute value = value :=
  bindings.substitute_eq_self (Variables.not_hasPlaceholder_of_not_mem h.unopened)

/-- A plain value is all that its field is given. -/
theorem ofTokens_eq (h : Plain value.toList) {field : String}
    (hmark : field.toList.getLast? ≠ some '$') :
    Assignment.ofTokens field.toList [value.toList] = ⟨field, false, value⟩ := by
  simp only [Assignment.ofTokens, unmark, if_neg hmark, h.templateOf_eq, String.ofList_toList]

end Plain

/-! ## Groups -/

/-- The tokens are none at all, or the first of them names a field. -/
def StartsGroup (tokens : List (List Char)) : Prop :=
  ∀ token ∈ tokens.head?, (fieldToken? token).isSome

instance (tokens : List (List Char)) : Decidable (StartsGroup tokens) :=
  inferInstanceAs (Decidable (∀ token ∈ tokens.head?, (fieldToken? token).isSome))

theorem StartsGroup.takeWhile_eq {tokens : List (List Char)} (h : StartsGroup tokens) :
    tokens.takeWhile (fun t => (fieldToken? t).isNone) = [] := by
  cases tokens with
  | nil => rfl
  | cons token rest =>
    have htoken : (fieldToken? token).isSome := h token rfl
    exact List.takeWhile_cons_of_neg (by simpa [Option.isSome_iff_ne_none] using htoken)

/-- The values of a field end where the next group starts. -/
theorem takeWhile_append_of_startsGroup {lead rest : List (List Char)} (h : StartsGroup rest) :
    (lead ++ rest).takeWhile (fun t => (fieldToken? t).isNone) =
      lead.takeWhile fun t => (fieldToken? t).isNone := by
  rw [List.takeWhile_append, h.takeWhile_eq, List.append_nil]
  split
  · -- all tokens in front are values, and the group behind them adds none
    next hall => exact ((List.takeWhile_prefix _).eq_of_length hall).symm
  · rfl

theorem assignmentsOf_append {lead rest : List (List Char)} (h : StartsGroup rest) :
    assignmentsOf (lead ++ rest) = assignmentsOf lead ++ assignmentsOf rest := by
  induction lead with
  | nil => rfl
  | cons token lead ih =>
    rw [List.cons_append, assignmentsOf, assignmentsOf]
    cases fieldToken? token with
    | some name => simp only [takeWhile_append_of_startsGroup h, ih, List.cons_append]
    | none => exact ih

/-- A group of a rule line: what the token that names the field says behind its dashes, and
    the tokens of the value. -/
structure FieldGroup where
  markedName : List Char
  values : List (List Char)
  values_unnamed : ∀ token ∈ values, fieldToken? token = none

namespace FieldGroup

/-- The tokens of a group. -/
def tokens (group : FieldGroup) : List (List Char) :=
  ('-' :: '-' :: group.markedName) :: group.values

/-- The assignment that a group makes. -/
def assignment (group : FieldGroup) : Assignment := .ofTokens group.markedName group.values

end FieldGroup

/-- Tokens taken apart: stray ones, none of which names a field, and the groups behind them. -/
def Grouped (tokens : List (List Char)) (groups : List FieldGroup) : Prop :=
  ∃ stray, (∀ token ∈ stray, fieldToken? token = none) ∧
    tokens = stray ++ groups.flatMap FieldGroup.tokens

theorem grouped_flatMap_tokens (groups : List FieldGroup) :
    Grouped (groups.flatMap FieldGroup.tokens) groups :=
  ⟨[], by simp, rfl⟩

/-- All tokens of a line but the first are stray ones and groups. -/
theorem exists_grouped (tokens : List (List Char)) : ∃ groups, Grouped tokens groups := by
  induction tokens with
  | nil => exact ⟨[], [], by simp⟩
  | cons token rest ih =>
    obtain ⟨groups, stray, hstray, rfl⟩ := ih
    cases hname : fieldToken? token with
    | none =>
      -- the token is one more stray one
      refine ⟨groups, token :: stray, fun other hother => ?_, rfl⟩
      rcases List.mem_cons.mp hother with rfl | hother
      · exact hname
      · exact hstray other hother
    | some name =>
      -- what was stray behind the token is the value of its field
      obtain rfl := fieldToken?_eq_some_iff.mp hname
      exact ⟨⟨name, stray, hstray⟩ :: groups, [], by simp, rfl⟩

theorem startsGroup_flatMap_tokens (groups : List FieldGroup) :
    StartsGroup (groups.flatMap FieldGroup.tokens) := by
  cases groups with
  | nil => simp [StartsGroup]
  | cons group groups => simp [StartsGroup, FieldGroup.tokens, fieldToken?]

theorem assignmentsOf_of_unnamed {stray : List (List Char)}
    (h : ∀ token ∈ stray, fieldToken? token = none) : assignmentsOf stray = [] := by
  induction stray with
  | nil => rfl
  | cons token stray ih =>
    rw [assignmentsOf, h token List.mem_cons_self]
    exact ih fun other hother => h other (List.mem_cons_of_mem _ hother)

theorem FieldGroup.assignmentsOf_tokens (group : FieldGroup) :
    assignmentsOf group.tokens = [group.assignment] := by
  have hvalues : group.values.takeWhile (fun t => (fieldToken? t).isNone) = group.values := by
    refine List.takeWhile_eq_self_iff.mpr fun token htoken => ?_
    rw [group.values_unnamed token htoken, Option.isNone_none]
  rw [tokens, assignmentsOf, fieldToken?]
  simp only [hvalues, assignmentsOf_of_unnamed group.values_unnamed, assignment]

/-- Each group makes its assignment, in the order of the line. -/
theorem assignmentsOf_flatMap_tokens (groups : List FieldGroup) :
    assignmentsOf (groups.flatMap FieldGroup.tokens) = groups.map FieldGroup.assignment := by
  induction groups with
  | nil => rfl
  | cons group groups ih =>
    rw [List.flatMap_cons, assignmentsOf_append (startsGroup_flatMap_tokens groups),
      group.assignmentsOf_tokens, ih, List.map_cons, List.singleton_append]

theorem Grouped.assignmentsOf_eq {tokens : List (List Char)} {groups : List FieldGroup}
    (h : Grouped tokens groups) : assignmentsOf tokens = groups.map FieldGroup.assignment := by
  obtain ⟨stray, hstray, rfl⟩ := h
  rw [assignmentsOf_append (startsGroup_flatMap_tokens groups),
    assignmentsOf_of_unnamed hstray, List.nil_append, assignmentsOf_flatMap_tokens]

/-- What a line says: its first token names the kind, and its groups are the assignments. -/
theorem read?_of_grouped {line kind : String} {rest : List (List Char)}
    {groups : List FieldGroup} (htokens : tokensOf line.toList = kind.toList :: rest)
    (hgroups : Grouped rest groups) :
    Definition.read? line = some ⟨kind, groups.map FieldGroup.assignment⟩ := by
  rw [Definition.read?, htokens, Definition.ofTokens?, hgroups.assignmentsOf_eq,
    String.ofList_toList]

theorem read?_eq_none_iff {line : String} :
    Definition.read? line = none ↔ ∀ c ∈ line.toList, isBlank c = true := by
  rw [← tokensOf_eq_nil_iff, Definition.read?]
  cases tokensOf line.toList <;> simp [Definition.ofTokens?]

/-- The first token of a line is the name of its kind. -/
theorem head?_tokens (line : String) :
    (tokens line).head? = (Definition.read? line).map (·.kind) := by
  rw [tokens_eq, Definition.read?]
  cases tokensOf line.toList <;> rfl

theorem read?_of_head? {line name : String} {groups : List FieldGroup}
    (hname : (tokens line).head? = some name)
    (hgroups : Grouped (tokensOf line.toList).tail groups) :
    Definition.read? line = some ⟨name, groups.map FieldGroup.assignment⟩ := by
  cases htokens : tokensOf line.toList with
  | nil => simp [tokens_eq, htokens] at hname
  | cons first rest =>
    rw [tokens_eq, htokens, List.map_cons, List.head?_cons] at hname
    obtain rfl := Option.some.inj hname
    rw [htokens, List.tail_cons] at hgroups
    exact read?_of_grouped (by rw [htokens, String.toList_ofList]) hgroups

/-- A group of a static field and a plain value, and the groups behind it. -/
theorem assignmentsOf_plain {field value : String} (hmark : field.toList.getLast? ≠ some '$')
    (hvalue : Plain value.toList) {rest : List (List Char)} (hrest : StartsGroup rest) :
    assignmentsOf (staticToken field :: value.toList :: rest) =
      ⟨field, false, value⟩ :: assignmentsOf rest := by
  have hvalues : (value.toList :: rest).takeWhile (fun t => (fieldToken? t).isNone) =
      [value.toList] := by
    rw [List.takeWhile_cons_of_pos (by simp [hvalue.fieldToken?_eq]), hrest.takeWhile_eq]
  have hskip : assignmentsOf (value.toList :: rest) = assignmentsOf rest := by
    rw [assignmentsOf, hvalue.fieldToken?_eq]
  rw [assignmentsOf, staticToken, fieldToken?]
  simp only [hvalues, hskip, hvalue.ofTokens_eq hmark]

end Rulebook.Line
