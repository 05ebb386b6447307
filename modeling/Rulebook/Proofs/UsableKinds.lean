/-
  Rulebook.Proofs.UsableKinds

  Which registered kinds rule lines can name.  A kind is usable if its name alone is a
  line of it, and behind its name every field takes its value.  The name has to be the
  first token of these lines.  So it may start with a quote only if that quote is closed
  at the end of the name and nowhere before, or if it is never closed and the kind has no
  fields, whose values could close it (`usable_iff_closed`).
-/
import Rulebook.Kind.Custom
import Rulebook.Proofs.LineGroups
import Rulebook.Proofs.RegisteredKinds
import Rulebook.Proofs.RuleLine

namespace Rulebook

open Line (Closing Plain TokenAt tokensOf assignmentsOf)

/-! ## The first token of a line -/

namespace Line

/-- No quote in the text closes one in front of it. -/
def Unclosed (s : List Char) : Prop := ¬ ∃ closing rest, Closing closing ∧ s = closing ++ rest

instance (s : List Char) : Decidable (Unclosed s) := decidable_of_iff _ throughQuote_eq_none_iff

/-- A quote behind a letter closes what stands open, even if the text in front ends with a
    backslash, which then escapes the letter. -/
theorem exists_closing_append (s : List Char) :
    ∃ closing rest, Closing closing ∧ s ++ ['x', '\''] = closing ++ rest := by
  have hquote : 'x' ≠ '\'' := by decide
  have hbackslash : 'x' ≠ '\\' := by decide
  fun_induction throughQuote s with
  | case1 => exact ⟨_, [], .plain hquote hbackslash .quote, rfl⟩
  | case2 =>
    -- the backslash takes the letter, so the quote behind it still closes
    exact ⟨_, [], .escaped 'x' .quote, rfl⟩
  | case3 c rest ih =>
    obtain ⟨closing, after, hclosing, hrest⟩ := ih
    exact ⟨_, after, .escaped c hclosing, by simp [hrest]⟩
  | case4 rest => exact ⟨_, rest ++ ['x', '\''], .quote, rfl⟩
  | case5 c rest hlone hpair hc ih =>
    obtain ⟨closing, after, hclosing, hrest⟩ := ih
    have hplain : c ≠ '\\' := ne_backslash_of_not_escape hlone hpair
    exact ⟨_, after, .plain hc hplain hclosing, by simp [hrest]⟩

/-- If no quote closes a text, what closes it reaches into the text behind it. -/
theorem Unclosed.mem_closing {s more closing rest : List Char} (h : Unclosed s)
    (hclosing : Closing closing) (heq : s ++ more = closing ++ rest) {c : Char}
    (hc : more.head? = some c) : c ∈ closing := by
  rcases List.append_eq_append_iff.mp heq with ⟨reach, rfl, rfl⟩ | ⟨left, rfl, -⟩
  · cases reach with
    | nil => exact absurd ⟨_, [], hclosing, by simp⟩ h
    | cons d reach =>
      obtain rfl : d = c := by simpa using hc
      simp
  · exact absurd ⟨closing, left, hclosing, rfl⟩ h

/-- The first token of a line names its kind, and the others make up its assignments. -/
theorem read?_of_tokenAt {first after : List Char} (h : TokenAt first after) :
    Definition.read? (String.ofList (first ++ after)) =
      some ⟨String.ofList first, assignmentsOf (tokensOf after)⟩ := by
  have hnone : ∀ c ∈ ([] : List Char), Text.isBlank c = true := by simp
  have htokens : tokensOf (first ++ after) = first :: tokensOf after :=
    tokensOf_of_tokenized (.cons hnone h (tokenized_tokensOf after))
  rw [Definition.read?, String.toList_ofList, htokens, Definition.ofTokens?]

/-- The text behind the name of a kind that gives a field a value. -/
def groupText (field value : String) : List Char :=
  [' '] ++ staticToken field ++ ([' '] ++ value.toList)

theorem toList_groupText (name field value : String) :
    (name ++ " --" ++ field ++ " " ++ value).toList = name.toList ++ groupText field value := by
  simp [groupText, staticToken]

theorem tokensOf_groupText {field value : String} (hfield : RuleKind.IsFieldName field)
    (hvalue : Plain value.toList) :
    tokensOf (groupText field value) = [staticToken field, value.toList] := by
  have hspace : Text.isBlank ' ' = true := by decide
  have hdash : Text.isBlank '-' = false := by decide
  have hgap : ∀ c ∈ [' '], Text.isBlank c = true := by simpa using hspace
  have hname : TokenAt (staticToken field) ([' '] ++ value.toList) := by
    refine tokenAt_of_unquoted ⟨List.cons_ne_nil _ _, ?_⟩ ?_ (by simpa using hspace)
    · simpa [staticToken, hdash] using hfield.isWord.2
    · simp [staticToken]
  have htoken : TokenAt value.toList [] := hvalue.tokenAt (by simp)
  have hend : Tokenized [] [] := .nil (by simp)
  have hvalues : Tokenized ([' '] ++ value.toList) [value.toList] := by
    simpa using Tokenized.cons hgap htoken hend
  exact tokensOf_of_tokenized (.cons hgap hname hvalues)

theorem assignmentsOf_groupText {field value : String} (hfield : RuleKind.IsFieldName field)
    (hvalue : Plain value.toList) :
    assignmentsOf (tokensOf (groupText field value)) = [⟨field, false, value⟩] := by
  rw [tokensOf_groupText hfield hvalue, assignmentsOf_plain hfield.unmarked hvalue (by decide)]
  rfl

end Line

namespace Registry

section Usable

variable [Plugins]

/-! ## Kinds that lines can name -/

/-- A kind of a registry can be used in rule lines. -/
structure Usable (registry : Registry) (name : String) (kind : RuleKind) : Prop where
  /-- The name alone gives the rule of the kind with nothing assigned. -/
  parse_name : ∀ bindings, Rule.parse registry bindings name = .ok (.ofKind kind)
  /-- A field and a plain value behind the name come to the assignment of the value to that
      rule.  Either the value is refused, or the field takes it; it is never ignored. -/
  parse_field : ∀ bindings, ∀ field ∈ kind.fields, ∀ value : String, Plain value.toList →
    ∃ outcome : Except CoercionError Rule,
      (Rule.ofKind kind).setField field.name value = outcome.map some ∧
      Rule.parse registry bindings (name ++ " --" ++ field.name ++ " " ++ value) =
        outcome.mapError .coercion

variable {registry : Registry} {name : String} {kind : RuleKind}

theorem unknownKind_of_tokenAt {first after : List Char} (h : TokenAt first after)
    (hnone : registry.get? (String.ofList first) = none) (bindings : Variables) :
    Rule.parse registry bindings (String.ofList (first ++ after)) =
      .error (.unknownKind (String.ofList first)) := by
  simp only [Rule.parse_eq_read?, Line.read?_of_tokenAt h, hnone]

/-- A rule that is read has the kind that the first token of its line names. -/
theorem Reached.name_of_parse (hreached : registry.Reached) {first after : List Char}
    (h : TokenAt first after) {bindings : Variables} {rule : Rule}
    (hparse : Rule.parse registry bindings (String.ofList (first ++ after)) = .ok rule) :
    rule.kind.name = String.ofList first := by
  obtain ⟨definition, found, hread, hfound, -, rfl⟩ := Rule.eq_of_parse hparse
  rw [Line.read?_of_tokenAt h] at hread
  cases hread
  exact (hreached.get?_flawless hfound).1

/-- An assignment to a part of the settings is refused or carried out. -/
theorem exists_outcome {field : Field} (hfield : kind.field? field.name = some field)
    (hslot : field.slot.form = kind.form) (value : String) :
    ∃ outcome : Except CoercionError Rule,
      (Rule.ofKind kind).setField field.name value = outcome.map some := by
  have hset : (Rule.ofKind kind).setField field.name value =
      (kind.assign kind.blank field.name value).map
        (Option.map fun settings => { Rule.ofKind kind with settings }) := rfl
  have hform : kind.blank.form = kind.form := rfl
  rcases RuleKind.assign_spec hform field.name value with ⟨e, -, hassign⟩ | ⟨hmeaning, -⟩ |
    ⟨_, _, settings, -, hassign, -⟩
  · exact ⟨.error e, by rw [hset, hassign]; rfl⟩
  · exact absurd hmeaning (RuleKind.meaning_ne_ok_none hfield hslot value)
  · exact ⟨.ok { Rule.ofKind kind with settings }, by rw [hset, hassign]; rfl⟩

/-- Where the name of a kind is the first token, the line is one of that kind. -/
theorem parse_of_tokenAt {after : List Char} (h : TokenAt name.toList after)
    (hkind : registry.get? name = some kind) (bindings : Variables) :
    Rule.parse registry bindings (String.ofList (name.toList ++ after)) =
      (Rule.assignAll bindings (.ofKind kind) (assignmentsOf (tokensOf after))).mapError
        .coercion := by
  simp only [Rule.parse_eq_read?, Line.read?_of_tokenAt h, String.ofList_toList, hkind]

theorem Usable.of_tokenAt (hreached : registry.Reached) (hkind : registry.get? name = some kind)
    (hslots : ∀ field ∈ kind.fields, field.slot.form = kind.form)
    (hname : TokenAt name.toList [])
    (hfields : kind.fields ≠ [] → ∀ after : List Char, after.head? = some ' ' →
      TokenAt name.toList after) : registry.Usable name kind where
  parse_name bindings := by
    have hparse := parse_of_tokenAt hname hkind bindings
    rw [List.append_nil, String.ofList_toList] at hparse
    rw [hparse, Line.tokensOf_of_skipBlanks_nil rfl]
    rfl
  parse_field bindings field hfield value hvalue := by
    have hflaw : kind.flaw? = none := (hreached.get?_flawless hkind).2
    have hfound : kind.field? field.name = some field := RuleKind.field?_name_of_flaw? hflaw hfield
    obtain ⟨outcome, hset⟩ := exists_outcome hfound (hslots field hfield) value
    have htoken : TokenAt name.toList (Line.groupText field.name value) :=
      hfields (List.ne_nil_of_mem hfield) _ rfl
    have hparse := parse_of_tokenAt htoken hkind bindings
    have hassignments := Line.assignmentsOf_groupText
      (RuleKind.isFieldName_of_flaw? hflaw hfield) hvalue
    rw [hassignments, ← Line.toList_groupText, String.ofList_toList] at hparse
    refine ⟨outcome, hset, ?_⟩
    rw [hparse]
    congr 1
    -- the one assignment is static, and its value has no placeholder to replace
    rw [Rule.assignAll, List.foldlM_cons, Rule.assign]
    simp only [Bool.false_eq_true, if_false, hvalue.substitute_eq, hset]
    cases outcome <;> rfl

/-- A kind whose name opens a quote that the name leaves open is usable only without fields:
    the value of a field could close the quote, and the token would be the name of no kind. -/
theorem Usable.fields_eq_nil (h : registry.Usable name kind) (hreached : registry.Reached)
    {tail : List Char} (htail : name.toList = '\'' :: tail) (hunclosed : Line.Unclosed tail) :
    kind.fields = [] := by
  refine List.eq_nil_iff_forall_not_mem.mpr fun field hfield => ?_
  have hvalue : Plain "x'".toList := by decide
  obtain ⟨outcome, -, hparse⟩ := h.parse_field ∅ field hfield "x'" hvalue
  let lead : List Char := ' ' :: Line.staticToken field.name ++ [' ']
  have hline : (name ++ " --" ++ field.name ++ " " ++ "x'").toList =
      '\'' :: (tail ++ lead ++ ['x', '\'']) := by
    simp [htail, lead, Line.staticToken]
  obtain ⟨closing, rest, hclosing, hclosed⟩ := Line.exists_closing_append (tail ++ lead)
  have htoken : TokenAt ('\'' :: closing) rest := .quoted hclosing
  -- the first token has the blank behind the name in it
  have hblank : ' ' ∈ closing :=
    hunclosed.mem_closing hclosing (by rw [← hclosed, List.append_assoc]) rfl
  have hnone : registry.get? (String.ofList ('\'' :: closing)) = none := by
    rw [Option.eq_none_iff_forall_ne_some]
    intro other hother
    obtain ⟨hname, hflaw⟩ := hreached.get?_flawless hother
    have hword := (RuleKind.isWord_name hflaw).2 ' '
    rw [hname, String.toList_ofList] at hword
    exact absurd (hword (List.mem_cons_of_mem _ hblank)) (by decide)
  have hunknown := unknownKind_of_tokenAt htoken hnone ∅
  rw [List.cons_append, ← hclosed, ← hline, String.ofList_toList, hparse] at hunknown
  cases outcome <;> cases hunknown

/-- A registered kind is usable exactly if its name stands for itself in front of a line.  If
    the name starts with a quote, that is the case if the quote is closed at the end of the
    name and nowhere before.  If it is closed nowhere, the name alone can still be read, but
    the value of a field may close it, so the kind must have none. -/
theorem usable_iff_closed (hreached : registry.Reached)
    (hkind : registry.get? name = some kind)
    (hslots : ∀ field ∈ kind.fields, field.slot.form = kind.form) :
    registry.Usable name kind ↔
      ∀ tail, name.toList = '\'' :: tail →
        Closing tail ∨ (kind.fields = [] ∧ Line.Unclosed tail) := by
  obtain ⟨hkindName, hflaw⟩ := hreached.get?_flawless hkind
  have hword : Text.IsWord name.toList := hkindName ▸ RuleKind.isWord_name hflaw
  constructor
  · intro h tail htail
    by_cases hunclosed : Line.Unclosed tail
    · exact .inr ⟨h.fields_eq_nil hreached htail hunclosed, hunclosed⟩
    · obtain ⟨closing, rest, hclosing, rfl⟩ := Classical.not_not.mp hunclosed
      have htoken : TokenAt ('\'' :: closing) rest := .quoted hclosing
      have hline : String.ofList ('\'' :: closing ++ rest) = name := by
        rw [List.cons_append, ← htail, String.ofList_toList]
      -- the name alone is a line of the kind that its first token names
      have hfirst := hreached.name_of_parse htoken (hline ▸ h.parse_name ∅)
      rw [Rule.ofKind, hkindName, ← String.toList_inj, htail, String.toList_ofList] at hfirst
      rw [(List.cons.inj hfirst).2]
      exact .inl hclosing
  · intro h
    have hspace : Text.isBlank ' ' = true := by decide
    by_cases hquote : name.toList.head? = some '\''
    · obtain ⟨tail, htail⟩ : ∃ tail, name.toList = '\'' :: tail := List.head?_eq_some_iff.mp hquote
      rcases h tail htail with hclosing | ⟨hfields, hunclosed⟩
      · -- the token ends with its closing quote, whatever stands behind it
        have htoken : ∀ after, TokenAt name.toList after := fun after => htail ▸ .quoted hclosing
        exact .of_tokenAt hreached hkind hslots (htoken []) fun _ after _ => htoken after
      · -- an open quote is like any other character, but only while nothing can close it
        have htoken : TokenAt name.toList [] := by
          rw [htail] at hword ⊢
          exact .bare hword.2 (by simp) fun _ => (List.append_nil tail).symm ▸ hunclosed
        exact .of_tokenAt hreached hkind hslots htoken fun hne => absurd hfields hne
    · have htoken : ∀ after : List Char, (∀ c ∈ after.head?, Text.isBlank c = true) →
          TokenAt name.toList after := fun after => Line.tokenAt_of_unquoted hword hquote
      refine .of_tokenAt hreached hkind hslots (htoken [] (by simp)) fun _ after hafter => ?_
      exact htoken after (by simpa [hafter] using hspace)

end Usable

/-- A name between quotes, with an escaped quote in it, of a kind with a field. -/
theorem usable_iff_closed_quoted :
    let kind := RuleKind.custom "'it\\'s'" none [{ name := "count", type := .int64 }]
    let registry : Registry := ⟨builtin.kinds.set kind.name kind⟩
    registry.Reached ∧ registry.get? "'it\\'s'" = some kind ∧
      (∀ field ∈ kind.fields, field.slot.form = kind.form) ∧
      registry.Usable "'it\\'s'" kind := by
  intro kind registry
  have hregister : builtin.register kind = .ok registry :=
    register_eq_ok_iff.mpr ⟨by decide, rfl⟩
  have hreached : registry.Reached := .register reached_builtin hregister
  have hkind : registry.get? "'it\\'s'" = some kind := get?_of_register hregister
  have hslots : ∀ field ∈ kind.fields, field.slot.form = kind.form := by decide
  refine ⟨hreached, hkind, hslots, (usable_iff_closed hreached hkind hslots).mpr ?_⟩
  intro tail htail
  obtain rfl : "it\\'s'".toList = tail := (List.cons.inj htail).2
  have hquote : Line.throughQuote "it\\'s'".toList = some ("it\\'s'".toList, []) := by decide
  exact .inl (Line.closing_of_throughQuote hquote)

/-- A quote in the middle of a name closes the one in front, and the text between them is the
    name of no kind. -/
theorem not_usable_split :
    let kind := RuleKind.custom "'a'b" none []
    let registry : Registry := ⟨builtin.kinds.set kind.name kind⟩
    builtin.register kind = .ok registry ∧ registry.Reached ∧
      registry.get? "'a'b" = some kind ∧
      Rule.parse registry ∅ "'a'b" = .error (.unknownKind "'a'") ∧
      ¬ registry.Usable "'a'b" kind := by
  intro kind registry
  have hregister : builtin.register kind = .ok registry :=
    register_eq_ok_iff.mpr ⟨by decide, rfl⟩
  have htoken : TokenAt "'a'".toList "b".toList :=
    .quoted (.plain (by decide) (by decide) .quote)
  have hnone : registry.get? "'a'" = none := by decide
  have hparse : Rule.parse registry ∅ "'a'b" = .error (.unknownKind "'a'") :=
    unknownKind_of_tokenAt htoken hnone ∅
  refine ⟨hregister, .register reached_builtin hregister, get?_of_register hregister, hparse, ?_⟩
  intro h
  have hname := h.parse_name ∅
  rw [hparse] at hname
  cases hname

end Registry

end Rulebook
