/-
  Rulebook.Proofs.Substitution

  What replacing the placeholders of a template does to its text.  A text without a
  placeholder stays as it is (`expand_eq_self`), and of the variables only those
  matter whose names stand in placeholders (`expand_congr`).
-/
import Rulebook.Variables

namespace Rulebook

/-- A text is split at one character exactly where that character comes first. -/
theorem Text.splitFirst_singleton_iff {c : Char} {s before after : List Char} :
    splitFirst [c] s = some (before, after) ↔ s = before ++ c :: after ∧ c ∉ before := by
  induction s generalizing before with
  | nil => simp [splitFirst]
  | cons d s ih =>
    by_cases hd : c = d
    · -- the split is in front of everything
      have hbehind : behind [c] (d :: s) = some s := behind_eq_some_iff.mpr (by simp [hd])
      rw [splitFirst, hbehind]
      cases before with
      | nil => simp [hd, eq_comm]
      | cons e before =>
        refine iff_of_false (by simp) ?_
        rintro ⟨hs, hnot⟩
        exact hnot (by simp [hd, (List.cons.inj hs).1])
    · have hbehind : behind [c] (d :: s) = none := by
        rw [behind, if_neg hd]
      rw [splitFirst, hbehind]
      cases before with
      | nil => simp [Ne.symm hd]
      | cons e before =>
        have hsplit := @ih before
        simp only [Option.map_eq_some_iff, Prod.exists, Prod.mk.injEq, List.cons.injEq,
          List.cons_append, List.mem_cons, not_or]
        constructor
        · rintro ⟨b, a, hba, ⟨rfl, rfl⟩, rfl⟩
          obtain ⟨hs, hnot⟩ := hsplit.mp hba
          exact ⟨⟨rfl, hs⟩, hd, hnot⟩
        · rintro ⟨⟨rfl, hs⟩, -, hnot⟩
          exact ⟨before, after, hsplit.mpr ⟨hs, hnot⟩, ⟨rfl, rfl⟩, rfl⟩

theorem Text.splitFirst_append_cons {c : Char} {before : List Char} (h : c ∉ before)
    (after : List Char) : splitFirst [c] (before ++ c :: after) = some (before, after) :=
  splitFirst_singleton_iff.mpr ⟨rfl, h⟩

namespace Variables

/-! ## Texts without placeholders -/

/-- A text holds a complete placeholder: an opening brace that a closing one follows. -/
def HasPlaceholder (template : List Char) : Prop :=
  ∃ before name after, template = before ++ '{' :: name ++ '}' :: after

theorem HasPlaceholder.cons {template : List Char} (h : HasPlaceholder template) (c : Char) :
    HasPlaceholder (c :: template) := by
  obtain ⟨before, name, after, rfl⟩ := h
  exact ⟨c :: before, name, after, rfl⟩

theorem not_hasPlaceholder_of_not_mem {template : List Char} (h : '{' ∉ template) :
    ¬ HasPlaceholder template := by
  rintro ⟨before, name, after, rfl⟩
  exact h (by simp)

/-- A text without a complete placeholder stands for itself. -/
theorem expand_eq_self (value : List Char → List Char) {template : List Char}
    (h : ¬ HasPlaceholder template) : expand value template = template := by
  fun_induction expand value template with
  | case1 => rfl
  | case2 rest name after hsplit ih =>
    -- a brace that is closed further on would be a placeholder
    have hrest := Text.splitFirst_append hsplit
    exact absurd ⟨[], name, after, by simp [hrest]⟩ h
  | case3 => rfl
  | case4 c rest hc ih => rw [ih fun hrest => h (hrest.cons c)]

/-- A text without a complete placeholder does not depend on the variables. -/
theorem substitute_eq_self (bindings : Variables) {template : String}
    (h : ¬ HasPlaceholder template.toList) : bindings.substitute template = template := by
  rw [substitute, expand_eq_self _ h, String.ofList_toList]

theorem substitute_eq_substitute (bindings bindings' : Variables) {template : String}
    (h : ¬ HasPlaceholder template.toList) :
    bindings.substitute template = bindings'.substitute template := by
  rw [substitute_eq_self bindings h, substitute_eq_self bindings' h]

/-! ## The names in placeholders -/

/-- A text stands as the name of a placeholder in a template.  Placeholders are taken from
    the left: each starts at the first brace that opens behind the one before, and its name
    goes on to the next brace that closes. -/
inductive IsPlaceholder (name : List Char) : List Char → Prop
  | first {lead rest : List Char} (hlead : '{' ∉ lead) (hname : '}' ∉ name) :
      IsPlaceholder name (lead ++ '{' :: (name ++ '}' :: rest))
  | later {lead other rest : List Char} (hlead : '{' ∉ lead) (hother : '}' ∉ other)
      (h : IsPlaceholder name rest) : IsPlaceholder name (lead ++ '{' :: (other ++ '}' :: rest))

theorem IsPlaceholder.cons {name template : List Char} (h : IsPlaceholder name template)
    {c : Char} (hc : c ≠ '{') : IsPlaceholder name (c :: template) := by
  cases h with
  | @first lead rest hlead hname =>
    have hcons : '{' ∉ c :: lead := by simp [hc.symm, hlead]
    exact .first hcons hname
  | @later lead other rest hlead hother h =>
    have hcons : '{' ∉ c :: lead := by simp [hc.symm, hlead]
    exact .later hcons hother h

/-- The names in the placeholders of a template, in order. -/
def placeholders : List Char → List (List Char)
  | [] => []
  | c :: rest =>
    if c = '{' then
      match _h : Text.splitFirst ['}'] rest with
      | some (name, after) => name :: placeholders after
      | none => []
    else placeholders rest
termination_by template => template.length
decreasing_by
  · have := Text.length_lt_of_splitFirst (by simp) _h
    simp only [List.length_cons]
    omega
  · simp

theorem placeholders_append {lead name : List Char} (hlead : '{' ∉ lead) (hname : '}' ∉ name)
    (rest : List Char) :
    placeholders (lead ++ '{' :: (name ++ '}' :: rest)) = name :: placeholders rest := by
  induction lead with
  | nil =>
    have hsplit := Text.splitFirst_append_cons hname rest
    rw [List.nil_append, placeholders, if_pos rfl]
    split
    · next name' after h =>
      cases hsplit.symm.trans h
      rfl
    · next h => cases hsplit.symm.trans h
  | cons c lead ih =>
    rw [List.mem_cons, not_or] at hlead
    rw [List.cons_append, placeholders, if_neg (Ne.symm hlead.1), ih hlead.2]

theorem mem_placeholders_iff {name template : List Char} :
    name ∈ placeholders template ↔ IsPlaceholder name template := by
  constructor
  · intro h
    fun_induction placeholders template with
    | case1 => cases h
    | case2 rest found after hsplit ih =>
      obtain ⟨rfl, hfound⟩ := Text.splitFirst_singleton_iff.mp hsplit
      rcases List.mem_cons.mp h with rfl | h
      · exact .first List.not_mem_nil hfound
      · exact .later List.not_mem_nil hfound (ih h)
    | case3 => cases h
    | case4 c rest hc ih => exact (ih h).cons hc
  · intro h
    induction h with
    | first hlead hname => simp [placeholders_append hlead hname]
    | later hlead hother _ ih => simp [placeholders_append hlead hother, ih]

instance (name template : List Char) : Decidable (IsPlaceholder name template) :=
  decidable_of_iff _ mem_placeholders_iff

/-- Expanding a template replaces its first placeholder, and goes on behind it. -/
theorem expand_append (value : List Char → List Char) {lead name : List Char}
    (hlead : '{' ∉ lead) (hname : '}' ∉ name) (rest : List Char) :
    expand value (lead ++ '{' :: (name ++ '}' :: rest)) =
      lead ++ value name ++ expand value rest := by
  induction lead with
  | nil =>
    have hsplit := Text.splitFirst_append_cons hname rest
    rw [List.nil_append, expand, if_pos rfl]
    split
    · next name' after h =>
      cases hsplit.symm.trans h
      rfl
    · next h => cases hsplit.symm.trans h
  | cons c lead ih =>
    rw [List.mem_cons, not_or] at hlead
    rw [List.cons_append, expand, if_neg (Ne.symm hlead.1), ih hlead.2]
    rfl

/-- The placeholder of a name. -/
def placeholder (name : String) : String := "\x7b" ++ name ++ "\x7d"

theorem substitute_placeholder (bindings : Variables) {name : String} (h : '}' ∉ name.toList) :
    bindings.substitute (placeholder name) = bindings.text name := by
  have htext : (placeholder name).toList = [] ++ '{' :: (name.toList ++ '}' :: []) := by
    simp [placeholder]
  rw [substitute, htext, expand_append _ List.not_mem_nil h, expand, List.nil_append,
    List.append_nil, String.ofList_toList, String.ofList_toList]

/-- What a template expands to depends only on the texts for the names in placeholders. -/
theorem expand_congr {value value' : List Char → List Char} {template : List Char}
    (h : ∀ name, IsPlaceholder name template → value name = value' name) :
    expand value template = expand value' template := by
  fun_induction expand value template with
  | case1 => rw [expand]
  | case2 rest name after hsplit ih =>
    obtain ⟨rfl, hname⟩ := Text.splitFirst_singleton_iff.mp hsplit
    have hfirst : value name = value' name := h name (.first List.not_mem_nil hname)
    have hrest := ih fun other hother => h other (.later List.not_mem_nil hname hother)
    rw [expand, if_pos rfl]
    split
    · next name' after' h' =>
      cases hsplit.symm.trans h'
      rw [hfirst, hrest]
    · next h' => cases hsplit.symm.trans h'
  | case3 rest hsplit =>
    rw [expand, if_pos rfl]
    split
    · next h' => cases hsplit.symm.trans h'
    · rfl
  | case4 c rest hc ih =>
    have hrest := ih fun other hother => h other (hother.cons hc)
    rw [expand, if_neg hc, hrest]

/-! ## Variables that differ in one name -/

/-- Two sets of variables agree, except perhaps on one name. -/
def AgreeExcept (x : String) (bindings bindings' : Variables) : Prop :=
  ∀ name, name ≠ x → bindings[name]? = bindings'[name]?

theorem AgreeExcept.insert {x : String} {bindings bindings' : Variables}
    (h : AgreeExcept x bindings bindings') (name value : String) :
    AgreeExcept x (bindings.insert name value) (bindings'.insert name value) := by
  intro other hother
  rw [NameMap.getElem?_insert_name, NameMap.getElem?_insert_name, h other hother]

/-- A template in which a name is in no placeholder does not depend on its variable. -/
theorem AgreeExcept.substitute_eq {x : String} {bindings bindings' : Variables}
    (h : AgreeExcept x bindings bindings') {template : String}
    (hx : ¬ IsPlaceholder x.toList template.toList) :
    bindings.substitute template = bindings'.substitute template := by
  have hvalues : ∀ name, IsPlaceholder name template.toList →
      (bindings.text (String.ofList name)).toList =
        (bindings'.text (String.ofList name)).toList := by
    intro name hname
    have hne : String.ofList name ≠ x := by
      rintro rfl
      exact hx (by simpa using hname)
    rw [text, text, h _ hne]
  rw [substitute, substitute, expand_congr hvalues]

end Variables

end Rulebook
