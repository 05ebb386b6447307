/-
  Rulebook.Proofs.TemplateParts

  The text that a template stands for.  A template is made up of placeholders, each with the
  text in front of it, and a rest without one, and it is so in one way only
  (`Parts.exists_text`, `Parts.text_injective`).  Replacing its placeholders puts a text in
  the place of each and copies all else (`Parts.expand_text`).

  The same comes of a scan that goes through the template from left to right in rounds, each
  up to the end of the next placeholder (`Scan.ends_text`).  What a round leaves to be
  scanned is a part of the template, so the texts that are put in are never looked at.
-/
import Rulebook.Proofs.Substitution

namespace Rulebook.Variables

/-! ## The parts of a template -/

/-- What a template is made up of. -/
inductive Parts
  /-- A text without placeholders.  A brace that opens in it is not closed. -/
  | plain (rest : List Char) (hplain : ¬ HasPlaceholder rest)
  /-- A placeholder with the text in front of it, and the parts behind it. -/
  | placeholder (lead name : List Char) (hlead : '{' ∉ lead) (hname : '}' ∉ name)
      (behind : Parts)

namespace Parts

/-- The template that the parts make up. -/
def text : Parts → List Char
  | plain rest _ => rest
  | placeholder lead name _ _ behind => lead ++ '{' :: (name ++ '}' :: behind.text)

/-- The parts with a text in the place of each placeholder. -/
def fill (value : List Char → List Char) : Parts → List Char
  | plain rest _ => rest
  | placeholder lead name _ _ behind => lead ++ value name ++ behind.fill value

/-- The names in the placeholders, in order. -/
def names : Parts → List (List Char)
  | plain _ _ => []
  | placeholder _ name _ _ behind => name :: behind.names

/-- Only the texts for the names in placeholders matter. -/
theorem fill_congr {value value' : List Char → List Char} {parts : Parts}
    (h : ∀ name ∈ parts.names, value name = value' name) :
    parts.fill value = parts.fill value' := by
  induction parts with
  | plain rest hplain => rfl
  | placeholder lead name hlead hname behind ih =>
    have hfirst : value name = value' name := h name (by simp [names])
    have hbehind := ih fun other hother => h other (List.mem_cons_of_mem _ hother)
    rw [fill, fill, hfirst, hbehind]

/-! ## There is one way to take a template apart -/

theorem hasPlaceholder_text {lead name : List Char} (hlead : '{' ∉ lead) (hname : '}' ∉ name)
    (behind : Parts) : HasPlaceholder (placeholder lead name hlead hname behind).text :=
  ⟨lead, name, behind.text, by simp [text]⟩

/-- What stands in front of the first placeholder, its name and what stands behind it are
    determined by the text that they make up. -/
theorem eq_of_placeholder_eq {lead lead' name name' rest rest' : List Char}
    (hlead : '{' ∉ lead) (hlead' : '{' ∉ lead') (hname : '}' ∉ name) (hname' : '}' ∉ name')
    (h : lead ++ '{' :: (name ++ '}' :: rest) = lead' ++ '{' :: (name' ++ '}' :: rest')) :
    lead = lead' ∧ name = name' ∧ rest = rest' := by
  -- both texts are split at the brace that opens first, and then at the one that closes first
  have hopen : (lead, name ++ '}' :: rest) = (lead', name' ++ '}' :: rest') := by
    apply Option.some.inj
    rw [← Text.splitFirst_append_cons hlead, h, Text.splitFirst_append_cons hlead']
  obtain ⟨rfl, hbehind⟩ := Prod.mk.inj hopen
  have hclose : (name, rest) = (name', rest') := by
    apply Option.some.inj
    rw [← Text.splitFirst_append_cons hname, hbehind, Text.splitFirst_append_cons hname']
  obtain ⟨rfl, rfl⟩ := Prod.mk.inj hclose
  exact ⟨rfl, rfl, rfl⟩

/-- No template is made up of different parts. -/
theorem text_injective {parts parts' : Parts} (h : parts.text = parts'.text) :
    parts = parts' := by
  induction parts generalizing parts' with
  | plain rest hplain =>
    cases parts' with
    | plain rest' hplain' =>
      obtain rfl : rest = rest' := h
      rfl
    | placeholder lead' name' hlead' hname' behind' =>
      have hplaceholder := hasPlaceholder_text hlead' hname' behind'
      rw [← h] at hplaceholder
      exact absurd hplaceholder hplain
  | placeholder lead name hlead hname behind ih =>
    cases parts' with
    | plain rest' hplain' =>
      have hplaceholder := hasPlaceholder_text hlead hname behind
      rw [h] at hplaceholder
      exact absurd hplaceholder hplain'
    | placeholder lead' name' hlead' hname' behind' =>
      obtain ⟨rfl, rfl, hbehind⟩ := eq_of_placeholder_eq hlead hlead' hname hname' h
      obtain rfl := ih hbehind
      rfl

theorem not_hasPlaceholder_cons {c : Char} (hc : c ≠ '{') {rest : List Char}
    (h : ¬ HasPlaceholder rest) : ¬ HasPlaceholder (c :: rest) := by
  rintro ⟨before, name, after, htext⟩
  cases before with
  | nil => exact hc (List.cons.inj htext).1
  | cons d before => exact h ⟨before, name, after, (List.cons.inj htext).2⟩

theorem not_hasPlaceholder_of_unclosed {rest : List Char} (h : '}' ∉ rest) :
    ¬ HasPlaceholder ('{' :: rest) := by
  rintro ⟨before, name, after, htext⟩
  have hmem : '}' ∈ '{' :: rest := by
    rw [htext]
    simp
  simp [h] at hmem

/-- A character that opens no placeholder becomes part of the text in front of the first. -/
theorem exists_text_cons {c : Char} (hc : c ≠ '{') (parts : Parts) :
    ∃ more : Parts, more.text = c :: parts.text := by
  cases parts with
  | plain rest hplain => exact ⟨plain (c :: rest) (not_hasPlaceholder_cons hc hplain), rfl⟩
  | placeholder lead name hlead hname behind =>
    have hmore : '{' ∉ c :: lead := by simp [hc.symm, hlead]
    exact ⟨placeholder (c :: lead) name hmore hname behind, rfl⟩

/-- Every template is made up of parts. -/
theorem exists_text (template : List Char) : ∃ parts : Parts, parts.text = template := by
  fun_induction placeholders template with
  | case1 => exact ⟨plain [] (not_hasPlaceholder_of_not_mem List.not_mem_nil), rfl⟩
  | case2 rest name after hsplit ih =>
    obtain ⟨rfl, hname⟩ := Text.splitFirst_singleton_iff.mp hsplit
    obtain ⟨behind, rfl⟩ := ih
    exact ⟨placeholder [] name List.not_mem_nil hname behind, rfl⟩
  | case3 rest hsplit =>
    have hunclosed : '}' ∉ rest := by
      intro hmem
      obtain ⟨name, after, rfl, hname⟩ := List.eq_append_cons_of_mem hmem
      rw [Text.splitFirst_append_cons hname] at hsplit
      cases hsplit
    exact ⟨plain ('{' :: rest) (not_hasPlaceholder_of_unclosed hunclosed), rfl⟩
  | case4 c rest hc ih =>
    obtain ⟨parts, rfl⟩ := ih
    exact exists_text_cons hc parts

end Parts

/-- A template holds a placeholder if looking for their names finds one. -/
theorem placeholders_ne_nil_iff {template : List Char} :
    placeholders template ≠ [] ↔ HasPlaceholder template := by
  obtain ⟨parts, rfl⟩ := Parts.exists_text template
  cases parts with
  | plain rest hplain =>
    refine iff_of_false (fun hne => ?_) hplain
    obtain ⟨name, hname⟩ := List.exists_mem_of_ne_nil _ hne
    cases mem_placeholders_iff.mp hname with
    | @first lead behind => exact hplain ⟨lead, name, behind, by simp⟩
    | @later lead other behind => exact hplain ⟨lead, other, behind, by simp⟩
  | placeholder lead name hlead hname behind =>
    refine iff_of_true ?_ (Parts.hasPlaceholder_text hlead hname behind)
    rw [Parts.text, placeholders_append hlead hname]
    exact List.cons_ne_nil _ _

instance (template : List Char) : Decidable (HasPlaceholder template) :=
  decidable_of_iff _ placeholders_ne_nil_iff

/-! ## Replacing the placeholders -/

/-- Replacing the placeholders of a template fills in its parts. -/
theorem Parts.expand_text (value : List Char → List Char) (parts : Parts) :
    expand value parts.text = parts.fill value := by
  induction parts with
  | plain rest hplain => exact expand_eq_self value hplain
  | placeholder lead name hlead hname behind ih =>
    rw [text, fill, expand_append value hlead hname, ih]

/-! ## The scan -/

/-- A template that is being scanned: what has been written for its first part, and the part
    that is still to be scanned. -/
structure Scan where
  written : List Char
  rest : List Char

namespace Scan

/-- One round of a scan: copy what stands in front of the next brace that opens, and write
    the text for the name up to the next brace that closes.  There is no round if one of the
    two braces is missing. -/
def next? (value : List Char → List Char) (scan : Scan) : Option Scan :=
  match Text.splitFirst ['{'] scan.rest with
  | none => none
  | some (lead, opened) =>
    match Text.splitFirst ['}'] opened with
    | none => none
    | some (name, rest) => some ⟨scan.written ++ lead ++ value name, rest⟩

/-- A scan that ends after a number of rounds.  What is left is copied then. -/
inductive Ends (value : List Char → List Char) : Scan → Nat → List Char → Prop
  | last {scan : Scan} (h : scan.next? value = none) :
      Ends value scan 0 (scan.written ++ scan.rest)
  | round {scan next : Scan} {rounds : Nat} {result : List Char}
      (h : scan.next? value = some next) (hrest : Ends value next rounds result) :
      Ends value scan (rounds + 1) result

variable {value : List Char → List Char}

/-- A scan ends in one way at most. -/
theorem Ends.unique {scan : Scan} {rounds rounds' : Nat} {result result' : List Char}
    (h : Ends value scan rounds result) (h' : Ends value scan rounds' result') :
    rounds = rounds' ∧ result = result' := by
  induction h generalizing rounds' with
  | last hlast =>
    cases h' with
    | last => exact ⟨rfl, rfl⟩
    | round hround => cases hlast.symm.trans hround
  | round hround _ ih =>
    cases h' with
    | last hlast => cases hround.symm.trans hlast
    | round hround' hrest' =>
      cases hround.symm.trans hround'
      obtain ⟨rfl, rfl⟩ := ih hrest'
      exact ⟨rfl, rfl⟩

theorem next?_placeholder (written : List Char) {lead name : List Char} (hlead : '{' ∉ lead)
    (hname : '}' ∉ name) (rest : List Char) :
    next? value ⟨written, lead ++ '{' :: (name ++ '}' :: rest)⟩ =
      some ⟨written ++ lead ++ value name, rest⟩ := by
  simp only [next?, Text.splitFirst_append_cons hlead, Text.splitFirst_append_cons hname]

/-- Without a placeholder there is no round. -/
theorem next?_eq_none {scan : Scan} (h : ¬ HasPlaceholder scan.rest) :
    scan.next? value = none := by
  unfold next?
  split
  · rfl
  · next lead opened hopen =>
    split
    · rfl
    · next name rest hclose =>
      have hrest : scan.rest = lead ++ '{' :: name ++ '}' :: rest := by
        rw [(Text.splitFirst_singleton_iff.mp hopen).1,
          (Text.splitFirst_singleton_iff.mp hclose).1]
        simp
      exact absurd ⟨lead, name, rest, hrest⟩ h

/-- A scan makes one round for each placeholder, and fills in the parts. -/
theorem ends_text (value : List Char → List Char) (written : List Char) (parts : Parts) :
    Ends value ⟨written, parts.text⟩ parts.names.length (written ++ parts.fill value) := by
  induction parts generalizing written with
  | plain rest hplain => exact .last (next?_eq_none hplain)
  | placeholder lead name hlead hname behind ih =>
    have hrest := ih (written ++ lead ++ value name)
    have hresult : written ++ lead ++ value name ++ behind.fill value =
        written ++ (lead ++ value name ++ behind.fill value) := by simp
    rw [hresult] at hrest
    exact .round (next?_placeholder written hlead hname behind.text) hrest

end Scan

/-! ## Templates and variables -/

/-- The text that stands for a placeholder, with its name, as characters. -/
def characters (bindings : Variables) (name : List Char) : List Char :=
  (bindings.text (String.ofList name)).toList

/-- Every template is made up of parts in exactly one way, and with any variables it stands
    for what its parts become when each placeholder is replaced by the text of its variable.
    A scan of the template ends with that result after one round for each placeholder, hence
    at once if there is no brace to open one.  Variables that have the same texts for the
    names in the placeholders give the same result. -/
theorem substitute_eq_fill (template : String) :
    ∃ parts : Parts, (∀ other : Parts, other.text = template.toList ↔ other = parts) ∧
      (∀ bindings : Variables,
        bindings.substitute template = String.ofList (parts.fill bindings.characters)) ∧
      (∀ (bindings : Variables) rounds result,
        Scan.Ends bindings.characters ⟨[], template.toList⟩ rounds result ↔
          rounds = parts.names.length ∧
            result = (bindings.substitute template).toList) ∧
      ('{' ∉ template.toList → parts.names = [] ∧
        ∀ bindings : Variables, bindings.substitute template = template) ∧
      (∀ bindings bindings' : Variables,
        (∀ name ∈ parts.names,
          bindings.text (String.ofList name) = bindings'.text (String.ofList name)) →
        bindings.substitute template = bindings'.substitute template) := by
  obtain ⟨parts, hparts⟩ := Parts.exists_text template.toList
  have hsubstitute : ∀ bindings : Variables,
      bindings.substitute template = String.ofList (parts.fill bindings.characters) := by
    intro bindings
    rw [substitute, ← hparts]
    exact congrArg String.ofList (parts.expand_text bindings.characters)
  refine ⟨parts, fun other => ?_, hsubstitute, fun bindings rounds result => ?_, fun hbrace => ?_,
    fun bindings bindings' hsame => ?_⟩
  · constructor
    · intro hother
      exact Parts.text_injective (hother.trans hparts.symm)
    · rintro rfl
      exact hparts
  · have hends := Scan.ends_text bindings.characters [] parts
    rw [hparts, List.nil_append] at hends
    rw [hsubstitute, String.toList_ofList]
    constructor
    · intro h
      exact h.unique hends
    · rintro ⟨rfl, rfl⟩
      exact hends
  · have hplain : ¬ HasPlaceholder template.toList := not_hasPlaceholder_of_not_mem hbrace
    refine ⟨?_, fun bindings => substitute_eq_self bindings hplain⟩
    cases parts with
    | plain rest _ => rfl
    | placeholder lead name hlead hname behind =>
      have hplaceholder := Parts.hasPlaceholder_text hlead hname behind
      rw [hparts] at hplaceholder
      exact absurd hplaceholder hplain
  · have hfill : parts.fill bindings.characters = parts.fill bindings'.characters := by
      apply Parts.fill_congr
      intro name hname
      rw [characters, characters, hsame name hname]
    rw [hsubstitute, hsubstitute, hfill]

/-- A name starts with a brace that opens, another is empty, and a third has a blank and a
    brace in it.  The last brace is not closed.  The texts that are put in hold placeholders
    themselves, but the variable that they name does not matter. -/
theorem substitute_eq_fill_nested :
    let template := "x\x7b\x7ba\x7d\x7d\x7b\x7d\x7bb \x7bd\x7de\x7df\x7bg"
    let bindings : Variables := NameMap.ofEntries
      [("\x7ba", "\x7bc\x7d"), ("b \x7bd", "\x7d"), ("c", "no")]
    ∃ parts : Parts, (∀ other : Parts, other.text = template.toList ↔ other = parts) ∧
      parts.names = ["\x7ba", "", "b \x7bd"].map String.toList ∧
      bindings.substitute template = "x\x7bc\x7d\x7d\x7de\x7df\x7bg" ∧
      Scan.Ends bindings.characters ⟨[], template.toList⟩ 3
        "x\x7bc\x7d\x7d\x7de\x7df\x7bg".toList ∧
      (∀ name ∈ parts.names, bindings.text (String.ofList name) =
        Variables.text (bindings.insert "c" "yes") (String.ofList name)) ∧
      bindings.substitute template = substitute (bindings.insert "c" "yes") template := by
  intro template bindings
  let parts : Parts :=
    .placeholder "x".toList "\x7ba".toList (by decide) (by decide) <|
      .placeholder "\x7d".toList "".toList (by decide) (by decide) <|
        .placeholder "".toList "b \x7bd".toList (by decide) (by decide) <|
          .plain "e\x7df\x7bg".toList (by decide +kernel)
  obtain ⟨parts', hunique, hsubstitute, hends, -, hcongr⟩ := substitute_eq_fill template
  have htext : parts.text = template.toList := by decide +kernel
  obtain rfl : parts = parts' := (hunique parts).mp htext
  have hresult : bindings.substitute template = "x\x7bc\x7d\x7d\x7de\x7df\x7bg" := by
    rw [hsubstitute]
    decide +kernel
  have hsame : ∀ name ∈ parts.names, bindings.text (String.ofList name) =
      Variables.text (bindings.insert "c" "yes") (String.ofList name) := by decide +kernel
  refine ⟨parts, hunique, rfl, hresult, (hends bindings 3 _).mpr ⟨rfl, ?_⟩, hsame,
    hcongr _ _ hsame⟩
  rw [hresult]

end Rulebook.Variables
