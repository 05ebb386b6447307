/-
  Rulebook.Proofs.Numerals

  Whole numbers in texts.  `Writes` says what a numeral is and which number it writes,
  without the way in which it is read.  Read digit after digit into 64 bits, where each step
  ends the reading if its result does not fit, a numeral gives this number, or nothing exactly
  if the number does not fit (`readChecked?_eq_some_iff`); what does not fit cannot come back
  into the range with the digits that follow.
-/
import Rulebook.Proofs.Words
import Rulebook.Value

namespace Rulebook

open Text (isBlank trimmed IsWord)

namespace Decimal

/-! ## Numerals -/

/-- One or more ASCII digits. -/
structure AllDigits (s : List Char) : Prop where
  ne_nil : s ≠ []
  isDigit : ∀ c ∈ s, c.isDigit = true

instance : DecidablePred AllDigits := fun s =>
  decidable_of_iff (s ≠ [] ∧ s.all Char.isDigit = true)
    ⟨fun h => ⟨h.1, List.all_eq_true.mp h.2⟩, fun h => ⟨h.ne_nil, List.all_eq_true.mpr h.isDigit⟩⟩

/-- A text that writes a whole number: one or more ASCII digits, as many zeros in front as may
    be, which one sign may precede. -/
inductive Writes : List Char → Int → Prop
  | unsigned {digits : List Char} (h : AllDigits digits) :
      Writes digits (Nat.ofDigitChars 10 digits 0)
  | plus {digits : List Char} (h : AllDigits digits) :
      Writes ('+' :: digits) (Nat.ofDigitChars 10 digits 0)
  | minus {digits : List Char} (h : AllDigits digits) :
      Writes ('-' :: digits) (-(Nat.ofDigitChars 10 digits 0 : Int))

theorem digit?_eq_some_iff {c : Char} {d : Nat} :
    digit? c = some d ↔ c.isDigit = true ∧ d = c.toNat - '0'.toNat := by
  have hdigit : c.isDigit = true ↔ '0' ≤ c ∧ c ≤ '9' := by
    rw [Char.isDigit_iff_toNat]
    rfl
  rw [digit?, hdigit]
  split
  · next h => rw [Option.some.injEq, and_iff_right h, eq_comm]
  · next h =>
    constructor
    · intro hnone
      cases hnone
    · rintro ⟨hdigit, -⟩
      exact absurd hdigit h

/-- A digit is no sign. -/
theorem takeSign_of_allDigits {s : List Char} (h : AllDigits s) : takeSign s = (false, s) := by
  unfold takeSign
  split
  · next rest =>
    have hsign := h.isDigit '-' List.mem_cons_self
    exact absurd hsign (by decide)
  · next rest =>
    have hsign := h.isDigit '+' List.mem_cons_self
    exact absurd hsign (by decide)
  · rfl

/-- A text starts with a sign, or has none and is left as it is. -/
theorem takeSign_cases (s : List Char) :
    (∃ rest, s = '-' :: rest ∧ takeSign s = (true, rest)) ∨
    (∃ rest, s = '+' :: rest ∧ takeSign s = (false, rest)) ∨ takeSign s = (false, s) := by
  unfold takeSign
  split
  · next rest => exact .inl ⟨rest, rfl, rfl⟩
  · next rest => exact .inr (.inl ⟨rest, rfl, rfl⟩)
  · exact .inr (.inr rfl)

/-- The number that a text writes is that of the digits behind its sign. -/
theorem writes_iff {s : List Char} {n : Int} :
    Writes s n ↔ AllDigits (takeSign s).2 ∧
      n = signed (takeSign s).1 (Nat.ofDigitChars 10 (takeSign s).2 0) := by
  constructor
  · rintro (h | h | h)
    · simp [takeSign_of_allDigits h, h, signed]
    · simp [takeSign, h, signed]
    · simp [takeSign, h, signed]
  · rintro ⟨hdigits, rfl⟩
    rcases takeSign_cases s with ⟨rest, rfl, hsign⟩ | ⟨rest, rfl, hsign⟩ | hsign
    · rw [hsign] at hdigits ⊢
      exact .minus hdigits
    · rw [hsign] at hdigits ⊢
      exact .plus hdigits
    · rw [hsign] at hdigits ⊢
      exact .unsigned hdigits

theorem Writes.unique {s : List Char} {m n : Int} (hm : Writes s m) (hn : Writes s n) : m = n :=
  (writes_iff.mp hm).2.trans (writes_iff.mp hn).2.symm

/-- No digit is a blank. -/
theorem isBlank_of_isDigit {c : Char} (h : c.isDigit = true) : isBlank c = false := by
  obtain ⟨hleast, hgreatest⟩ := Char.isDigit_iff_toNat.mp h
  have hzero : '0'.toNat = 48 := rfl
  have hnine : '9'.toNat = 57 := rfl
  simp only [isBlank, Text.blankCodes, List.contains_eq_mem, List.mem_cons, List.not_mem_nil,
    or_false, decide_eq_false_iff_not]
  omega

theorem AllDigits.isWord {s : List Char} (h : AllDigits s) : IsWord s :=
  ⟨h.ne_nil, fun c hc => isBlank_of_isDigit (h.isDigit c hc)⟩

/-- There is no blank within a numeral. -/
theorem Writes.isWord {s : List Char} {n : Int} (h : Writes s n) : IsWord s := by
  cases h with
  | unsigned h => exact h.isWord
  | plus h => exact ⟨List.cons_ne_nil _ _, List.forall_mem_cons.mpr ⟨by decide, h.isWord.2⟩⟩
  | minus h => exact ⟨List.cons_ne_nil _ _, List.forall_mem_cons.mpr ⟨by decide, h.isWord.2⟩⟩

theorem allDigits_toDigits (n : Nat) : AllDigits (Nat.toDigits 10 n) :=
  ⟨Nat.toDigits_ne_nil, fun _ hc => Nat.isDigit_of_mem_toDigits (by decide) (by decide) hc⟩

/-- The text of a number writes it. -/
theorem writes_toString (n : Int) : Writes (toString n).toList n := by
  rw [Int.toString_eq_repr, Int.repr_eq_if]
  split
  · next hn =>
    have hwrites := Writes.unsigned (allDigits_toDigits n.toNat)
    rw [Nat.ofDigitChars_ten_toDigits, Int.toNat_of_nonneg hn] at hwrites
    rwa [Nat.toList_repr]
  · next hn =>
    have hwrites := Writes.minus (allDigits_toDigits (-n).toNat)
    rw [Nat.ofDigitChars_ten_toDigits, Int.toNat_of_nonneg (by omega), Int.neg_neg] at hwrites
    rw [String.toList_append, Nat.toList_repr]
    exact hwrites

/-! ## Numerals between blanks -/

/-- A text writes a number, with blanks around the numeral if there are any. -/
def Denotes (text : String) (n : Int) : Prop :=
  ∃ lead numeral trail, text.toList = lead ++ numeral ++ trail ∧
    (∀ c ∈ lead, isBlank c = true) ∧ (∀ c ∈ trail, isBlank c = true) ∧ Writes numeral n

theorem denotes_iff {text : String} {n : Int} :
    Denotes text n ↔ Writes (trimmed text.toList) n := by
  constructor
  · rintro ⟨lead, numeral, trail, htext, hlead, htrail, hwrites⟩
    rwa [htext, Text.trimmed_append hlead htrail hwrites.isWord]
  · intro hwrites
    obtain ⟨lead, trail, hlead, htrail, htext⟩ := Text.exists_trimmed text.toList
    exact ⟨lead, _, trail, htext, hlead, htrail, hwrites⟩

theorem Denotes.unique {text : String} {m n : Int} (hm : Denotes text m) (hn : Denotes text n) :
    m = n :=
  (denotes_iff.mp hm).unique (denotes_iff.mp hn)

theorem denotes_toString (n : Int) : Denotes (toString n) n :=
  ⟨[], _, [], (List.append_nil _).symm, by simp, by simp, writes_toString n⟩

/-! ## Numbers of 64 and 32 bits -/

/-- A number fits into 64 bits exactly if there is an integer of 64 bits that is this number. -/
theorem int64?_eq_some_iff {n : Int} {v : Int64} : int64? n = some v ↔ v.toInt = n := by
  have hleast : -2 ^ 63 ≤ v.toInt := Int64.le_toInt v
  have hbeyond : v.toInt < 2 ^ 63 := Int64.toInt_lt v
  rw [int64?, Int64.toInt_minValue, Int64.toInt_maxValue]
  split
  · next hn =>
    have hfits : (Int64.ofInt n).toInt = n := Int64.toInt_ofInt_of_le hn.1 (by omega)
    constructor
    · rintro ⟨⟩
      exact hfits
    · rintro rfl
      rw [Int64.ofInt_toInt]
  · next hn =>
    constructor
    · intro hnone
      cases hnone
    · rintro rfl
      exact absurd ⟨hleast, by omega⟩ hn

/-! ## Reading into 64 bits -/

theorem le_ofDigitChars (digits : List Char) (n : Nat) : n ≤ Nat.ofDigitChars 10 digits n := by
  induction digits generalizing n with
  | nil => exact Nat.le_refl n
  | cons c digits ih =>
    rw [Nat.ofDigitChars_cons]
    exact Nat.le_trans (by omega) (ih _)

/-- If a number fits into 64 bits, so does each of the same sign that is no larger. -/
theorem exists_int64_of_le {negative : Bool} {m n : Nat} (hle : m ≤ n) {v : Int64}
    (hv : v.toInt = signed negative n) : ∃ w : Int64, w.toInt = signed negative m := by
  have hleast : -2 ^ 63 ≤ v.toInt := Int64.le_toInt v
  have hbeyond : v.toInt < 2 ^ 63 := Int64.toInt_lt v
  refine ⟨Int64.ofInt (signed negative m), Int64.toInt_ofInt_of_le ?_ ?_⟩
  all_goals
    cases negative
    · simp only [signed, Bool.false_eq_true, if_false] at hv ⊢
      omega
    · simp only [signed, if_true] at hv ⊢
      omega

/-- Digits are read into 64 bits exactly if the number that they make up behind the first one
    fits, and as this number. -/
theorem readDigits?_eq_some_iff {negative : Bool} {digits : List Char} {n v : Int64} {m : Nat}
    (hn : n.toInt = signed negative m) :
    readDigits? negative n digits = some v ↔
      (∀ c ∈ digits, c.isDigit = true) ∧
        v.toInt = signed negative (Nat.ofDigitChars 10 digits m) := by
  induction digits generalizing n m with
  | nil =>
    rw [readDigits?, Nat.ofDigitChars_nil, ← hn, Option.some.injEq, Int64.toInt_inj,
      and_iff_right (List.forall_mem_nil _), eq_comm]
  | cons c rest ih =>
    have htenfold : 10 * n.toInt = signed negative (10 * m) := by
      rw [hn, signed, signed]
      split <;> omega
    have hnext (d : Nat) :
        signed negative (10 * m) + signed negative d = signed negative (10 * m + d) := by
      simp only [signed]
      split <;> omega
    simp only [readDigits?, Option.bind_eq_some_iff, digit?_eq_some_iff, int64?_eq_some_iff,
      List.forall_mem_cons, Nat.ofDigitChars_cons]
    constructor
    · rintro ⟨d, ⟨hc, rfl⟩, tenfold, hmul, next, hadd, hread⟩
      rw [hmul, htenfold, hnext] at hadd
      obtain ⟨hrest, hv⟩ := (ih hadd).mp hread
      exact ⟨⟨hc, hrest⟩, hv⟩
    · -- what is read on the way is no larger than the number in the end
      rintro ⟨⟨hc, hrest⟩, hv⟩
      have hlast := le_ofDigitChars rest (10 * m + (c.toNat - '0'.toNat))
      obtain ⟨tenfold, hmul⟩ :=
        exists_int64_of_le (Nat.le_trans (Nat.le_add_right _ _) hlast) hv
      obtain ⟨next, hadd⟩ := exists_int64_of_le hlast hv
      refine ⟨_, ⟨hc, rfl⟩, tenfold, hmul.trans htenfold.symm, next, ?_, (ih hadd).mpr ⟨hrest, hv⟩⟩
      rw [hmul, hnext, hadd]

/-- A text is read into 64 bits exactly if it writes a number that fits, and as this number. -/
theorem readChecked?_eq_some_iff {s : List Char} {v : Int64} :
    readChecked? s = some v ↔ Writes s v.toInt := by
  have hzero : (0 : Int64).toInt = signed (takeSign s).1 0 := by
    cases (takeSign s).1 <;> rfl
  rw [readChecked?, writes_iff]
  split
  · next hempty =>
    constructor
    · intro h
      cases h
    · rintro ⟨hdigits, -⟩
      exact absurd (List.isEmpty_iff.mp hempty) hdigits.ne_nil
  · next hne =>
    rw [readDigits?_eq_some_iff hzero]
    constructor
    · rintro ⟨hdigits, hv⟩
      exact ⟨⟨fun hnil => hne (List.isEmpty_iff.mpr hnil), hdigits⟩, hv⟩
    · rintro ⟨hdigits, hv⟩
      exact ⟨hdigits.isDigit, hv⟩

end Decimal

/-- A number fits into 32 bits exactly if there is an integer of 32 bits that is this number. -/
theorem int32?_eq_some_iff {n : Int} {v : Int32} : int32? n = some v ↔ v.toInt = n := by
  have hleast : -2 ^ 31 ≤ v.toInt := Int32.le_toInt v
  have hbeyond : v.toInt < 2 ^ 31 := Int32.toInt_lt v
  rw [int32?, Int32.toInt_minValue, Int32.toInt_maxValue]
  split
  · next hn =>
    have hfits : (Int32.ofInt n).toInt = n := Int32.toInt_ofInt_of_le hn.1 (by omega)
    constructor
    · rintro ⟨⟩
      exact hfits
    · rintro rfl
      rw [Int32.ofInt_toInt]
  · next hn =>
    constructor
    · intro hnone
      cases hnone
    · rintro rfl
      exact absurd ⟨hleast, by omega⟩ hn

end Rulebook
