/-
  Rulebook.Proofs.IntegerFields

  Fields that hold integers.  A text is accepted exactly if it is a numeral, with blanks
  around it if there are any, whose number the type of the field holds; then the setter of the
  field is given just this number.  Any other text is refused with an error that has the text
  as it was given, and the settings stay as they are (`assign_integer`).  No number is cut down
  to the 64 bits in which it is kept.  An integer is read back from its own text.
-/
import Rulebook.Kind.Custom
import Rulebook.Proofs.Numerals
import Rulebook.Proofs.Outcomes

namespace Rulebook

open Decimal (Denotes denotes_iff denotes_toString writes_iff)

/-! ## Integers from texts -/

namespace FieldKind

/-- The values of an integer field are the numbers of 64 bits that a text denotes. -/
theorem coerce_integer_eq_some_iff {text : String} {value : Value} :
    integer.coerce text = some value ↔
      ∃ v : Int64, Denotes text v.toInt ∧ value = .integer v := by
  rw [coerce, Option.map_eq_some_iff]
  simp only [denotes_iff, Decimal.readChecked?_eq_some_iff, eq_comm (a := value)]

/-- The text of an integer is read back as it. -/
theorem coerce_text_integer (v : Int64) :
    integer.coerce (Value.integer v).text = some (.integer v) :=
  coerce_integer_eq_some_iff.mpr ⟨v, denotes_toString v.toInt, rfl⟩

end FieldKind

/-! ## Integers that a type holds -/

namespace FieldType

/-- The integers that a type holds. -/
def Holds : FieldType → Int → Prop
  | int64, n => -9223372036854775808 ≤ n ∧ n ≤ 9223372036854775807
  | int32, n => -2147483648 ≤ n ∧ n ≤ 2147483647
  | _, _ => False

/-- Whatever a type holds fits into 64 bits. -/
theorem Holds.exists_int64 {type : FieldType} {n : Int} (h : type.Holds n) :
    ∃ v : Int64, v.toInt = n := by
  cases type with
  | int64 =>
    obtain ⟨hleast, hgreatest⟩ := h
    exact ⟨Int64.ofInt n, Int64.toInt_ofInt_of_le hleast (by omega)⟩
  | int32 =>
    obtain ⟨hleast, hgreatest⟩ := h
    exact ⟨Int64.ofInt n, Int64.toInt_ofInt_of_le (by omega) (by omega)⟩
  | _ => exact h.elim

/-- The integer that a declared type makes of a value. -/
def number? : FieldType → Value → Option Int
  | int64, value => value.integer?.map Int64.toInt
  | int32, value => value.smallInteger?.map Int32.toInt
  | _, _ => none

/-- A type of integers makes the same integer of one that it holds, and nothing of others. -/
theorem number?_integer_eq_some_iff {type : FieldType} (htype : type.kind = .integer) {v : Int64}
    {n : Int} : type.number? (.integer v) = some n ↔ type.Holds v.toInt ∧ n = v.toInt := by
  cases type with
  | int64 =>
    have hleast : -2 ^ 63 ≤ v.toInt := Int64.le_toInt v
    have hbeyond : v.toInt < 2 ^ 63 := Int64.toInt_lt v
    have hholds : int64.Holds v.toInt := ⟨hleast, by omega⟩
    simp [number?, Value.integer?, hholds, eq_comm]
  | int32 =>
    simp only [number?, Value.smallInteger?, Value.integer?, Option.bind_some,
      Option.map_eq_some_iff, int32?_eq_some_iff]
    constructor
    · rintro ⟨w, hw, rfl⟩
      have hleast : -2 ^ 31 ≤ w.toInt := Int32.le_toInt w
      have hbeyond : w.toInt < 2 ^ 31 := Int32.toInt_lt w
      rw [hw] at hleast hbeyond ⊢
      exact ⟨⟨hleast, by omega⟩, rfl⟩
    · rintro ⟨⟨hleast, hgreatest⟩, rfl⟩
      have hfits : (Int32.ofInt v.toInt).toInt = v.toInt :=
        Int32.toInt_ofInt_of_le hleast (by omega)
      exact ⟨Int32.ofInt v.toInt, hfits, hfits⟩
  | _ => cases htype

/-- What is stored of a value of such a type is the text of the integer. -/
theorem store_eq_number? {type : FieldType} (htype : type.kind = .integer) (value : Value) :
    type.store value = (type.number? value).map toString := by
  cases type with
  | int64 | int32 => simp [store, number?, Function.comp_def]
  | _ => cases htype

end FieldType

/-! ## Assigning to an integer field -/

/-- A setter that is declared for a type of integers: it is given the integer that the type makes
    of a value, if it makes one, and does something with it. -/
structure Plugins.Takes [Plugins] {concrete : String} (setter : Setter concrete)
    (type : FieldType) (put : Int → State concrete → State concrete) : Prop where
  kind_eq : kind setter = type.kind
  set?_eq : ∀ value, set? setter value = (type.number? value).map put

namespace RuleKind

section IntegerField

variable [Plugins] {kind : RuleKind} {name text concrete : String} {field : Field}
  {setter : Plugins.Setter concrete} {type : FieldType}
  {put : Int → Plugins.State concrete → Plugins.State concrete}
  (hfield : kind.field? name = some field) (hslot : field.slot = .custom setter)
  (htype : type.kind = .integer) (hsetter : Plugins.Takes setter type put)
  (state : Plugins.State concrete)

include hslot hsetter

theorem write_of_integer (value : Value) :
    field.slot.write value (.custom ⟨concrete, state⟩) =
      .ofPart (fun n => .custom ⟨concrete, put n state⟩) (type.number? value) := by
  rw [hslot, Slot.write_custom, hsetter.set?_eq]
  cases type.number? value <;> rfl

include htype

theorem kind_of_integer : field.kind = .integer := by
  rw [Field.kind, hslot]
  exact hsetter.kind_eq.trans htype

include hfield

/-- A number that the type holds is given to the setter. -/
theorem assign_of_denotes {n : Int} (hn : Denotes text n) (hholds : type.Holds n) :
    kind.assign (.custom ⟨concrete, state⟩) name text =
      .ok (some (.custom ⟨concrete, put n state⟩)) := by
  obtain ⟨v, rfl⟩ := hholds.exists_int64
  have hcoerce : FieldKind.integer.coerce text = some (.integer v) :=
    FieldKind.coerce_integer_eq_some_iff.mpr ⟨v, hn, rfl⟩
  have hnumber : type.number? (.integer v) = some v.toInt :=
    (FieldType.number?_integer_eq_some_iff htype).mpr ⟨hholds, rfl⟩
  have hwrite := write_of_integer hslot hsetter state (.integer v)
  rw [hnumber] at hwrite
  simp only [assign, hfield, kind_of_integer hslot htype hsetter, hcoerce, hwrite, Written.ofPart]

/-- A text that denotes no number which the type holds is refused. -/
theorem assign_of_not_denotes (hnone : ¬ ∃ n, Denotes text n ∧ type.Holds n) :
    kind.assign (.custom ⟨concrete, state⟩) name text = .error ⟨name, text, .integer⟩ := by
  have hkind : field.kind = .integer := kind_of_integer hslot htype hsetter
  cases hcoerce : FieldKind.integer.coerce text with
  | none => simp only [assign, hfield, hkind, hcoerce]
  | some value =>
    -- a number of 64 bits that the type does not hold
    obtain ⟨v, hv, rfl⟩ := FieldKind.coerce_integer_eq_some_iff.mp hcoerce
    have hnumber : type.number? (.integer v) = none := by
      rw [Option.eq_none_iff_forall_ne_some]
      intro n hn
      exact hnone ⟨_, hv, ((FieldType.number?_integer_eq_some_iff htype).mp hn).1⟩
    have hwrite := write_of_integer hslot hsetter state (.integer v)
    rw [hnumber] at hwrite
    simp only [assign, hfield, hkind, hcoerce, hwrite, Written.ofPart]

/-- Assigning a text to an integer field is exact.  It succeeds exactly if the text denotes an
    integer that the type of the field holds, and gives the setter this integer and nothing
    else.  Any other text gives an error with the field, the text as it is and the kind of the
    field, and leaves the settings as they are.  What is read has each step checked, and the
    text of each integer is read back as the integer. -/
theorem assign_integer (text : String) :
    (∀ settings, kind.assign (.custom ⟨concrete, state⟩) name text = .ok (some settings) ↔
      ∃ n, Denotes text n ∧ type.Holds n ∧ settings = .custom ⟨concrete, put n state⟩) ∧
    (∀ e, kind.assign (.custom ⟨concrete, state⟩) name text = .error e ↔
      (¬ ∃ n, Denotes text n ∧ type.Holds n) ∧ e = ⟨name, text, .integer⟩) ∧
    kind.assign (.custom ⟨concrete, state⟩) name text ≠ .ok none ∧
    ((¬ ∃ n, Denotes text n ∧ type.Holds n) →
      kind.update (.custom ⟨concrete, state⟩) name text = .custom ⟨concrete, state⟩) ∧
    FieldKind.integer.coerce text =
      (Decimal.readChecked? (Text.trimmed text.toList)).map .integer ∧
    ∀ v : Int64, FieldKind.integer.coerce (Value.integer v).text = some (.integer v) := by
  by_cases hn : ∃ n, Denotes text n ∧ type.Holds n
  · obtain ⟨n, hdenotes, hholds⟩ := hn
    have hassign := assign_of_denotes hfield hslot htype hsetter state hdenotes hholds
    have hexists : ∃ n, Denotes text n ∧ type.Holds n := ⟨n, hdenotes, hholds⟩
    refine ⟨fun settings => ?_, fun e => ?_, ?_, fun hnone => absurd hexists hnone,
      rfl, FieldKind.coerce_text_integer⟩
    · rw [hassign, Except.ok.injEq, Option.some.injEq]
      constructor
      · rintro rfl
        exact ⟨n, hdenotes, hholds, rfl⟩
      · rintro ⟨m, hm, -, rfl⟩
        rw [hm.unique hdenotes]
    · rw [hassign]
      simp [hexists]
    · rw [hassign]
      simp
  · have hassign := assign_of_not_denotes hfield hslot htype hsetter state hn
    refine ⟨fun settings => ?_, fun e => ?_, ?_, fun _ => ?_,
      rfl, FieldKind.coerce_text_integer⟩
    · rw [hassign]
      constructor
      · intro h
        cases h
      · rintro ⟨n, hdenotes, hholds, -⟩
        exact absurd ⟨n, hdenotes, hholds⟩ hn
    · rw [hassign, Except.error.injEq, and_iff_right hn, eq_comm]
    · rw [hassign]
      simp
    · rw [update, hassign]

end IntegerField

/-- A custom kind stores the text of the integer under the name of the field. -/
theorem takes_stored (concrete name : String) {type : FieldType} (htype : type.kind = .integer) :
    @Plugins.Takes storedPlugins concrete ⟨name, type⟩ type
      fun n texts => Std.ExtTreeMap.insert texts name (toString n) where
  kind_eq := rfl
  set?_eq value := by
    simp only [Plugins.set?, FieldType.store_eq_number? htype, Option.map_map]
    rfl

/-- The least number of 64 bits, with zeros and blanks in front, is stored as it is; a number
    that is too large by one for 32 bits is refused. -/
theorem assign_integer_bounds :
    let kind := custom "scan" none
      [{ name := "count", type := .int64 }, { name := "port", type := .int32 }]
    kind.assign (.stored ∅) "count" "  -0009223372036854775808" =
        .ok (some (.stored (Std.ExtTreeMap.insert ∅ "count" "-9223372036854775808"))) ∧
      kind.assign (.stored ∅) "port" "+2147483648" =
        .error ⟨"port", "+2147483648", .integer⟩ := by
  intro kind
  have hcount : Denotes "  -0009223372036854775808" (-9223372036854775808) :=
    denotes_iff.mpr (writes_iff.mpr (by decide +kernel))
  have hport : Denotes "+2147483648" 2147483648 :=
    denotes_iff.mpr (writes_iff.mpr (by decide +kernel))
  have hbeyond : ¬ ∃ n, Denotes "+2147483648" n ∧ FieldType.int32.Holds n := by
    rintro ⟨n, hn, -, hgreatest⟩
    rw [hn.unique hport] at hgreatest
    exact absurd hgreatest (by decide)
  have hcountField : kind.field? "count" =
      some (CustomField.toField { name := "count", type := .int64 }) := rfl
  have hportField : kind.field? "port" =
      some (CustomField.toField { name := "port", type := .int32 }) := rfl
  have hstored := assign_integer hcountField rfl rfl (takes_stored storedType "count" rfl)
    (∅ : NameMap String) "  -0009223372036854775808"
  have hrefused := assign_integer hportField rfl rfl (takes_stored storedType "port" rfl)
    (∅ : NameMap String) "+2147483648"
  exact ⟨(hstored.1 _).mpr ⟨_, hcount, ⟨by decide, by decide⟩, by rfl⟩,
    (hrefused.2.1 _).mpr ⟨hbeyond, rfl⟩⟩

end RuleKind

end Rulebook
