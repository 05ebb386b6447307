/-
  Rulebook.Value

  Typed field values and how the text of a field becomes one.
-/
import Rulebook.Decimal.Layout
import Rulebook.Decimal.Reader
import Rulebook.Text.Blank

namespace Rulebook

/-! ## Kinds of fields -/

/-- The declared kind of a field. -/
inductive FieldKind
  | string
  | integer
  | float
  | boolean
  deriving DecidableEq, Repr

namespace FieldKind

/-- The name of a kind of field. -/
def text : FieldKind → String
  | string => "string"
  | integer => "integer"
  | float => "float"
  | boolean => "boolean"

end FieldKind

/-! ## Values -/

/-- A typed field value. -/
inductive Value
  | string (text : String)
  | integer (n : Int64)
  | float (x : Float)
  | boolean (b : Bool)

/-- A text in which every slash is a backslash, the one separator of string values. -/
def separatorsUnified (text : String) : String :=
  String.ofList (text.toList.map fun c => if c = '/' then '\\' else c)

/-- The text of a truth value. -/
def truthText (b : Bool) : String := if b then "true" else "false"

/-- The truth value that a text writes, in any mix of cases. -/
def truth? (s : List Char) : Option Bool :=
  if Decimal.isWord "true" s then some true
  else if Decimal.isWord "false" s then some false
  else none

namespace Value

/-- The kind of a value. -/
def kind : Value → FieldKind
  | string _ => .string
  | integer _ => .integer
  | float _ => .float
  | boolean _ => .boolean

/-- Floats are written without an exponent and whole ones without a point; of two
    equally short decimals the one away from zero is written. -/
def floatLayout : Decimal.Layout := ⟨.up, none, false⟩

/-- The text of a value: strings stand between double quotes. -/
def text : Value → String
  | string s => "\"" ++ s ++ "\""
  | integer n => toString n.toInt
  | float x => floatLayout.render x
  | boolean b => truthText b

end Value

/-! ## From text to value -/

/-- An integer that a 32-bit field can hold. -/
def int32? (n : Int) : Option Int32 :=
  if Int32.minValue.toInt ≤ n ∧ n ≤ Int32.maxValue.toInt then some (Int32.ofInt n) else none

namespace FieldKind

/-- The value that a text has as a field of this kind.  All kinds but strings
    allow blanks around it. -/
def coerce : FieldKind → String → Option Value
  | string, text => some (.string (separatorsUnified text))
  | integer, text => (Decimal.readChecked? (Text.trimmed text.toList)).map .integer
  | float, text => (Decimal.float? (Text.trimmed text.toList)).map .float
  | boolean, text => (truth? (Text.trimmed text.toList)).map .boolean

end FieldKind

/-! ## From value to what a field holds -/

namespace Value

/-- The text of a string value. -/
def string? : Value → Option String
  | string s => some s
  | _ => none

/-- The number of an integer value. -/
def integer? : Value → Option Int64
  | integer n => some n
  | _ => none

/-- The number of an integer value, if 32 bits hold it. -/
def smallInteger? (v : Value) : Option Int32 := v.integer?.bind fun n => int32? n.toInt

/-- The number of a float value. -/
def float? : Value → Option Float
  | float x => some x
  | _ => none

/-- The truth value of a boolean value. -/
def boolean? : Value → Option Bool
  | boolean b => some b
  | _ => none

end Value

/-- What a field of a custom kind holds. -/
inductive FieldType
  | text
  | optionalText
  | int64
  | int32
  | float
  | boolean
  deriving DecidableEq, Repr

namespace FieldType

/-- The kind of field that holds values of a type. -/
def kind : FieldType → FieldKind
  | text | optionalText => .string
  | int64 | int32 => .integer
  | float => .float
  | boolean => .boolean

/-- The text that is stored for a value; nothing if the type does not hold it. -/
def store : FieldType → Value → Option String
  | text, v | optionalText, v => v.string?
  | int64, v => v.integer?.map fun n => toString n.toInt
  | int32, v => v.smallInteger?.map fun n => toString n.toInt
  | float, v => v.float?.map Value.floatLayout.render
  | boolean, v => v.boolean?.map truthText

end FieldType

end Rulebook
