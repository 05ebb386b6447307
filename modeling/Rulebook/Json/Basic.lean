/-
  Rulebook.Json.Basic

  JSON values.  An object is the list of its members; what it means is the map
  of their names, in which the last of several members with one name counts.
-/
import Rulebook.Decimal.Layout
import Rulebook.NameMap

namespace Rulebook

/-- A JSON number: a whole number that 64 bits hold, or a double. -/
inductive Json.Number
  | integer (n : Int)
  | float (x : Float)

/-- A JSON value. -/
inductive Json
  | null
  | bool (b : Bool)
  | number (n : Json.Number)
  | string (s : String)
  | array (items : List Json)
  | object (members : List (String × Json))
  deriving Inhabited

namespace Json

/-! ## Numbers as text -/

namespace Number

/-- Floats keep at least one decimal, and have an exponent when they are below
    `1e-5` or not below `1e16`. -/
def floatLayout : Decimal.Layout := ⟨.toEven, some (-5, 16), true⟩

/-- The text of a number. -/
def text : Number → String
  | integer n => toString n
  | float x => floatLayout.render x

end Number

/-! ## Objects -/

/-- The members of an object by name. -/
abbrev Members := NameMap Json

/-- The object with the given members, in the order of their names. -/
def ofMembers (members : Members) : Json := object members.toList

/-- What a value is, as error texts call it. -/
def description : Json → String
  | null => "null"
  | bool _ => "a boolean"
  | number _ => "a number"
  | string _ => "a string"
  | array _ => "an array"
  | object _ => "an object"

end Json

end Rulebook
