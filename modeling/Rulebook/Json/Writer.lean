/-
  Rulebook.Json.Writer

  Writing JSON values on one line, without blanks.
-/
import Rulebook.Json.Basic

namespace Rulebook.Json

/-- The hexadecimal digits of the low four digits of a code. -/
def fourHex (code : Nat) : List Char :=
  [12, 8, 4, 0].map fun shift => Nat.digitChar ((code >>> shift) % 16)

/-- A character as it stands in a string. -/
def escaped (c : Char) : List Char :=
  if c = '"' then ['\\', '"']
  else if c = '\\' then ['\\', '\\']
  else if c = '\n' then ['\\', 'n']
  else if c.toNat < 0x20 then ['\\', 'u'] ++ fourHex c.toNat
  else [c]

/-- The text of a string. -/
def writeString (s : String) : String :=
  "\"" ++ String.ofList (s.toList.flatMap escaped) ++ "\""

mutual

/-- The text of a value. -/
def write : Json → String
  | null => "null"
  | bool b => if b then "true" else "false"
  | number n => n.text
  | string s => writeString s
  | array items => "[" ++ ",".intercalate (writeItems items) ++ "]"
  | object members => "\x7b" ++ ",".intercalate (writeMembers members) ++ "\x7d"

/-- The texts of the items of an array. -/
def writeItems : List Json → List String
  | [] => []
  | item :: rest => write item :: writeItems rest

/-- The texts of the members of an object. -/
def writeMembers : List (String × Json) → List String
  | [] => []
  | (name, value) :: rest => (writeString name ++ ":" ++ write value) :: writeMembers rest

end

end Rulebook.Json
