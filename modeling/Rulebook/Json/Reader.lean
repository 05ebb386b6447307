/-
  Rulebook.Json.Reader

  Reading JSON text strictly: no comments, no trailing commas, no leading zeros,
  no raw control characters in strings, no lone surrogates, and at most 127
  levels of arrays and objects.
-/
import Rulebook.Decimal.Reader
import Rulebook.Json.Basic

namespace Rulebook.Json

/-- Skip the four blank characters of JSON. -/
def skipSpace (s : List Char) : List Char :=
  s.dropWhile fun c => c = ' ' ∨ c = '\t' ∨ c = '\n' ∨ c = '\r'

/-! ## Strings -/

/-- The value of a hexadecimal digit. -/
def hexDigit? (c : Char) : Option Nat :=
  if '0' ≤ c ∧ c ≤ '9' then some (c.toNat - '0'.toNat)
  else if 'a' ≤ c ∧ c ≤ 'f' then some (c.toNat - 'a'.toNat + 10)
  else if 'A' ≤ c ∧ c ≤ 'F' then some (c.toNat - 'A'.toNat + 10)
  else none

/-- The number that four hexadecimal digits write, and what follows them. -/
def fourHex? : List Char → Option (Nat × List Char)
  | a :: b :: c :: d :: rest => do
    let a ← hexDigit? a
    let b ← hexDigit? b
    let c ← hexDigit? c
    let d ← hexDigit? d
    some (((a * 16 + b) * 16 + c) * 16 + d, rest)
  | _ => none

/-- The character that an escape with a code stands for.  A high surrogate needs a
    low one behind it, and a low one cannot come first. -/
def codeEscape? (s : List Char) : Option (Char × List Char) :=
  match fourHex? s with
  | none => none
  | some (high, rest) =>
    if high < 0xD800 ∨ 0xDFFF < high then some (Char.ofNat high, rest)
    else if 0xDC00 ≤ high then none
    else
      match rest with
      | '\\' :: 'u' :: more =>
        match fourHex? more with
        | none => none
        | some (low, rest) =>
          if 0xDC00 ≤ low ∧ low ≤ 0xDFFF then
            some (Char.ofNat (0x10000 + (high - 0xD800) * 0x400 + (low - 0xDC00)), rest)
          else none
      | _ => none

/-- The character that an escape stands for, given what follows the backslash. -/
def escape? : List Char → Option (Char × List Char)
  | '"' :: rest => some ('"', rest)
  | '\\' :: rest => some ('\\', rest)
  | '/' :: rest => some ('/', rest)
  | 'b' :: rest => some ('\x08', rest)
  | 'f' :: rest => some ('\x0c', rest)
  | 'n' :: rest => some ('\n', rest)
  | 'r' :: rest => some ('\r', rest)
  | 't' :: rest => some ('\t', rest)
  | 'u' :: rest => codeEscape? rest
  | _ => none

/-- Read a string up to its closing quote, with `done` (in reverse) what was read
    of it.  Each step reads a character or more, so `fuel` need not exceed the length. -/
def stringFrom : Nat → List Char → List Char → Option (String × List Char)
  | 0, _, _ => none
  | _ + 1, _, [] => none
  | fuel + 1, done, c :: rest =>
    if c = '"' then some (String.ofList done.reverse, rest)
    else if c = '\\' then
      match escape? rest with
      | some (e, rest) => stringFrom fuel (e :: done) rest
      | none => none
    else if c.toNat < 0x20 then none
    else stringFrom fuel (c :: done) rest

/-- Read a string behind its opening quote. -/
def readString (fuel : Nat) (s : List Char) : Option (String × List Char) := stringFrom fuel [] s

/-! ## Numbers -/

/-- The largest whole number that 64 bits hold. -/
def maxWord : Nat := Nat.pow 2 64 - 1

/-- The exponents beyond this are too large to be added up. -/
def maxExponent : Nat := Nat.pow 2 31 - 1

/-- `x * 10 ^ exponent`, rounded once for the power and once for the product.  A
    product beyond the range of doubles is refused, and one too small is zero. -/
def scaleFloat : Nat → Float → Int → Option Float
  | 0, _, _ => none
  | fuel + 1, x, exponent =>
    let power := Decimal.toFloat false 1 (exponent.natAbs : Int)
    if exponent.natAbs ≤ 308 then
      if 0 ≤ exponent then
        let y := x * power
        if y.isInf then none else some y
      else some (x / power)
    else if x == 0 then some x
    else if 0 ≤ exponent then none
    else scaleFloat fuel (x / Decimal.toFloat false 1 308) (exponent + 308)

/-- The double of a sign, the leading digits and an exponent.  After two steps of
    scaling down nothing is left of any number of 64 bits. -/
def assemble (negative : Bool) (digits : Nat) (exponent : Int) : Option Number :=
  (scaleFloat 4 (Decimal.toFloat false digits 0) exponent).map fun x =>
    .float (if negative then -x else x)

/-- Read the exponent behind its letter, for the given leading digits and the
    exponent that their place gives them. -/
def readExponent (negative : Bool) (digits : Nat) (place : Int) (s : List Char) :
    Option (Number × List Char) :=
  let (down, s) := Decimal.takeSign s
  let written := s.takeWhile Char.isDigit
  let rest := s.dropWhile Char.isDigit
  (Decimal.natural? written).bind fun n =>
    if maxExponent < n then
      if digits ≠ 0 ∧ !down then none
      else some (.float (if negative then -0.0 else 0.0), rest)
    else
      (assemble negative digits (if down then place - n else place + n)).map (·, rest)

/-- Read the end of a float: an exponent, if there is one. -/
def readFloatEnd (negative : Bool) (digits : Nat) (place : Int) (s : List Char) :
    Option (Number × List Char) :=
  match s with
  | c :: rest =>
    if c = 'e' ∨ c = 'E' then readExponent negative digits place rest
    else (assemble negative digits place).map (·, s)
  | [] => (assemble negative digits place).map (·, s)

/-- Add digits to a number while 64 bits hold it.  The result is the number, how
    many digits it took in, and the digits left over. -/
def absorb : Nat → List Char → Nat × Nat × List Char
  | n, [] => (n, 0, [])
  | n, c :: rest =>
    let n' := 10 * n + (c.toNat - '0'.toNat)
    if maxWord < n' then (n, 0, c :: rest)
    else
      let (m, count, left) := absorb n' rest
      (m, count + 1, left)

/-- Read the digits behind a point, of which those count that 64 bits hold together
    with the digits before it. -/
def readFraction (negative : Bool) (digits : Nat) (place : Int) (s : List Char) :
    Option (Number × List Char) :=
  let fraction := s.takeWhile Char.isDigit
  let rest := s.dropWhile Char.isDigit
  if fraction.isEmpty then none
  else
    let (digits, count, _) := absorb digits fraction
    readFloatEnd negative digits (place - count) rest

/-- Read a number behind its sign.  Digits that 64 bits do not hold only raise the
    exponent; a whole number that its sign does not let 64 bits hold is a float. -/
def readNumber (negative : Bool) (s : List Char) : Option (Number × List Char) :=
  let written := s.takeWhile Char.isDigit
  let rest := s.dropWhile Char.isDigit
  if written.isEmpty then none
  else if written.head? = some '0' ∧ written ≠ ['0'] then none
  else
    let (digits, _, left) := absorb 0 written
    let place : Int := left.length
    match rest with
    | '.' :: more => readFraction negative digits place more
    | c :: _ =>
      if c = 'e' ∨ c = 'E' ∨ !left.isEmpty then readFloatEnd negative digits place rest
      else some (whole digits, rest)
    | [] => if left.isEmpty then some (whole digits, []) else readFloatEnd negative digits place []
where
  /-- The number of digits without a point or an exponent. -/
  whole (digits : Nat) : Number :=
    if !negative then .integer digits
    else if digits = 0 ∨ Nat.pow 2 63 < digits then .float (-(Decimal.toFloat false digits 0))
    else .integer (-(digits : Int))

/-! ## Values -/

/-- How deep arrays and objects may nest. -/
def maxDepth : Nat := 127

/-- What is left of a text behind a word. -/
def afterWord (word : String) (s : List Char) : Option (List Char) :=
  if word.toList.isPrefixOf s then some (s.drop word.length) else none

mutual

/-- Read one value.  `depth` levels may still be opened. -/
def readValue : Nat → Nat → List Char → Option (Json × List Char)
  | 0, _, _ => none
  | fuel + 1, depth, s =>
    match skipSpace s with
    | '"' :: rest => (readString fuel rest).map fun (s, rest) => (.string s, rest)
    | '-' :: rest => (readNumber true rest).map fun (n, rest) => (.number n, rest)
    | '[' :: rest =>
      match depth with
      | 0 => none
      | depth + 1 =>
        match skipSpace rest with
        | ']' :: rest => some (.array [], rest)
        | _ => (readItems fuel depth rest).map fun (items, rest) => (.array items, rest)
    | '{' :: rest =>
      match depth with
      | 0 => none
      | depth + 1 =>
        match skipSpace rest with
        | '}' :: rest => some (.object [], rest)
        | _ =>
          (readMembers fuel depth rest).map fun (members, rest) =>
            (.ofMembers (NameMap.ofEntries members), rest)
    | 'n' :: rest => (afterWord "ull" rest).map (.null, ·)
    | 't' :: rest => (afterWord "rue" rest).map (.bool true, ·)
    | 'f' :: rest => (afterWord "alse" rest).map (.bool false, ·)
    | s => (readNumber false s).map fun (n, rest) => (.number n, rest)

/-- Read the items of an array, at least one, and its end. -/
def readItems : Nat → Nat → List Char → Option (List Json × List Char)
  | 0, _, _ => none
  | fuel + 1, depth, s =>
    (readValue fuel depth s).bind fun (item, rest) =>
      match skipSpace rest with
      | ',' :: rest => (readItems fuel depth rest).map fun (items, rest) => (item :: items, rest)
      | ']' :: rest => some ([item], rest)
      | _ => none

/-- Read the members of an object, at least one, and its end. -/
def readMembers : Nat → Nat → List Char → Option (List (String × Json) × List Char)
  | 0, _, _ => none
  | fuel + 1, depth, s =>
    match skipSpace s with
    | '"' :: rest =>
      (readString fuel rest).bind fun (name, rest) =>
        match skipSpace rest with
        | ':' :: rest =>
          (readValue fuel depth rest).bind fun (value, rest) =>
            match skipSpace rest with
            | ',' :: rest =>
              (readMembers fuel depth rest).map fun (members, rest) =>
                ((name, value) :: members, rest)
            | '}' :: rest => some ([(name, value)], rest)
            | _ => none
        | _ => none
    | _ => none

end

/-- The value that a text starts with, and what follows it.  Two calls read at
    least one character, which bounds their number: with `n` characters to come the
    fuel is more than `2 * n`, and so it lasts for each string as well. -/
def readFirst (s : List Char) : Option (Json × List Char) :=
  readValue (2 * s.length + 2) maxDepth s

/-- The value that a text consists of. -/
def read (text : String) : Option Json :=
  (readFirst text.toList).bind fun (value, rest) =>
    if (skipSpace rest).isEmpty then some value else none

end Rulebook.Json
