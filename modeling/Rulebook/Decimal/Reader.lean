/-
  Rulebook.Decimal.Reader

  Reading numbers: whole numbers as integers of 64 bits, and decimal literals as the
  double nearest to them.
-/
import Rulebook.Decimal.Binary64
import Rulebook.Digits

namespace Rulebook.Decimal

/-! ## Digits and signs -/

/-- The value of an ASCII digit. -/
def digit? (c : Char) : Option Nat :=
  if '0' ≤ c ∧ c ≤ '9' then some (c.toNat - '0'.toNat) else none

/-- The number written by a list of digits that is not empty; nothing if another
    character is among them. -/
def natural? (s : List Char) : Option Nat :=
  if s.isEmpty then none else (s.mapM digit?).map fun digits => ofDigits 10 digits.reverse

/-- Whether a text starts with a minus sign, and what follows its sign, if any. -/
def takeSign : List Char → Bool × List Char
  | '-' :: rest => (true, rest)
  | '+' :: rest => (false, rest)
  | s => (false, s)

/-! ## Numbers of 64 bits -/

/-- A number with the sign of a numeral. -/
def signed (negative : Bool) (n : Nat) : Int := if negative then -(n : Int) else n

/-- An integer that 64 bits hold. -/
def int64? (n : Int) : Option Int64 :=
  if Int64.minValue.toInt ≤ n ∧ n ≤ Int64.maxValue.toInt then some (Int64.ofInt n) else none

/-- Read digits behind a number into 64 bits.  Digits behind a minus sign are taken away, and
    each product and each sum that does not fit ends the reading. -/
def readDigits? (negative : Bool) : Int64 → List Char → Option Int64
  | n, [] => some n
  | n, c :: rest =>
    (digit? c).bind fun digit =>
      (int64? (10 * n.toInt)).bind fun tenfold =>
        (int64? (tenfold.toInt + signed negative digit)).bind fun next =>
          readDigits? negative next rest

/-- The whole number that a text writes, if 64 bits hold it: digits that one sign may precede,
    read one after the other. -/
def readChecked? (s : List Char) : Option Int64 :=
  if (takeSign s).2.isEmpty then none else readDigits? (takeSign s).1 0 (takeSign s).2

/-! ## Decimal literals -/

/-- The double nearest to `digits * 10 ^ exponent`, negated if asked.  Numbers
    that are far beyond the range of doubles are cut off before scaling. -/
def toFloat (negative : Bool) (digits : Nat) (exponent : Int) : Float :=
  let magnitude : Int := digits.log2 * 30103 / 100000 + exponent
  floatOfBits negative <|
    if digits = 0 ∨ magnitude < -400 then 0
    else if 400 < magnitude then Binary64.infinityBits
    else
      match exponent with
      | .ofNat k => nearestBits (digits * Nat.pow 10 k) 1
      | .negSucc k => nearestBits digits (Nat.pow 10 (k + 1))

/-- How large an exponent may get before the digits that follow count for nothing. -/
def exponentLimit : Nat := Nat.pow 2 16

/-- The number of an exponent with the given digits. -/
def exponentOf (digits : List Nat) : Nat :=
  digits.foldl (fun n d => if n < exponentLimit then 10 * n + d else n) 0

/-- The exponent that a text writes behind the digits of a literal: nothing, or
    an `e` of either case and digits that one sign may precede. -/
def exponent? : List Char → Option Int
  | [] => some 0
  | c :: rest =>
    let (negative, digits) := takeSign rest
    if (c = 'e' ∨ c = 'E') ∧ digits ≠ [] then
      (digits.mapM digit?).map fun digits =>
        if negative then -(exponentOf digits : Int) else exponentOf digits
    else none

/-- The unsigned literal that a text writes, as digits and exponent: digits with
    at most one point among or around them, and an exponent. -/
def literal? (s : List Char) : Option (Nat × Int) :=
  let whole := s.takeWhile Char.isDigit
  let behind := s.dropWhile Char.isDigit
  let (fraction, rest) := match behind with
    | '.' :: more => (more.takeWhile Char.isDigit, more.dropWhile Char.isDigit)
    | _ => ([], behind)
  (natural? (whole ++ fraction)).bind fun digits =>
    (exponent? rest).map fun exponent => (digits, exponent - fraction.length)

/-- A text in lower case, for comparing it with a word of ASCII letters. -/
def isWord (word : String) (s : List Char) : Bool := s.map Char.toLower == word.toList

/-- The double that a text writes: a decimal literal, or a word for infinity or
    for the value that is no number, with an optional sign. -/
def float? (s : List Char) : Option Float :=
  let (negative, body) := takeSign s
  if isWord "inf" body || isWord "infinity" body then
    some (floatOfBits negative Binary64.infinityBits)
  else if isWord "nan" body then
    some (floatOfBits negative (Binary64.infinityBits + Nat.pow 2 51))
  else (literal? body).map fun (digits, exponent) => toFloat negative digits exponent

end Rulebook.Decimal
