/-
  Rulebook.Decimal.Shortest

  The shortest decimal that reads back to a given double.  Among the decimals
  that round to the double, those with the fewest digits come first, and among
  these the one nearest to the double.
-/
import Rulebook.Decimal.Binary64

namespace Rulebook.Decimal

/-- The number `digits * 10 ^ exponent`. -/
structure Numeral where
  digits : Nat
  exponent : Int
  deriving DecidableEq, Repr

/-- Where a decimal goes that lies exactly between two neighbours. -/
inductive Tie
  | toEven
  | up
  deriving DecidableEq, Repr

/-! ## Decimal magnitude -/

/-- The number of decimal digits of a positive number. -/
def digitCount (n : Nat) : Nat := (Nat.toDigits 10 n).length

/-- The largest `e` with `10 ^ e ≤ num / den`, for positive `num` and `den`. -/
def log10Floor (num den : Nat) : Int :=
  if den ≤ num then (digitCount (num / den) : Int) - 1
  else -(digitCount ((den - 1) / num) : Int)

/-- `num / den` divided by a power of ten, as a fraction. -/
def scaleDownTen (num den : Nat) : Int → Nat × Nat
  | .ofNat k => (num, den * Nat.pow 10 k)
  | .negSucc k => (num * Nat.pow 10 (k + 1), den)

/-! ## The numbers that round to a double -/

/-- A closed or open interval `low / den … high / den` around `value / den`. -/
structure Interval where
  low : Nat
  value : Nat
  high : Nat
  den : Nat
  closed : Bool

namespace Interval

/-- The numbers that round to `mantissa * 2 ^ power`: half a step up and half a
    step down, where the step down from a power of two is half as wide. -/
def around (mantissa : Nat) (power : Int) : Interval :=
  let narrow := mantissa = Nat.pow 2 52 ∧ Binary64.leastPower < power
  let (unit, den) := scaleDown 1 1 (2 - power)
  { low := (4 * mantissa - if narrow then 1 else 2) * unit
    value := 4 * mantissa * unit
    high := (4 * mantissa + 2) * unit
    den := den
    closed := mantissa % 2 = 0 }

/-- Whether the fraction `num / den` lies in the interval. -/
def holds (i : Interval) (num den : Nat) : Bool :=
  let low := i.low * den
  let high := i.high * den
  let x := num * i.den
  if i.closed then low ≤ x && x ≤ high else low < x && x < high

/-- The value of the interval between two points of the grid of multiples of
    `10 ^ exponent`: the points that read back, the nearer first. -/
def pick (i : Interval) (tie : Tie) (exponent : Int) : Option Numeral :=
  let (num, den) := scaleDownTen i.value i.den exponent
  let below := num / den
  let twice := 2 * (num % den)
  let inside (n : Nat) : Bool :=
    match exponent with
    | .ofNat k => i.holds (n * Nat.pow 10 k) 1
    | .negSucc k => i.holds n (Nat.pow 10 (k + 1))
  let lower := 0 < below && inside below
  let upper := inside (below + 1)
  let preferUpper := den < twice ||
    (twice == den && (tie == .up || below % 2 == 1))
  if lower && upper then
    some ⟨if preferUpper then below + 1 else below, exponent⟩
  else if lower then some ⟨below, exponent⟩
  else if upper then some ⟨below + 1, exponent⟩
  else none

end Interval

/-! ## Selection -/

/-- Drop trailing zeros, at most `fuel` of them. -/
def dropZeros : Nat → Numeral → Numeral
  | 0, n => n
  | fuel + 1, n =>
    if n.digits ≠ 0 ∧ n.digits % 10 = 0 then
      dropZeros fuel ⟨n.digits / 10, n.exponent + 1⟩
    else n

/-- The shortest decimal that reads back to `mantissa * 2 ^ power`, without
    trailing zeros.  Seventeen digits always suffice. -/
def shortest (tie : Tie) (mantissa : Nat) (power : Int) : Numeral :=
  if mantissa = 0 then ⟨0, 0⟩
  else
    let i := Interval.around mantissa power
    let lead := log10Floor i.value i.den
    let found := (List.range 17).findSome? fun (k : Nat) => i.pick tie (lead - k)
    dropZeros 18 (found.getD ⟨mantissa, 0⟩)

end Rulebook.Decimal
