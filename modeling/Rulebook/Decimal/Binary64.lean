/-
  Rulebook.Decimal.Binary64

  Doubles taken apart into sign, mantissa and power of two, and the double that
  is nearest to a fraction.  All arithmetic is exact, on natural numbers.
-/

namespace Rulebook.Decimal

/-! ## Taking a double apart -/

/-- What a double stands for. -/
inductive Binary64
  /-- The number `mantissa * 2 ^ power`, negated if `negative`. -/
  | finite (negative : Bool) (mantissa : Nat) (power : Int)
  | infinite (negative : Bool)
  | nan
  deriving DecidableEq, Repr

namespace Binary64

/-- The least power of two by which a mantissa is scaled. -/
def leastPower : Int := -1074

/-- The bits of infinity: every exponent bit is set, and no bit of the fraction. -/
def infinityBits : Nat := 2047 * Nat.pow 2 52

/-- The number that the bits of a double stand for. -/
def ofBits (bits : Nat) : Binary64 :=
  let negative := decide (Nat.pow 2 63 ≤ bits)
  let biased := bits / Nat.pow 2 52 % Nat.pow 2 11
  let fraction := bits % Nat.pow 2 52
  if biased = 0 then finite negative fraction leastPower
  else if biased < 2047 then
    finite negative (Nat.pow 2 52 + fraction) (leastPower + (biased - 1 : Nat))
  else if fraction = 0 then infinite negative
  else nan

/-- The number that a double stands for. -/
def ofFloat (x : Float) : Binary64 := ofBits x.toBits.toNat

end Binary64

/-! ## Rounding to a double -/

/-- The integer nearest to `num / den`; of two at the same distance the even one. -/
def roundToEven (num den : Nat) : Nat :=
  let quotient := num / den
  let twice := 2 * (num % den)
  if twice < den then quotient
  else if den < twice then quotient + 1
  else quotient + quotient % 2

/-- `num / den` divided by a power of two, as a fraction. -/
def scaleDown (num den : Nat) : Int → Nat × Nat
  | .ofNat k => (num, den * Nat.pow 2 k)
  | .negSucc k => (num * Nat.pow 2 (k + 1), den)

/-- The largest `e` with `2 ^ e ≤ num / den`, for positive `num` and `den`. -/
def log2Floor (num den : Nat) : Int :=
  let e : Int := (num.log2 : Int) - den.log2
  let scaled := scaleDown num den e
  if scaled.1 < scaled.2 then e - 1 else e

/-- The bits of the double nearest to `num / den`, ties to the even mantissa. -/
def nearestBits (num den : Nat) : Nat :=
  if num = 0 then 0
  else
    let e := log2Floor num den
    if 1023 < e then Binary64.infinityBits
    else
      let power := max (e - 52) Binary64.leastPower
      let scaled := scaleDown num den power
      (power - Binary64.leastPower).toNat * Nat.pow 2 52 + roundToEven scaled.1 scaled.2

/-- The double with the given bits, negated if asked. -/
def floatOfBits (negative : Bool) (bits : Nat) : Float :=
  Float.ofBits (UInt64.ofNat (if negative then Nat.pow 2 63 + bits else bits))

end Rulebook.Decimal
