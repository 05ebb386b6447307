/-
  Rulebook.Decimal.Layout

  How a double is written: the shortest digits that read back, laid out by a
  record of the decisions that differ between formats.
-/
import Rulebook.Decimal.Shortest

namespace Rulebook.Decimal

/-- The decisions of a number format. -/
structure Layout where
  /-- Which of two equally near decimals is written. -/
  tie : Tie
  /-- The exponents of the leading digit that are written without an exponent;
      all of them if absent. -/
  plain : Option (Int × Int)
  /-- Whether whole numbers end in `.0`. -/
  pointZero : Bool
  deriving Repr

namespace Layout

/-- `n` zeros. -/
def zeros (n : Nat) : String := String.ofList (List.replicate n '0')

/-- Digits with a point in front of, between or behind them. -/
def positional (layout : Layout) (n : Numeral) : String :=
  let digits := Nat.toDigits 10 n.digits
  let whole := if layout.pointZero then ".0" else ""
  match n.exponent with
  | .ofNat k => String.ofList digits ++ zeros k ++ whole
  | .negSucc k =>
    let places := k + 1
    if places < digits.length then
      String.ofList (digits.take (digits.length - places)) ++ "." ++
        String.ofList (digits.drop (digits.length - places))
    else "0." ++ zeros (places - digits.length) ++ String.ofList digits

/-- One digit, the others behind a point, and the exponent with its sign. -/
def scientific (n : Numeral) : String :=
  let digits := Nat.toDigits 10 n.digits
  let fraction := String.ofList (digits.drop 1)
  let exponent : Int := n.exponent + (digits.length - 1 : Nat)
  String.ofList (digits.take 1) ++ (if fraction.isEmpty then "" else "." ++ fraction) ++
    (if exponent < 0 then s!"e-{exponent.natAbs}" else s!"e+{exponent.natAbs}")

/-- A numeral in the form that the layout prescribes for its magnitude. -/
def write (layout : Layout) (n : Numeral) : String :=
  let lead : Int := n.exponent + (digitCount n.digits - 1 : Nat)
  match layout.plain with
  | none => layout.positional n
  | some (least, beyond) =>
    if n.digits = 0 ∨ (least ≤ lead ∧ lead < beyond) then layout.positional n
    else scientific n

/-- The text of a double. -/
def render (layout : Layout) (x : Float) : String :=
  match Binary64.ofFloat x with
  | .nan => "NaN"
  | .infinite negative => if negative then "-inf" else "inf"
  | .finite negative mantissa power =>
    (if negative then "-" else "") ++ layout.write (shortest layout.tie mantissa power)

end Layout

end Rulebook.Decimal
