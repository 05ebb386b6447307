/-
  Rulebook.Unicode.CodeSet

  Sets of code points as ranges in increasing order, and the compact text in
  which the tables of this library give them.
-/
import Rulebook.Text.Blank

namespace Rulebook.Unicode

/-- A set of code points: closed ranges in increasing order, with a gap between any two. -/
structure CodeSet where
  ranges : List (Nat × Nat)
  deriving DecidableEq, Repr, Inhabited, Hashable

/-- The largest code point. -/
def maxCode : Nat := 0x10FFFF

namespace CodeSet

/-! ## Making sets -/

/-- Join ranges that touch or overlap, given in increasing order of their starts, behind a
    first one that starts no later. -/
def join : Nat × Nat → List (Nat × Nat) → List (Nat × Nat)
  | range, [] => [range]
  | range, next :: rest =>
    if next.1 ≤ range.2 + 1 then join (range.1, max range.2 next.2) rest
    else range :: join next rest

/-- The set of the code points in any of some ranges. -/
def ofRanges (ranges : List (Nat × Nat)) : CodeSet :=
  match ranges.mergeSort fun a b => a.1 ≤ b.1 with
  | [] => ⟨[]⟩
  | first :: rest => ⟨join first rest⟩

/-- The set of some code points. -/
def ofCodes (codes : List Nat) : CodeSet := ofRanges (codes.map fun c => (c, c))

/-- The set without code points. -/
def empty : CodeSet := ⟨[]⟩

/-- The set of all code points. -/
def full : CodeSet := ⟨[(0, maxCode)]⟩

/-! ## Membership and operations -/

/-- Whether a code point lies in one of some increasing ranges. -/
def containsIn (code : Nat) : List (Nat × Nat) → Bool
  | [] => false
  | (low, high) :: rest => if code < low then false else code ≤ high || containsIn code rest

/-- Whether a code point is in a set. -/
def contains (set : CodeSet) (code : Nat) : Bool := containsIn code set.ranges

/-- The code points in either of two sets. -/
def union (a b : CodeSet) : CodeSet := ofRanges (a.ranges ++ b.ranges)

/-- The gaps between increasing ranges, from `start` to `last`. -/
def gaps (last : Nat) : Nat → List (Nat × Nat) → List (Nat × Nat)
  | start, [] => if start ≤ last then [(start, last)] else []
  | start, (low, high) :: rest =>
    if start < low then (start, low - 1) :: gaps last (high + 1) rest
    else gaps last (high + 1) rest

/-- The code points up to `last` that are not in a set. -/
def complementTo (last : Nat) (set : CodeSet) : CodeSet := ⟨gaps last 0 set.ranges⟩

/-- The code points that are not in a set. -/
def complement (set : CodeSet) : CodeSet := set.complementTo maxCode

/-- The code points in both of two sets. -/
def inter (a b : CodeSet) : CodeSet := (a.complement.union b.complement).complement

/-- The code points in the first of two sets only. -/
def diff (a b : CodeSet) : CodeSet := a.inter b.complement

/-- The code points in one of two sets only. -/
def symmDiff (a b : CodeSet) : CodeSet := (a.diff b).union (b.diff a)

/-- Join ranges between which there are at most surrogates, behind a first one. -/
def joinAround : Nat × Nat → List (Nat × Nat) → List (Nat × Nat)
  | range, [] => [range]
  | range, next :: rest =>
    if range.2 = 0xD7FF ∧ next.1 = 0xE000 then joinAround (range.1, next.2) rest
    else range :: joinAround next rest

/-- Whether a code point is a surrogate, which is no character. -/
def isSurrogate (code : Nat) : Bool := 0xD800 ≤ code && code ≤ 0xDFFF

/-- A set without the surrogates.  Where no range starts at one, or ends at one or right in
    front of them, there is nothing to do. -/
def characters (set : CodeSet) : CodeSet :=
  if set.ranges.all fun (low, high) => !isSurrogate low && !isSurrogate high && high != 0xD7FF then
    set
  else
    let trimmed := set.ranges.map fun (low, high) =>
      (if isSurrogate low then 0xE000 else low, if isSurrogate high then 0xD7FF else high)
    match trimmed.filter fun (low, high) => low ≤ high with
    | [] => ⟨[]⟩
    | first :: rest => ⟨joinAround first rest⟩

/-- Whether all code points of a set are in ASCII. -/
def isAscii (set : CodeSet) : Bool := set.ranges.all fun (_, high) => high < 0x80

/-- The code point of a set that has just one. -/
def single? (set : CodeSet) : Option Nat :=
  match set.ranges with
  | [(low, high)] => if low = high then some low else none
  | _ => none

end CodeSet

/-! ## The text of a set -/

/-- The value of a hexadecimal digit in lower case. -/
def hexDigit? (c : Char) : Option Nat :=
  if '0' ≤ c ∧ c ≤ '9' then some (c.toNat - '0'.toNat)
  else if 'a' ≤ c ∧ c ≤ 'f' then some (c.toNat - 'a'.toNat + 10)
  else none

/-- The number that hexadecimal digits write. -/
def hexNumber (digits : List Char) : Nat :=
  digits.foldl (fun n c => 16 * n + (hexDigit? c).getD 0) 0

/-- The ranges of some items, the first of which is counted from `start`.  An item holds
    the gap in front of its range and, behind `+`, how far the range extends. -/
def rangesFrom : Nat → List (List Char) → List (Nat × Nat)
  | _, [] => []
  | start, item :: rest =>
    let low := start + hexNumber (item.takeWhile (· != '+'))
    let high := low + hexNumber ((item.dropWhile (· != '+')).drop 1)
    (low, high) :: rangesFrom (high + 1) rest

/-- The set that a text gives. -/
def CodeSet.ofText (text : String) : CodeSet := ⟨rangesFrom 0 (Text.wordsOf text.toList)⟩

end Rulebook.Unicode
