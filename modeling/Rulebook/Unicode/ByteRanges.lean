/-
  Rulebook.Unicode.ByteRanges

  The UTF-8 forms of sets of code points, as sequences of ranges of bytes.
-/
import Rulebook.Unicode.CodeSet

namespace Rulebook.Unicode

/-- A range of bytes. -/
abbrev ByteRange := Nat × Nat

/-- The byte sequences of the values from `low` to `high`, of which each takes `tail` bytes
    of six bits behind a first byte, which has the bits `mark`. -/
def byteSequences (mark : Nat) : Nat → Nat → Nat → List (List ByteRange)
  | 0, low, high => [[(mark + low, mark + high)]]
  | tail + 1, low, high =>
    let block := Nat.pow 64 (tail + 1)
    let (first, last) := (low / block, high / block)
    let behind (lead low high : Nat) :=
      (byteSequences 0x80 tail low high).map ((mark + lead, mark + lead) :: ·)
    if first = last then behind first (low % block) (high % block)
    else
      let (start, before) :=
        if low % block = 0 then (first, []) else (first + 1, behind first (low % block) (block - 1))
      let (stop, after) :=
        if high % block = block - 1 then (last + 1, [])
        else (last, behind last 0 (high % block))
      let between :=
        if start < stop then
          [(mark + start, mark + stop - 1) :: List.replicate (tail + 1) (0x80, 0xBF)]
        else []
      before ++ between ++ after

/-- The stretches of code points whose UTF-8 forms have one length: the first and the last,
    the bits that mark the first byte, and the number of bytes behind it. -/
def stretches : List (Nat × Nat × Nat × Nat) :=
  [(0, 0x7F, 0, 0), (0x80, 0x7FF, 0xC0, 1), (0x800, 0xD7FF, 0xE0, 2), (0xE000, 0xFFFF, 0xE0, 2),
    (0x10000, 0x10FFFF, 0xF0, 3)]

/-- The byte sequences of a set, in increasing order. -/
def CodeSet.byteSequences (set : CodeSet) : List (List ByteRange) :=
  set.ranges.flatMap fun (low, high) =>
    stretches.flatMap fun (first, last, mark, tail) =>
      if max low first ≤ min high last then
        Unicode.byteSequences mark tail (max low first) (min high last)
      else []

end Rulebook.Unicode
