/-
  Rulebook.Pattern.LiteralTree

  The automaton of a choice between literals.  Literals that start alike share the
  states that read their common start, as far as the order of the choice allows it.
-/
import Rulebook.Pattern.Extent

namespace Rulebook.Pattern.LiteralTree

/-- The rests of some literals from one state on, between the literals that end there: an
    end separates what the choice prefers from what it does not.  A second end counts
    only if there is a rest in front of it. -/
def sections (rests : List (List UInt8)) : List (List (List UInt8)) :=
  let start : List (List UInt8) × List (List (List UInt8)) × Bool := ([], [], false)
  let (last, done, _) := rests.foldl (fun (current, done, read) rest =>
    if !rest.isEmpty then (rest :: current, done, true)
    else if !read && !done.isEmpty then (current, done, read)
    else ([], current.reverse :: done, read)) start
  (last.reverse :: done).reverse

/-- The rests behind each first byte of some rests, without that byte. -/
def behindBytes (rests : List (List UInt8)) : List (List (List UInt8)) :=
  let sorted := rests.mergeSort fun a b => a.headD 0 ≤ b.headD 0
  (sorted.splitBy fun a b => a.head? == b.head?).map fun group => group.map List.tail

/-- What the states for some rests take, of at most `length` bytes each.  Where all rests
    are empty there is none. -/
def extentFrom : Nat → List (List UInt8) → Extent
  | 0, _ => {}
  | _ + 1, [rest] => ((Extent.fork 1).add (.plain 1)).times rest.length
  | length + 1, rests =>
    let parts := (sections rests).map behindBytes
    let readers := parts.filter fun groups => !groups.isEmpty
    let own := readers.foldl (fun extent groups =>
        extent.add (if groups.length = 1 then .plain 1 else .reader groups.length))
      (.fork (readers.length + (parts.length - 1)))
    (parts.flatten.filter fun rests => !rests.all List.isEmpty).foldl
      (fun extent rests => extent.add (extentFrom length rests)) own

/-- What the automaton of a choice between some literals takes, a state behind it included. -/
def extent (literals : List (List UInt8)) : Extent :=
  let longest := literals.foldl (fun n literal => max n literal.length) 0
  (Extent.plain 1).add (extentFrom longest literals)

end Rulebook.Pattern.LiteralTree
