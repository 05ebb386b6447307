/-
  Rulebook.Pattern.Places

  Matching an expression by sets of places.  A set of places in a text is a number with
  a bit for each place.  An expression takes the places where a match may start to
  those where it may end.
-/
import Rulebook.Digits
import Rulebook.Pattern.Look
import Std.Data.HashMap

namespace Rulebook.Pattern

open Unicode (CodeSet)

/-- The set of the places for which there is a bit that is on. -/
def ofBits (bits : List Bool) : Nat := ofDigits 2 (bits.map Bool.toNat)

/-! ## Charts -/

/-- What can be asked of a place in a text: whether a character of a set is behind it, or
    whether an assertion holds there. -/
inductive Test
  | inSet (set : CodeSet)
  | holds (look : Look)
  deriving DecidableEq, Hashable

/-- The test for a character. -/
def Test.char (c : Char) : Test := .inSet ⟨[(c.toNat, c.toNat)]⟩

/-- The tests of an expression. -/
def Expr.tests : Expr → List Test
  | empty => []
  | literal text => text.map Test.char
  | one set => [.inSet set]
  | look assertion => [.holds assertion]
  | concat first second | choice first second => first.tests ++ second.tests
  | repetition _ _ _ body | capture body => body.tests

/-- What is known of a text. -/
structure Chart where
  /-- The number of places. -/
  size : Nat
  /-- The places where a test holds. -/
  places : Std.HashMap Test Nat

namespace Chart

/-- The places of a text where a test holds. -/
def placesOf (codes : List Nat) : Test → Nat
  | .inSet set => ofBits (codes.map set.contains)
  | .holds look =>
    let around := List.zip (none :: codes.map some) (codes.map some ++ [none])
    ofBits (around.map fun (before, behind) => look.holds before behind)

/-- The chart of a text for some tests. -/
def ofTests (codes : List Nat) (tests : List Test) : Chart :=
  ⟨codes.length + 1, tests.foldl (fun known test =>
    if known.contains test then known else known.insert test (placesOf codes test)) ∅⟩

/-- The places where a test holds. -/
def whereHolds (chart : Chart) (test : Test) : Nat := (chart.places[test]?).getD 0

/-- The places that are one character behind some places where a test holds. -/
def step (chart : Chart) (test : Test) (places : Nat) : Nat :=
  (places &&& chart.whereHolds test) <<< 1

end Chart

/-! ## Rounds -/

/-- The places that are reached from some places in exactly `n` rounds. -/
def rounds (round : Nat → Nat) : Nat → Nat → Nat
  | 0, places => places
  | n + 1, places =>
    let next := round places
    if next = places then places else rounds round n next

/-- The places that are reached in at most `n` rounds, given those that are known to be and
    those of them from which no round has been tried. -/
def reached (round : Nat → Nat) : Nat → Nat → Nat → Nat
  | 0, known, _ => known
  | n + 1, known, fresh =>
    let next := known ||| round fresh
    if next = known then known else reached round n next (next ^^^ known)

/-- The places that are reached through allowed places only, one by one.  The sum carries each
    start to the end of the run of allowed places that it is in. -/
def spread (allowed places : Nat) : Nat :=
  (((places &&& allowed) + allowed) ^^^ allowed) ||| places

namespace Expr

/-- The test of an expression that takes just one character. -/
def singleTest? : Expr → Option Test
  | literal [c] => some (.char c)
  | one set => some (.inSet set)
  | _ => none

/-- The places where a match that starts at one of some places may end.  The number of places
    in the text bounds the rounds that reach a new one. -/
def ends (chart : Chart) : Expr → Nat → Nat
  | empty, places => places
  | literal text, places => text.foldl (fun places c => chart.step (.char c) places) places
  | one set, places => chart.step (.inSet set) places
  | look assertion, places => places &&& chart.whereHolds (.holds assertion)
  | concat first second, places => second.ends chart (first.ends chart places)
  | choice first second, places => first.ends chart places ||| second.ends chart places
  | repetition least most _ body, places =>
    let start := rounds (body.ends chart) least places
    match most, body.singleTest? with
    | some most, _ => reached (body.ends chart) (most - least) start start
    | none, some test => spread (chart.whereHolds test) start
    | none, none => reached (body.ends chart) chart.size start start
  | capture body, places => body.ends chart places

/-- Whether an expression matches somewhere in a text. -/
def matchesAtPlaces (e : Expr) (codes : List Nat) : Bool :=
  let chart := Chart.ofTests codes e.tests
  e.ends chart (Nat.pow 2 chart.size - 1) != 0

end Expr

end Rulebook.Pattern
