/-
  Rulebook.Pattern.Size

  How large the automata of an expression are.  Searching needs an automaton that
  reads the bytes of a text forward and one that reads them backward; a pattern is
  refused if one of them would be too large.
-/
import Rulebook.Pattern.Expr
import Rulebook.Pattern.LiteralTree
import Rulebook.Pattern.SetStates

namespace Rulebook.Pattern

open Unicode (CodeSet)

/-- The direction in which an automaton reads. -/
inductive Direction
  | forward
  | backward
  deriving DecidableEq, Repr

/-! ## Blueprints -/

/-- In which order the states of an automaton are made.  How many states a set needs depends
    on how many there are already. -/
inductive Blueprint
  /-- States whose number is known. -/
  | block (extent : Extent)
  /-- The states that read a character of a set. -/
  | character (set : CodeSet)
  | both (first second : Blueprint)
  | times (n : Nat) (body : Blueprint)

namespace Blueprint

/-- One blueprint behind another. -/
def andThen : Blueprint → Blueprint → Blueprint
  | block a, block b => block (a.add b)
  | both first (block a), block b => both first (block (a.add b))
  | first, second => both first second

/-- A blueprint a number of times. -/
def repeated (n : Nat) : Blueprint → Blueprint
  | block extent => block (extent.times n)
  | body => times n body

/-- Do a step a number of times, as long as an automaton is not too large. -/
def iterate (step : Extent → Extent) : Nat → Extent → Extent
  | 0, extent => extent
  | n + 1, extent => if extent.isTooLarge then extent else iterate step n (step extent)

/-- Make the states of a blueprint behind those that there are.  Once an automaton is too
    large, it does not matter by how much. -/
def make (direction : Direction) : Blueprint → Extent → Extent
  | block more, extent => extent.add more
  | character set, extent =>
    match direction with
    | .forward => addForward set.byteSequences extent
    | .backward => addBackward set.byteSequences extent
  | both first second, extent =>
    let extent := first.make direction extent
    if extent.isTooLarge then extent else second.make direction extent
  | times n body, extent => iterate (body.make direction) n extent

end Blueprint

/-! ## Expressions -/

/-- The blueprint of a set. -/
def setBlueprint (set : CodeSet) : Blueprint :=
  if set.isAscii then .block ((Extent.plain 1).add (.reader set.ranges.length))
  else .character set

namespace Expr

/-- The bytes of a literal, as they are read. -/
def literalBytes? (direction : Direction) : Expr → Option (List UInt8)
  | literal text =>
    let bytes := (String.ofList text).toUTF8.toList
    some (match direction with
      | .forward => bytes
      | .backward => bytes.reverse)
  | _ => none

/-- The blueprint of a choice, given those of its branches.  The state in front of it is made
    when two of them are. -/
def choiceBlueprint : List Blueprint → Blueprint
  | first :: second :: others =>
    let frame := (Extent.fork (others.length + 2)).add (.plain 1)
    others.foldl .andThen ((first.andThen second).andThen (.block frame))
  | [branch] => branch
  | [] => .block (.plain 1)

/-- The blueprint of a repetition.  Each round that is counted has states of its own. -/
def repetitionBlueprint (body : Blueprint) (takesOne : Bool) : Nat → Option Nat → Blueprint
  | 0, none =>
    if takesOne then .andThen (.block (.fork 2)) body
    else body.andThen (.block (((Extent.fork 2).times 2).add (.plain 1)))
  | least, none => (body.repeated least).andThen (.block (.fork 2))
  | 0, some 1 => ((Blueprint.block (.fork 2)).andThen body).andThen (.block (.plain 1))
  | least, some most =>
    if least = most then body.repeated least
    else
      let counted := if least = 0 then .block (.plain 1) else body.repeated least
      (counted.andThen (.block (.plain 1))).andThen
        (((Blueprint.block (.fork 2)).andThen body).repeated (most - least))

/-- The blueprint of an expression, given those of its branches.  A choice between literals
    only has states of its own kind. -/
def join (direction : Direction) (e : Expr) : List Blueprint → Blueprint
  | [branch] => branch
  | several =>
    match e.branches.mapM (literalBytes? direction) with
    | some literals => .block (LiteralTree.extent literals)
    | none => choiceBlueprint several

/-- The blueprints of the branches of an expression. -/
def branchBlueprints (direction : Direction) : Expr → List Blueprint
  | empty | look _ => [.block (.plain 1)]
  | literal text => [.block (.plain (String.ofList text).utf8ByteSize)]
  | one set => [setBlueprint set]
  | concat first second =>
    let first := first.join direction (first.branchBlueprints direction)
    let second := second.join direction (second.branchBlueprints direction)
    match direction with
    | .forward => [first.andThen second]
    | .backward => [second.andThen first]
  | choice first second =>
    first.join direction (first.branchBlueprints direction) :: second.branchBlueprints direction
  | repetition least most _ body =>
    let round := body.join direction (body.branchBlueprints direction)
    [repetitionBlueprint round body.takesOne least most]
  | capture body =>
    let inner := body.join direction (body.branchBlueprints direction)
    match direction with
    | .forward => [((Blueprint.block (.plain 1)).andThen inner).andThen (.block (.plain 1))]
    | .backward => [inner]

/-- The blueprint of an expression. -/
def blueprint (direction : Direction) (e : Expr) : Blueprint :=
  e.join direction (e.branchBlueprints direction)

/-- Whether an expression matches only at a start of the text. -/
def isBoundToStart : Expr → Bool
  | look assertion => assertion == .textStart
  | empty | literal _ | one _ => false
  | concat first second => first.isBoundToStart || (first.onlyEmpty && second.isBoundToStart)
  | choice first second => first.isBoundToStart && second.isBoundToStart
  | repetition least _ _ body => 0 < least && body.isBoundToStart
  | capture body => body.isBoundToStart

/-- Whether an expression matches only at an end of the text, and whether it matches without a
    character only. -/
def endBounds : Expr → Bool × Bool
  | look assertion => (assertion == .textEnd, true)
  | empty => (false, true)
  | literal _ | one _ => (false, false)
  | concat first second =>
    let (bound, still) := second.endBounds
    (bound || (still && first.endBounds.1), still && first.onlyEmpty)
  | choice first second =>
    (first.endBounds.1 && second.endBounds.1, first.onlyEmpty && second.onlyEmpty)
  | repetition least most _ body =>
    (0 < least && body.endBounds.1, most.isSome && body.onlyEmpty)
  | capture body => body.endBounds

/-- What the states in front of an expression take, which look for the place where a match
    begins, or just begin where a match must. -/
def searchExtent (direction : Direction) (e : Expr) : Extent :=
  let bound :=
    match direction with
    | .forward => e.isBoundToStart
    | .backward => e.endBounds.1
  if bound then .plain 1 else ((Extent.fork 2).add (.plain 1)).add (.reader 1)

/-- What the automaton of an expression takes.  Forward, it also remembers where a match
    begins and ends. -/
def extent (direction : Direction) (e : Expr) : Extent :=
  let search := e.searchExtent direction
  match direction with
  | .forward => ((e.blueprint .forward).make .forward (search.add (.plain 1))).add (.plain 2)
  | .backward => ((e.blueprint .backward).make .backward search).add (.plain 1)

/-! ## Bounds -/

/-- A number of bytes that the states for a range of a set do not exceed.  Code points that
    differ in their last six bits only are read as one sequence of ranges of bytes, others as
    at most two for each byte of the longest. -/
def rangeBound (low high : Nat) : Nat :=
  let length :=
    if high < 0x80 then 1 else if high < 0x800 then 2 else if high < 0x10000 then 3 else 4
  let sequences := if low / 64 = high / 64 then 1 else 2 * length
  sequences * length * (stateSize + edgeSize)

/-- A number of bytes that the states for an expression do not exceed. -/
def bound : Expr → Nat
  | empty | look _ => 2 * stateSize
  | literal text => 16 * text.length * stateSize
  | one set =>
    set.ranges.foldl (fun bytes (low, high) => bytes + rangeBound low high) (4 * stateSize)
  | concat first second => first.bound + second.bound
  | choice first second => first.bound + second.bound + 4 * stateSize
  | repetition least most _ body =>
    max 1 (max least (most.getD 0)) * (body.bound + 2 * stateSize) + 4 * stateSize
  | capture body => body.bound + 2 * stateSize

/-- Whether the automata of an expression are small enough.  Often a rough bound tells. -/
def fits (e : Expr) : Bool :=
  e.bound + 8 * stateSize ≤ maxSize ||
    (!(e.extent .forward).isTooLarge && !(e.extent .backward).isTooLarge)

end Expr

end Rulebook.Pattern
