/-
  Rulebook.Pattern.SetStates

  The automaton that reads a character of a set, byte by byte.  Equal states are made
  only once, as far as a memory of the states made so far still knows them.
-/
import Rulebook.Pattern.Extent
import Rulebook.Unicode.ByteRanges
import Std.Data.HashMap

namespace Rulebook.Pattern

open Unicode (ByteRange)

/-! ## A memory of states -/

/-- The states made so far, under what they do.  The memory has a number of slots, each of
    which keeps what came into it last. -/
structure Memory where
  slots : Nat
  kept : Std.HashMap Nat (List Nat × Nat) := ∅

namespace Memory

/-- The slot of what a state does, given as numbers that are mixed in one by one. -/
def slotOf (memory : Memory) (key : List Nat) : Nat :=
  let mixed : UInt64 :=
    key.foldl (fun h n => (h ^^^ n.toUInt64) * 1099511628211) 14695981039346656037
  mixed.toNat % memory.slots

/-- The state that does something, if it is known. -/
def stateFor (memory : Memory) (key : List Nat) : Option Nat :=
  match memory.kept[memory.slotOf key]? with
  | some (known, state) => if known = key then some state else none
  | none => none

/-- Keep a state, in place of what was in its slot. -/
def keep (memory : Memory) (key : List Nat) (state : Nat) : Memory :=
  { memory with kept := memory.kept.insert (memory.slotOf key) (key, state) }

end Memory

/-! ## Making states -/

/-- Where the making of an automaton stands. -/
structure Building where
  extent : Extent
  memory : Memory

namespace Building

/-- The state that does what a key says: a known one, or a new one that takes the given
    extent. -/
def obtain (building : Building) (key : List Nat) (needed : Extent) : Nat × Building :=
  match building.memory.stateFor key with
  | some state => (state, building)
  | none =>
    let state := building.extent.states
    (state, ⟨building.extent.add needed, building.memory.keep key state⟩)

end Building

/-! ## Reading forward -/

/-- Byte sequences by their first ranges: each with what may follow it.  Sequences with one
    first range stand together. -/
def followers : List (List ByteRange) → List (ByteRange × List (List ByteRange))
  | [] => []
  | [] :: rest => followers rest
  | (head :: tail) :: rest =>
    match followers rest with
    | [] => [(head, [tail])]
    | (next, tails) :: groups =>
      if head = next then (head, tail :: tails) :: groups
      else (head, [tail]) :: (next, tails) :: groups

/-- The state that reads byte sequences of at most `length` bytes up to the state `target`.
    The states behind it are made in front of it. -/
def forwardState (target : Nat) : Nat → List (List ByteRange) → Building → Nat × Building
  | 0, _, building => (target, building)
  | length + 1, sequences, building =>
    if sequences.all List.isEmpty then (target, building)
    else
      let (ways, building) := (followers sequences).foldl (fun (ways, building) (range, tails) =>
        let (next, building) := forwardState target length tails building
        (next :: range.2 :: range.1 :: ways, building)) ([], building)
      building.obtain ways.reverse (.reader (ways.length / 3))

/-- How many slots the memory has while states that read forward are made. -/
def forwardSlots : Nat := 10000

/-- Add the states that read some byte sequences forward. -/
def addForward (sequences : List (List ByteRange)) (extent : Extent) : Extent :=
  let start : Building := ⟨extent.add (.plain 1), { slots := forwardSlots }⟩
  (forwardState extent.states 4 sequences start).2.extent

/-! ## Reading backward -/

/-- Make the states that read a byte sequence backward, up to the state that is given first.
    Each range is read behind what it stands in front of. -/
def backwardStates (sequence : List ByteRange) (target : Nat) (building : Building) : Building :=
  (sequence.foldl (fun (target, building) range =>
    building.obtain [target, range.1, range.2] (.plain 1)) (target, building)).2

/-- How many slots the memory has while states that read backward are made. -/
def backwardSlots : Nat := 1000

/-- Add the states that read some byte sequences backward. -/
def addBackward (sequences : List (List ByteRange)) (extent : Extent) : Extent :=
  let frame := extent.add ((Extent.fork sequences.length).add (.plain 1))
  let start : Building := ⟨frame, { slots := backwardSlots }⟩
  (sequences.foldl (fun building sequence =>
    backwardStates sequence (extent.states + 1) building) start).extent

end Rulebook.Pattern
