/-
  Rulebook.Pattern.Extent

  How much an automaton takes: a number of states, and the bytes of what some states
  hold besides.
-/

namespace Rulebook.Pattern

/-! ## Units -/

/-- The bytes of a state. -/
def stateSize : Nat := 32

/-- The bytes of a way on for the bytes of a range, in a state that has several. -/
def edgeSize : Nat := 8

/-- The bytes of a way on without a byte, in a state that has several. -/
def branchSize : Nat := 4

/-- The bytes that an automaton may take: ten mebibytes. -/
def maxSize : Nat := 10 * Nat.pow 2 20

/-! ## Extents -/

/-- What an automaton takes so far. -/
structure Extent where
  states : Nat := 0
  /-- The bytes of what the states hold besides. -/
  extra : Nat := 0
  deriving DecidableEq, Repr

namespace Extent

/-- The bytes of an automaton. -/
def size (extent : Extent) : Nat := extent.states * stateSize + extent.extra

/-- Whether an automaton takes more than it may. -/
def isTooLarge (extent : Extent) : Bool := maxSize < extent.size

/-- What an automaton takes with some more states. -/
def add (extent more : Extent) : Extent :=
  ⟨extent.states + more.states, extent.extra + more.extra⟩

/-- What `n` equal parts take. -/
def times (n : Nat) (part : Extent) : Extent := ⟨n * part.states, n * part.extra⟩

/-- What a state with some ways on without a byte takes. -/
def fork (ways : Nat) : Extent := ⟨1, ways * branchSize⟩

/-- What a state with some ways on for bytes takes. -/
def reader (ways : Nat) : Extent := ⟨1, ways * edgeSize⟩

/-- What some states with one way on take. -/
def plain (states : Nat) : Extent := ⟨states, 0⟩

theorem size_add (a b : Extent) : (a.add b).size = a.size + b.size := by
  simp only [size, add, Nat.add_mul]
  omega

theorem size_times (n : Nat) (part : Extent) : (part.times n).size = n * part.size := by
  simp only [size, times, Nat.mul_add, Nat.mul_assoc]

end Extent

end Rulebook.Pattern
