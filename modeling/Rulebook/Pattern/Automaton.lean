/-
  Rulebook.Pattern.Automaton

  Matching an expression by the nodes of an automaton.  A text is read character by
  character, and at each place the nodes that wait there are known.  A memory keeps
  what follows from which nodes; `runWith_eq` says that it has no effect on a result.
-/
import Rulebook.Pattern.Look
import Std.Data.DHashMap
import Std.Data.HashSet

namespace Rulebook.Pattern

open Unicode (CodeSet)

/-! ## Automata -/

/-- A node of an automaton: what is done there, and the nodes behind it. -/
inductive Node
  /-- Take a character of a set. -/
  | take (set : CodeSet) (next : Nat)
  | split (first second : Nat)
  | check (look : Look) (next : Nat)
  | done

/-- The nodes of an automaton, and the one where a match starts. -/
structure Automaton where
  nodes : Array Node
  start : Nat

namespace Expr

/-- Put the nodes of an expression in front of the node `next`.  The first part of the result
    is the node where the expression starts. -/
def build : Expr → Nat × Array Node → Nat × Array Node
  | empty, built => built
  | literal text, built =>
    text.foldr (fun c (next, nodes) =>
      (nodes.size, nodes.push (.take ⟨[(c.toNat, c.toNat)]⟩ next))) built
  | one set, (next, nodes) => (nodes.size, nodes.push (.take set next))
  | look assertion, (next, nodes) => (nodes.size, nodes.push (.check assertion next))
  | concat first second, built => first.build (second.build built)
  | choice first second, (next, nodes) =>
    let (right, nodes) := second.build (next, nodes)
    let (left, nodes) := first.build (next, nodes)
    (nodes.size, nodes.push (.split left right))
  | repetition least most _ body, (next, nodes) =>
    let more := match most with
      | none =>
        let loop := nodes.size
        let (again, nodes) := body.build (loop, nodes.push .done)
        (loop, nodes.setIfInBounds loop (.split again next))
      | some most =>
        Nat.repeat (fun built =>
          let (again, nodes) := body.build built
          (nodes.size, nodes.push (.split again next))) (most - least) (next, nodes)
    Nat.repeat body.build least more
  | capture body, built => body.build built

end Expr

/-- The automaton of an expression. -/
def Automaton.ofExpr (e : Expr) : Automaton :=
  let (start, nodes) := e.build (0, #[.done])
  ⟨nodes, start⟩

/-! ## Steps -/

/-- A place in a text as an automaton sees it: the nodes that wait there, in increasing order,
    and the characters around it. -/
structure Situation where
  waiting : List Nat
  before : Option Nat
  behind : Option Nat
  deriving DecidableEq, Hashable

namespace Automaton

/-- The nodes behind those of some nodes that take the next character, besides `next`.  There
    is no result if a match ends.  `fuel` bounds the number of nodes that are tried. -/
def explore (nodes : Array Node) (before behind : Option Nat) :
    Nat → List Nat → Std.HashSet Nat → List Nat → Option (List Nat)
  | 0, _, _, next | _, [], _, next => some next
  | fuel + 1, node :: rest, seen, next =>
    if seen.contains node then explore nodes before behind fuel rest seen next
    else
      let seen := seen.insert node
      match nodes[node]? with
      | some (.take set target) =>
        let next := if behind.any set.contains then target :: next else next
        explore nodes before behind fuel rest seen next
      | some (.split first second) =>
        explore nodes before behind fuel (first :: second :: rest) seen next
      | some (.check look target) =>
        let rest := if look.holds before behind then target :: rest else rest
        explore nodes before behind fuel rest seen next
      | some .done => none
      | none => explore nodes before behind fuel rest seen next

/-- The nodes that wait at the next place.  A match may start at any place.  There is no result
    if a match ends at this one. -/
def step (a : Automaton) (situation : Situation) : Option (List Nat) :=
  let first := a.start :: situation.waiting
  let fuel := 2 * a.nodes.size + first.length
  (explore a.nodes situation.before situation.behind fuel first ∅ []).map fun next =>
    next.mergeSort.eraseReps

/-- Whether a match ends at a place or behind it. -/
def run (a : Automaton) : List Nat → Option Nat → List Nat → Bool
  | waiting, before, [] => (a.step ⟨waiting, before, none⟩).isNone
  | waiting, before, code :: codes =>
    match a.step ⟨waiting, before, some code⟩ with
    | none => true
    | some next => a.run next (some code) codes

/-! ## Memory -/

/-- The steps that are known. -/
abbrev Memory (a : Automaton) :=
  Std.DHashMap Situation fun situation => { next // next = a.step situation }

/-- How many steps are kept. -/
def maxKept : Nat := 20000

/-- A step, and the memory with it.  A full memory is emptied. -/
def remembered (a : Automaton) (memory : a.Memory) (situation : Situation) :
    { next // next = a.step situation } × a.Memory :=
  match memory.get? situation with
  | some known => (known, memory)
  | none =>
    let next := ⟨a.step situation, rfl⟩
    let memory := if memory.size < maxKept then memory else ∅
    (next, memory.insert situation next)

/-- Whether a match ends at a place or behind it, by the steps that are known. -/
def runWith (a : Automaton) : a.Memory → List Nat → Option Nat → List Nat → Bool
  | _, waiting, before, [] => (a.step ⟨waiting, before, none⟩).isNone
  | memory, waiting, before, code :: codes =>
    match a.remembered memory ⟨waiting, before, some code⟩ with
    | (⟨none, _⟩, _) => true
    | (⟨some next, _⟩, memory) => a.runWith memory next (some code) codes

theorem runWith_eq (a : Automaton) (memory : a.Memory) (waiting : List Nat)
    (before : Option Nat) (codes : List Nat) :
    a.runWith memory waiting before codes = a.run waiting before codes := by
  induction codes generalizing memory waiting before with
  | nil => rfl
  | cons code codes ih =>
    rw [runWith, run]
    split
    · next h _ _ => rw [← h]
    · next next h _ _ => rw [← h]; exact ih _ _ _

end Automaton

/-- Whether an expression matches somewhere in a text. -/
def Expr.matchesByNodes (e : Expr) (codes : List Nat) : Bool :=
  (Automaton.ofExpr e).runWith ∅ [] none codes

end Rulebook.Pattern
