/-
  Rulebook.RuleSet

  Rule sets: rules in order, and the names of the sets that run after them.
-/
import Rulebook.Rule

namespace Rulebook

variable [Plugins]

/-- Rules in order, and the names of the sets that run when all rules passed. -/
structure RuleSet where
  rules : List Rule := []
  children : List String := []
  deriving DecidableEq

namespace RuleSet

/-- Add a rule at the end. -/
def push (set : RuleSet) (rule : Rule) : RuleSet := { set with rules := set.rules ++ [rule] }

/-- Add the children that the words of a text name. -/
def addChildren (set : RuleSet) (names : String) : RuleSet :=
  { set with children := set.children ++ Text.words names }

/-- The text that sums up a rule set. -/
def summary (set : RuleSet) : String :=
  s!"RuleSet({set.rules.length} rules, {set.children.length} children)"

end RuleSet

/-- Rule sets by name.  Children and other references to sets are names in it; a name
    without a set is a reference to nothing. -/
abbrev SetTable := NameMap RuleSet

namespace SetTable

/-- The children of a set that have a set themselves. -/
def childrenOf (table : SetTable) (name : String) : List String :=
  match table[name]? with
  | some set => set.children.filter fun child => table.contains child
  | none => []

end SetTable

end Rulebook
