/-
  Rulebook.Engine

  Kinds, rule sets and variables together, and test runs over them.
-/
import Rulebook.Cycle
import Rulebook.Evaluation

namespace Rulebook

variable [Plugins]

/-- Kinds of rules, rule sets and variables. -/
structure Engine where
  registry : Registry := ∅
  sets : SetTable := ∅
  bindings : Variables := ∅

namespace Engine

/-- The name of the rule set that a test starts from if none is given. -/
def defaultRoot : String := "."

/-- An engine with the built-in kinds. -/
def builtin : Engine := { registry := .builtin }

/-- Set a variable. -/
def setVariable (engine : Engine) (name value : String) : Engine :=
  { engine with bindings := engine.bindings.insert name value }

/-- Give a name a rule set, in place of the one it had. -/
def insertSet (engine : Engine) (name : String) (set : RuleSet) : Engine :=
  { engine with sets := engine.sets.insert name set }

/-- Remove the rule set of a name. -/
def removeSet (engine : Engine) (name : String) : Engine :=
  { engine with sets := engine.sets.erase name }

/-- Register a kind. -/
def register (engine : Engine) (kind : RuleKind) : Except RegistryError Engine :=
  (engine.registry.register kind).map fun registry => { engine with registry }

/-- The rule that a line defines. -/
def parse (engine : Engine) (line : String) : Except RuleError Rule :=
  Rule.parse engine.registry engine.bindings line

/-- Test the rule set of a name, with at most `depth` sets nested.  The session starts
    with an empty report; the engine keeps its variables. -/
def test [PluginTests] (engine : Engine) (fs : FileSystem) (depth : Nat) (root : String)
    (input : Input) : Option Session :=
  enter engine.sets fs depth root input { bindings := engine.bindings }

/-- The engine after a test run. -/
def after (engine : Engine) (session : Session) : Engine :=
  { engine with bindings := session.bindings }

end Engine

end Rulebook
