/-
  Rulebook.Plugins

  Rules that are not built in.  What they hold, how fields set it and what they do in a test
  is code of other programs.  It is a parameter of the library: whatever is said of all rules
  holds for every choice of it.
-/
import Rulebook.Value

namespace Rulebook

/-- Concrete types of rules that are not built in, each under a name.  A plugin that brings
    setters of its own for the data of a built-in type counts as one of these types too.  All
    definitions that come to rules take the plugins as an inferred argument, so that few of them
    have to name it. -/
class Plugins : Type 1 where
  /-- What a rule of a concrete type holds. -/
  State : String → Type
  /-- The setters for rules of a concrete type.  Kinds that share the type share its setters. -/
  Setter : String → Type
  /-- The kind of the values that a setter takes. -/
  kind {type : String} : Setter type → FieldKind
  /-- What a setter does with a value; nothing if the value does not fit its type. -/
  set? {type : String} : Setter type → Value → Option (State type → State type)
  /-- Whether two rules of a type hold the same, by choice if by no other means. -/
  decState (type : String) : DecidableEq (State type)
  decSetter (type : String) : DecidableEq (Setter type)

variable [Plugins]

instance (type : String) : DecidableEq (Plugins.State type) := Plugins.decState type
instance (type : String) : DecidableEq (Plugins.Setter type) := Plugins.decSetter type

/-- A rule that is not built in: its concrete type, and what it holds. -/
structure PluginRule where
  type : String
  state : Plugins.State type
  deriving DecidableEq

namespace PluginRule

/-- What a rule holds, if it is of the given concrete type. -/
def as? (rule : PluginRule) (type : String) : Option (Plugins.State type) :=
  if h : rule.type = type then some (h ▸ rule.state) else none

theorem as?_eq_some_iff {rule : PluginRule} {type : String} {state : Plugins.State type} :
    rule.as? type = some state ↔ rule = ⟨type, state⟩ := by
  obtain ⟨own, held⟩ := rule
  by_cases h : own = type
  · subst h
    simp [as?]
  · simp [as?, h]

theorem as?_type (rule : PluginRule) : rule.as? rule.type = some rule.state :=
  as?_eq_some_iff.mpr rfl

theorem as?_eq_none_iff {rule : PluginRule} {type : String} :
    rule.as? type = none ↔ rule.type ≠ type := by
  simp [as?]

end PluginRule

end Rulebook
