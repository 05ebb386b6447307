/-
  Rulebook.Kind.Counter

  A plugin: rules that count how often they are tested.  Like all plugins it is one choice among
  others, so it is an instance only where this namespace is open.
-/
import Rulebook.Evaluation

namespace Rulebook.Counter

/-- Rules that hold what their test comes to, with one setter, which replaces it. -/
scoped instance plugins : Plugins where
  State _ := Bool
  Setter _ := Unit
  kind _ := .boolean
  set? _ value := value.boolean?.map fun result _ => result
  decState _ := inferInstance
  decSetter _ := inferInstance

/-- The count that a text writes, if 64 bits hold it: digits that a plus sign may precede. -/
def count? (text : String) : Option UInt64 :=
  let digits := match text.toList with
    | '+' :: digits => digits
    | digits => digits
  (Decimal.natural? digits).bind fun n => if n < UInt64.size then some (.ofNat n) else none

/-- A test adds one to the variable `hits`, which counts from zero if it holds no count. -/
scoped instance tests : PluginTests where
  test result _ _ _ session :=
    let hits := (session.bindings["hits"]?).bind count?
    some (result, session.setVariable "hits" (toString (hits.getD 0 + 1)))

/-- Settings of counters of a concrete type. -/
def settings (type : String) (result : Bool) : Settings := .custom ⟨type, result⟩

/-- The kind of counters of a name and a concrete type. -/
def kind (name type : String) : RuleKind where
  name
  description := some "Counts"
  fields := [{ name := "result", description := "What to return", slot := @Slot.custom _ type () }]
  blank := settings type true

end Rulebook.Counter
