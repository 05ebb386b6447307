/-
  Rulebook.Registry

  The kinds of rules that rule lines may name, in the order in which their names
  were first accepted.
-/
import Rulebook.Kind.Builtin
import Rulebook.Roster

namespace Rulebook

/-- A kind that cannot be registered. -/
structure RegistryError where
  kind : String
  flaw : RuleKind.Flaw
  deriving DecidableEq, Repr

namespace RegistryError

/-- The text of an error in a kind. -/
def message (e : RegistryError) : String := s!"invalid rule type '{e.kind}': {e.flaw.reason}"

end RegistryError

variable [Plugins]

/-- The registered kinds by name. -/
structure Registry where
  kinds : Roster RuleKind
  deriving DecidableEq

namespace Registry

/-- No kinds. -/
def empty : Registry := ⟨∅⟩

instance : EmptyCollection Registry := ⟨empty⟩
instance : Inhabited Registry := ⟨empty⟩

/-- The registered names, in the order of their first acceptance. -/
def names (registry : Registry) : List String := registry.kinds.names

/-- The number of kinds. -/
def size (registry : Registry) : Nat := registry.kinds.size

/-- The kind of a name. -/
def get? (registry : Registry) (name : String) : Option RuleKind := registry.kinds.get? name

/-- The kinds, in the order in which their names were first accepted. -/
def toList (registry : Registry) : List RuleKind := registry.kinds.entries.map Prod.snd

/-- Add a kind if it has no flaw.  It takes the place of a kind of its name. -/
def register (registry : Registry) (kind : RuleKind) : Except RegistryError Registry :=
  match kind.flaw? with
  | some flaw => .error ⟨kind.name, flaw⟩
  | none => .ok ⟨registry.kinds.set kind.name kind⟩

/-- Add kinds up to the first that has a flaw.  The result holds those added, and
    the error that ended it. -/
def registerAll (registry : Registry) : List RuleKind → Registry × Option RegistryError
  | [] => (registry, none)
  | kind :: rest =>
    match registry.register kind with
    | .ok registry' => registry'.registerAll rest
    | .error e => (registry, some e)

/-- Add the built-in kinds. -/
def registerBuiltins (registry : Registry) : Registry × Option RegistryError :=
  registry.registerAll RuleKind.builtins

/-- The built-in kinds. -/
def builtin : Registry := (empty.registerBuiltins).1

/-- The reference of all kinds. -/
def documentation (registry : Registry) : String :=
  String.join (registry.toList.map RuleKind.documentation)

end Registry

end Rulebook
