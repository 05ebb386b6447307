/-
  Rulebook.Kind.Custom

  Custom kinds of rules, declared by data, for programs that bring no plugins of their own.  A
  rule of such a kind stores the text of each field that is assigned to it, and its test carries
  out what these texts ask for.
-/
import Rulebook.Evaluation

namespace Rulebook

/-- A field that is stored: the name that it is stored under, and the type that it has. -/
structure StoredField where
  name : String
  type : FieldType
  deriving DecidableEq, Repr

/-- The plugins of custom kinds that are declared by data.  Rules of all concrete types hold
    texts under names, and a setter overwrites the text under its own name. -/
instance storedPlugins : Plugins where
  State _ := NameMap String
  Setter _ := StoredField
  kind field := field.type.kind
  set? field value := (field.type.store value).map fun text texts => texts.insert field.name text
  decState _ := inferInstance
  decSetter _ := inferInstance

/-- The concrete type of the kinds that name no other. -/
def storedType : String := "stored"

/-- The slot that stores a text of the given type under a name. -/
abbrev Slot.stored (name : String) (type : FieldType) (concrete : String := storedType) : Slot :=
  @custom _ concrete ⟨name, type⟩

/-- The settings of a custom kind that hold the given texts. -/
abbrev Settings.stored (texts : NameMap String) (concrete : String := storedType) : Settings :=
  .custom ⟨concrete, texts⟩

/-- The text that a rule stores under a name. -/
def PluginRule.text? (rule : PluginRule) (name : String) : Option String :=
  Std.ExtTreeMap.get? rule.state name

/-- The names that a rule stores texts under, in increasing order, with the texts. -/
def PluginRule.toList (rule : PluginRule) : List (String × String) :=
  Std.ExtTreeMap.toList rule.state

/-! ## Kinds -/

/-- The declaration of a field of a custom kind. -/
structure CustomField where
  name : String
  description : String := ""
  required : Bool := false
  default : Option String := none
  type : FieldType
  deriving DecidableEq, Repr

namespace CustomField

/-- The field that stores what is assigned to it under its own name. -/
def toField (field : CustomField) : Field :=
  { name := field.name, description := field.description, required := field.required,
    default := field.default, slot := .stored field.name field.type }

end CustomField

/-- The kind whose rules store the texts of the given fields. -/
def RuleKind.custom (name : String) (description : Option String) (fields : List CustomField) :
    RuleKind :=
  { name, description, fields := fields.map CustomField.toField, blank := .stored ∅ }

/-! ## Tests -/

/-- Set a variable named by a text, if there is one. -/
def Session.setIfNamed (session : Session) (name : Option String) (value : String) : Session :=
  match name with
  | some name => session.setVariable name value
  | none => session

/-- Carry out what the texts stored by a rule of a custom kind ask for, in this order:
    set a variable, add to the log, run sets on the same input, run sets on a stored
    text, and set a variable to the summary of the report.  The rule fails if its
    stored result is `false`. -/
def runStored (run : Runner) (stored : NameMap String) (input : Input) (session : Session) :
    Option (Bool × Session) := do
  let session := session.setIfNamed stored["var"]? (stored["value"]?.getD "")
  let session := match stored["log"]? with
    | some entry =>
      session.setVariable "log"
        (session.bindings["log"]?.getD "-" ++ "|" ++ entry ++ ":" ++ input.text)
    | none => session
  let session ← match stored["targets"]? with
    | some targets => run.call targets input session
    | none => some session
  let session ← match stored["call-with"]? with
    | some text => run.call (stored["then"]?.getD "") (.string text) session
    | none => some session
  let session := session.setIfNamed stored["report"]? session.report.summary
  some (stored["result"]? != some "false", session)

instance storedTests : PluginTests where
  test texts _ run input session := runStored run texts input session

end Rulebook
