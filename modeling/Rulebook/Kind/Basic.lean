/-
  Rulebook.Kind.Basic

  Kinds of rules: the fields that a rule line may give, the settings that a rule
  starts from, and how the text of a field is assigned.
-/
import Rulebook.Settings

namespace Rulebook

variable [Plugins]

/-! ## Fields and kinds -/

/-- A field of a kind of rules.  What is said of it beside its name and the
    slot that it writes is documentation. -/
structure Field where
  name : String
  description : String
  required : Bool := false
  default : Option String := none
  slot : Slot
  deriving DecidableEq

namespace Field

/-- The kind of a field: that of its slot. -/
def kind (field : Field) : FieldKind := field.slot.kind

end Field

/-- A kind of rules. -/
structure RuleKind where
  name : String
  description : Option String := none
  fields : List Field
  /-- The settings of a rule of this kind before any field is assigned. -/
  blank : Settings
  deriving DecidableEq

/-- A text that does not fit the field that it was given for. -/
structure CoercionError where
  field : String
  value : String
  kind : FieldKind
  deriving DecidableEq, Repr

namespace CoercionError

/-- The text of an error in a field. -/
def message (e : CoercionError) : String :=
  s!"parse error: cannot convert '{e.value}' to {e.kind.text} for field '{e.field}'"

end CoercionError

namespace RuleKind

/-! ## Using a kind -/

/-- The form of the settings of a kind. -/
def form (kind : RuleKind) : Form := kind.blank.form

/-- The first field of a name. -/
def field? (kind : RuleKind) (name : String) : Option Field :=
  kind.fields.find? (·.name == name)

/-- Assign a text to a field.  The result holds the new settings, or nothing if the
    kind has no such field or the settings are of another form. -/
def assign (kind : RuleKind) (settings : Settings) (field text : String) :
    Except CoercionError (Option Settings) :=
  match kind.field? field with
  | none => .ok none
  | some f =>
    match f.kind.coerce text with
    | none => .error ⟨field, text, f.kind⟩
    | some value =>
      match f.slot.write value settings with
      | .done settings' => .ok (some settings')
      | .otherForm => .ok none
      | .outOfRange => .error ⟨field, text, f.kind⟩

/-- A copy of some settings, if they have the form of this kind. -/
def copy? (kind : RuleKind) (settings : Settings) : Option Settings :=
  if settings.form = kind.form then some settings else none

/-! ## Validity -/

/-- Why a kind cannot be used in rule lines. -/
inductive Flaw
  | emptyName
  | blankInName
  | dashedName
  | fieldNotToken (field : String)
  | fieldMarked (field : String)
  | fieldRepeated (field : String)
  deriving DecidableEq, Repr

namespace Flaw

/-- The reason that is given for a flaw. -/
def reason : Flaw → String
  | emptyName => "name must not be empty"
  | blankInName => "name must not contain whitespace"
  | dashedName => "name must not start with '--'"
  | fieldNotToken field => s!"field name '{field}' is not a single token"
  | fieldMarked field => s!"field name '{field}' must not end with '$'"
  | fieldRepeated field => s!"field '{field}' is declared twice"

end Flaw

/-- Whether a blank is among the characters of a name. -/
def hasBlank (name : String) : Bool := name.toList.any Text.isBlank

/-- The first flaw of some fields, given the names of those in front of them. -/
def fieldFlaw? (seen : List String) : List Field → Option Flaw
  | [] => none
  | field :: rest =>
    if field.name.isEmpty || hasBlank field.name then some (.fieldNotToken field.name)
    else if field.name.toList.getLast? = some '$' then some (.fieldMarked field.name)
    else if field.name ∈ seen then some (.fieldRepeated field.name)
    else fieldFlaw? (field.name :: seen) rest

/-- The first flaw of a kind. -/
def flaw? (kind : RuleKind) : Option Flaw :=
  if kind.name.isEmpty then some .emptyName
  else if hasBlank kind.name then some .blankInName
  else if ['-', '-'].isPrefixOf kind.name.toList then some .dashedName
  else fieldFlaw? [] kind.fields

/-! ## Documentation -/

/-- The line of a field in the reference. -/
def fieldLine (field : Field) : String :=
  let required := if field.required then " (Required)" else ""
  let default := match field.default with
    | some text => s!" (Default = {text})"
    | none => ""
  s!"   {field.name}{required}: {field.description}{default}\n"

/-- The entry of a kind in the reference: a line with its name, a line for each
    field, and an empty line. -/
def documentation (kind : RuleKind) : String :=
  let title := match kind.description with
    | some text => s!"--{kind.name} ({text})\n"
    | none => s!"--{kind.name}\n"
  title ++ String.join (kind.fields.map fieldLine) ++ "\n"

end RuleKind

end Rulebook
