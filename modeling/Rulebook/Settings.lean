/-
  Rulebook.Settings

  What a configured rule holds, form by form, and the slots that fields write.  Each slot of a
  built-in form overwrites one part of the settings; the other slots are setters of plugins.
-/
import Rulebook.Issue
import Rulebook.Plugins

namespace Rulebook

/-! ## Settings -/

/-- Settings of a guard: a text, and the pattern that it has to match, or must not
    match if `inverse`. -/
structure GuardSettings where
  value : Option String := none
  pattern : Option String := none
  inverse : Bool := false
  deriving DecidableEq, Repr

/-- Settings of a rule that prints a message. -/
structure PrintSettings where
  message : Option String := none
  deriving DecidableEq, Repr

/-- Settings of a rule that records an issue. -/
structure IssueSettings where
  kind : IssueKind
  key : Option String := none
  message : Option String := none
  path : Option String := none
  deriving DecidableEq, Repr

/-- Settings of a file filter. -/
structure FilterSettings where
  /-- The rule sets that run for each path that passes. -/
  targets : Option String := none
  name : Option String := none
  path : Option String := none
  file : Bool := false
  folder : Bool := false
  inverse : Bool := false
  childrenFiles : Bool := false
  childrenFolders : Bool := false
  nameVariable : String := "file-name"
  pathVariable : String := "file-path"
  deriving DecidableEq, Repr

variable [Plugins]

/-- What a configured rule holds. -/
inductive Settings
  | guard (settings : GuardSettings)
  | print (settings : PrintSettings)
  | issue (settings : IssueSettings)
  | filter (settings : FilterSettings)
  /-- Settings of a custom kind: a rule of a plugin. -/
  | custom (rule : PluginRule)
  deriving DecidableEq

/-- The form of some settings.  Warnings and problems share one form, and so do the custom
    kinds of one concrete type. -/
inductive Form
  | guard
  | print
  | issue
  | filter
  | custom (type : String)
  deriving DecidableEq, Repr

namespace Form

/-- The form is that of custom kinds. -/
def IsCustom : Form → Prop
  | custom _ => True
  | _ => False

instance : DecidablePred IsCustom
  | custom _ => isTrue trivial
  | guard | print | issue | filter => isFalse id

end Form

namespace Settings

/-- The form of some settings. -/
def form : Settings → Form
  | guard _ => .guard
  | print _ => .print
  | issue _ => .issue
  | filter _ => .filter
  | custom rule => .custom rule.type

end Settings

/-! ## Slots -/

/-- A part of the settings that a field writes. -/
inductive Slot
  | guardValue
  | guardPattern
  | guardInverse
  | printMessage
  | issueKey
  | issueMessage
  | issuePath
  | filterTargets
  | filterName
  | filterPath
  | filterFile
  | filterFolder
  | filterInverse
  | filterChildrenFiles
  | filterChildrenFolders
  | filterNameVariable
  | filterPathVariable
  /-- What a setter writes in rules of a concrete type. -/
  | custom {type : String} (setter : Plugins.Setter type)
  deriving DecidableEq

/-- What comes of writing a slot. -/
inductive Written
  | done (settings : Settings)
  /-- The settings are of another form. -/
  | otherForm
  /-- The slot does not hold the value. -/
  | outOfRange
  deriving DecidableEq

namespace Written

/-- Written with the part that a value yields, if it yields one. -/
def ofPart {α : Type} (build : α → Settings) : Option α → Written
  | some part => done (build part)
  | none => outOfRange

end Written

namespace Slot

/-- The form of the settings that a slot is part of. -/
def form : Slot → Form
  | guardValue | guardPattern | guardInverse => .guard
  | printMessage => .print
  | issueKey | issueMessage | issuePath => .issue
  | filterTargets | filterName | filterPath | filterFile | filterFolder | filterInverse
  | filterChildrenFiles | filterChildrenFolders | filterNameVariable | filterPathVariable => .filter
  | @custom _ type _ => .custom type

/-- The kind of the fields that write a slot. -/
def kind : Slot → FieldKind
  | guardInverse | filterFile | filterFolder | filterInverse | filterChildrenFiles
  | filterChildrenFolders => .boolean
  | custom setter => Plugins.kind setter
  | _ => .string

/-- Write a value into the part of guard settings that a slot names. -/
def writeGuard (s : GuardSettings) (value : Value) : Slot → Written
  | guardValue => .ofPart (fun t => .guard { s with value := some t }) value.string?
  | guardPattern => .ofPart (fun t => .guard { s with pattern := some t }) value.string?
  | guardInverse => .ofPart (fun b => .guard { s with inverse := b }) value.boolean?
  | _ => .otherForm

/-- Write a value into the part of print settings that a slot names. -/
def writePrint (value : Value) : Slot → Written
  | printMessage => .ofPart (fun t => .print { message := some t }) value.string?
  | _ => .otherForm

/-- Write a value into the part of issue settings that a slot names. -/
def writeIssue (s : IssueSettings) (value : Value) : Slot → Written
  | issueKey => .ofPart (fun t => .issue { s with key := some t }) value.string?
  | issueMessage => .ofPart (fun t => .issue { s with message := some t }) value.string?
  | issuePath => .ofPart (fun t => .issue { s with path := some t }) value.string?
  | _ => .otherForm

/-- Write a value into the part of filter settings that a slot names. -/
def writeFilter (s : FilterSettings) (value : Value) : Slot → Written
  | filterTargets => .ofPart (fun t => .filter { s with targets := some t }) value.string?
  | filterName => .ofPart (fun t => .filter { s with name := some t }) value.string?
  | filterPath => .ofPart (fun t => .filter { s with path := some t }) value.string?
  | filterFile => .ofPart (fun b => .filter { s with file := b }) value.boolean?
  | filterFolder => .ofPart (fun b => .filter { s with folder := b }) value.boolean?
  | filterInverse => .ofPart (fun b => .filter { s with inverse := b }) value.boolean?
  | filterChildrenFiles => .ofPart (fun b => .filter { s with childrenFiles := b }) value.boolean?
  | filterChildrenFolders =>
    .ofPart (fun b => .filter { s with childrenFolders := b }) value.boolean?
  | filterNameVariable => .ofPart (fun t => .filter { s with nameVariable := t }) value.string?
  | filterPathVariable => .ofPart (fun t => .filter { s with pathVariable := t }) value.string?
  | _ => .otherForm

/-- Let the setter that a slot names write a value, if it is one for rules of this concrete
    type. -/
def writeCustom (rule : PluginRule) (value : Value) : Slot → Written
  | @custom _ type setter =>
    match rule.as? type with
    | some state => .ofPart (fun set => .custom ⟨type, set state⟩) (Plugins.set? setter value)
    | none => .otherForm
  | _ => .otherForm

/-- Write a value into the part of the settings that a slot names. -/
def write (slot : Slot) (value : Value) : Settings → Written
  | .guard s => slot.writeGuard s value
  | .print _ => slot.writePrint value
  | .issue s => slot.writeIssue s value
  | .filter s => slot.writeFilter s value
  | .custom rule => slot.writeCustom rule value

end Slot

end Rulebook
