/-
  Rulebook.Document.Basic

  Configuration documents: variables and rule sets by name, and the entries that
  were skipped because their JSON type was wrong.
-/
import Rulebook.Json.Reader

namespace Rulebook

/-! ## Documents -/

/-- A rule set as a document gives it. -/
structure SetEntry where
  /-- A disabled set is never loaded. -/
  enabled : Bool := true
  /-- The rule lines, in order. -/
  rules : List String := []
  /-- The names of child sets; one text may hold several. -/
  children : List String := []
  deriving DecidableEq, Repr

/-- The lists of a rule set entry. -/
inductive ListField
  | rules
  | children
  deriving DecidableEq, Repr

/-- A place in a document. -/
inductive Location
  | allVariables
  | oneVariable (name : String)
  | allSets
  | oneSet (name : String)
  | enabled (set : String)
  | list (set : String) (field : ListField)
  | item (set : String) (field : ListField) (index : Nat)
  deriving DecidableEq, Repr

namespace ListField

/-- The name of a list. -/
def text : ListField → String
  | rules => "rules"
  | children => "children"

end ListField

namespace Location

/-- The text of a place: the names of the members that lead to it. -/
def text : Location → String
  | allVariables => "variables"
  | oneVariable name => "variables." ++ name
  | allSets => "rulesets"
  | oneSet name => "rulesets." ++ name
  | enabled set => "rulesets." ++ set ++ ".enabled"
  | list set field => "rulesets." ++ set ++ "." ++ field.text
  | item set field index => "rulesets." ++ set ++ "." ++ field.text ++ s!"[{index}]"

end Location

/-- An entry that was skipped because of its JSON type. -/
structure Ignored where
  location : Location
  value : Json

/-- A configuration document. -/
structure Document where
  bindings : NameMap String := ∅
  sets : NameMap SetEntry := ∅
  /-- The skipped entries, in the order in which reading met them. -/
  ignored : List Ignored := []

/-! ## Reading a document -/

/-- Why a text is not a document. -/
inductive DocumentError
  | notJson
  /-- The text is JSON, but not an object. -/
  | notObject (found : Json)

namespace DocumentError

/-- The text of an error in a document, for a value that is not an object. -/
def message : DocumentError → String
  | notJson => "config error: not a JSON text"
  | notObject found =>
    "config error: expected a configuration object, found " ++ found.description

end DocumentError

namespace Document

/-- The text that a variable gets from a JSON value. -/
def variableText? : Json → Option String
  | .string s => some s
  | .number n => some n.text
  | .bool b => some (if b then "true" else "false")
  | _ => none

/-- The variables among some members, and the members that hold no text. -/
def readVariables : List (String × Json) → List (String × String) × List Ignored
  | [] => ([], [])
  | (name, value) :: rest =>
    let (bindings, ignored) := readVariables rest
    match variableText? value with
    | some text => ((name, text) :: bindings, ignored)
    | none => (bindings, ⟨.oneVariable name, value⟩ :: ignored)

/-- The texts among the items of a list, the first of which has the given index, and
    the items that are not texts. -/
def readItems (set : String) (field : ListField) : Nat → List Json → List String × List Ignored
  | _, [] => ([], [])
  | index, value :: rest =>
    let (texts, ignored) := readItems set field (index + 1) rest
    match value with
    | .string s => (s :: texts, ignored)
    | _ => (texts, ⟨.item set field index, value⟩ :: ignored)

/-- The texts of a list.  A lone text is a list of one. -/
def readList (set : String) (field : ListField) : Option Json → List String × List Ignored
  | none | some .null => ([], [])
  | some (.array items) => readItems set field 0 items
  | some (.string s) => ([s], [])
  | some value => ([], [⟨.list set field, value⟩])

/-- Whether a set is enabled, which it is unless it says that it is not. -/
def readEnabled (set : String) : Option Json → Bool × List Ignored
  | none | some .null => (true, [])
  | some (.bool b) => (b, [])
  | some value => (true, [⟨.enabled set, value⟩])

/-- The rule set of a member.  A member of the wrong type gives an empty set. -/
def readSet (name : String) : Json → SetEntry × List Ignored
  | .object members =>
    let members := NameMap.ofEntries members
    let (enabled, ignoredFlag) := readEnabled name members["enabled"]?
    let (rules, ignoredRules) := readList name .rules members["rules"]?
    let (children, ignoredChildren) := readList name .children members["children"]?
    (⟨enabled, rules, children⟩, ignoredFlag ++ ignoredRules ++ ignoredChildren)
  | .null => ({}, [])
  | value => ({}, [⟨.oneSet name, value⟩])

/-- The rule sets of some members. -/
def readSets : List (String × Json) → List (String × SetEntry) × List Ignored
  | [] => ([], [])
  | (name, value) :: rest =>
    let (set, ignored) := readSet name value
    let (sets, ignoredRest) := readSets rest
    ((name, set) :: sets, ignored ++ ignoredRest)

/-- The members of a value that should be an object; absent and null are empty. -/
def section? (location : Location) : Option Json → List (String × Json) × List Ignored
  | none | some .null => ([], [])
  | some (.object members) => ((NameMap.ofEntries members).toList, [])
  | some value => ([], [⟨location, value⟩])

/-- The document of a JSON object. -/
def ofMembers (members : Json.Members) : Document :=
  let (variableMembers, ignoredVariables) := section? .allVariables members["variables"]?
  let (bindings, ignoredTexts) := readVariables variableMembers
  let (setMembers, ignoredSets) := section? .allSets members["rulesets"]?
  let (sets, ignoredEntries) := readSets setMembers
  { bindings := NameMap.ofEntries bindings
    sets := NameMap.ofEntries sets
    ignored := ignoredVariables ++ ignoredTexts ++ (ignoredSets ++ ignoredEntries) }

/-- The document that a text holds.  If the text starts with a value that is not an
    object, what follows that value does not matter. -/
def read (text : String) : Except DocumentError Document :=
  match Json.readFirst text.toList with
  | none => .error .notJson
  | some (.object members, rest) =>
    if (Json.skipSpace rest).isEmpty then .ok (ofMembers (NameMap.ofEntries members))
    else .error .notJson
  | some (value, _) => .error (.notObject value)

/-! ## Writing a document -/

/-- The JSON value of a rule set. -/
def setJson (set : SetEntry) : Json :=
  .object [("children", .array (set.children.map .string)), ("enabled", .bool set.enabled),
    ("rules", .array (set.rules.map .string))]

/-- The members of the JSON object of a document. -/
def toMembers (document : Document) : Json.Members :=
  NameMap.ofEntries
    [("variables", .object (document.bindings.toList.map fun (name, text) =>
        (name, .string text))),
     ("rulesets", .object (document.sets.toList.map fun (name, set) => (name, setJson set)))]

end Document

end Rulebook
