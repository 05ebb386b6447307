/-
  Rulebook.Rule

  Rules configured by rule lines.  A dynamic field keeps the template of its
  value, which is substituted and assigned again before each test.
-/
import Rulebook.Line.Definition
import Rulebook.Registry
import Rulebook.Variables

namespace Rulebook

/-- Why a rule line, or a dynamic field of a rule, was refused. -/
inductive RuleError
  | emptyLine
  | unknownKind (name : String)
  | coercion (error : CoercionError)
  /-- The settings of a rule do not have the form of its kind. -/
  | otherForm (kind : String)
  deriving DecidableEq, Repr

namespace RuleError

/-- The text of an error in a rule. -/
def message : RuleError → String
  | emptyLine => "parse error: empty rule definition"
  | unknownKind name => s!"parse error: unknown rule type '{name}'"
  | coercion error => error.message
  | otherForm kind => s!"parse error: rule is not an instance of '{kind}'"

end RuleError

/-- Why a line that is read token after token gives no rule. -/
inductive ScanError
  /-- The tokens end in front of a text that is none. -/
  | malformed
  | rule (error : RuleError)
  deriving DecidableEq, Repr

variable [Plugins]

/-- A configured rule. -/
structure Rule where
  kind : RuleKind
  settings : Settings
  /-- The templates of the dynamic fields. -/
  dynamic : Roster String
  deriving DecidableEq

namespace Rule

/-! ## Configuring a rule -/

/-- A rule with nothing assigned. -/
def ofKind (kind : RuleKind) : Rule := ⟨kind, kind.blank, ∅⟩

/-- Assign a text to a field.  The result is the changed rule, or nothing if no
    field was written. -/
def setField (rule : Rule) (field text : String) : Except CoercionError (Option Rule) :=
  (rule.kind.assign rule.settings field text).map
    (Option.map fun settings => { rule with settings })

/-- Keep a template for a dynamic field; the last one given counts. -/
def setDynamic (rule : Rule) (field template : String) : Rule :=
  { rule with dynamic := rule.dynamic.set field template }

/-- Whether a rule has dynamic fields. -/
def isDynamic (rule : Rule) : Bool := !rule.dynamic.entries.isEmpty

/-! ## Reading a rule line -/

/-- Carry out one assignment of a line. -/
def assign (bindings : Variables) (rule : Rule) (a : Line.Assignment) :
    Except CoercionError Rule :=
  let rule := if a.dynamic then rule.setDynamic a.field a.template else rule
  (rule.setField a.field (bindings.substitute a.template)).map (·.getD rule)

/-- The rule that results from carrying out assignments in order. -/
def assignAll (bindings : Variables) (rule : Rule) (assignments : List Line.Assignment) :
    Except CoercionError Rule :=
  assignments.foldlM (assign bindings) rule

/-- The rule that the tokens of a line define. -/
def ofTokens (registry : Registry) (bindings : Variables) (tokens : List String) :
    Except RuleError Rule :=
  match Line.Definition.ofTokens? (tokens.map String.toList) with
  | none => .error .emptyLine
  | some definition =>
    match registry.get? definition.kind with
    | none => .error (.unknownKind definition.kind)
    | some kind =>
      (assignAll bindings (ofKind kind) definition.assignments).mapError .coercion

/-- The rule of a line that is read token after token. -/
def scan (registry : Registry) (bindings : Variables) (line : String) : Except ScanError Rule :=
  match Line.tokenize? line with
  | none => .error .malformed
  | some tokens => (ofTokens registry bindings tokens).mapError .rule

/-- No line is malformed: its tokens are read to its end. -/
theorem scan_eq_ofTokens (registry : Registry) (bindings : Variables) (line : String) :
    scan registry bindings line =
      (ofTokens registry bindings (Line.tokens line)).mapError .rule := by
  rw [scan, Line.tokenize?_eq_some]

theorem scan_ne_malformed (registry : Registry) (bindings : Variables) (line : String) :
    scan registry bindings line ≠ .error .malformed := by
  rw [scan_eq_ofTokens]
  cases ofTokens registry bindings (Line.tokens line) with
  | ok rule => exact nofun
  | error e => exact nofun

/-- The rule that a line defines. -/
def parse (registry : Registry) (bindings : Variables) (line : String) : Except RuleError Rule :=
  match h : scan registry bindings line with
  | .ok rule => .ok rule
  | .error (.rule error) => .error error
  | .error .malformed => absurd h (scan_ne_malformed registry bindings line)

theorem parse_eq_ofTokens (registry : Registry) (bindings : Variables) (line : String) :
    parse registry bindings line = ofTokens registry bindings (Line.tokens line) := by
  have hscan := scan_eq_ofTokens registry bindings line
  unfold parse
  cases hresult : ofTokens registry bindings (Line.tokens line) with
  | ok rule =>
    rw [hresult] at hscan
    split
    · next hok =>
      cases hok.symm.trans hscan
      rfl
    · next herror => cases herror.symm.trans hscan
    · next herror => cases herror.symm.trans hscan
  | error e =>
    rw [hresult] at hscan
    split
    · next hok => cases hok.symm.trans hscan
    · next herror =>
      cases herror.symm.trans hscan
      rfl
    · next herror => cases herror.symm.trans hscan

/-- What a line says decides which rule it defines. -/
theorem parse_eq_read? (registry : Registry) (bindings : Variables) (line : String) :
    parse registry bindings line =
      match Line.Definition.read? line with
      | none => .error .emptyLine
      | some definition =>
        match registry.get? definition.kind with
        | none => .error (.unknownKind definition.kind)
        | some kind =>
          (assignAll bindings (ofKind kind) definition.assignments).mapError .coercion := by
  rw [parse_eq_ofTokens, ofTokens, Line.map_toList_tokens, Line.Definition.read?]

/-! ## Resolving dynamic fields -/

/-- Assign the substituted templates of dynamic fields, in order. -/
def replay (kind : RuleKind) (bindings : Variables) (settings : Settings)
    (templates : List (String × String)) : Except CoercionError Settings :=
  templates.foldlM (fun settings (field, template) =>
    (kind.assign settings field (bindings.substitute template)).map (·.getD settings)) settings

/-- The settings of a rule with its dynamic fields substituted anew. -/
def resolve (rule : Rule) (bindings : Variables) : Except RuleError Settings :=
  match rule.kind.copy? rule.settings with
  | none => .error (.otherForm rule.kind.name)
  | some settings =>
    (replay rule.kind bindings settings rule.dynamic.entries).mapError .coercion

end Rule

end Rulebook
