/-
  Rulebook.Variables

  Named texts, and templates whose placeholders `{name}` stand for them.
-/
import Rulebook.NameMap
import Rulebook.Text.Split

namespace Rulebook

/-- The variables of a rulebook: a text for each name that was set.  A variable
    that was never set differs from one that holds the empty text. -/
abbrev Variables := NameMap String

namespace Variables

/-- Replace each placeholder of a template by the text that `value` gives for its
    name.  An opening brace that no closing brace follows stands for itself, and
    so does all that comes after it. -/
def expand (value : List Char → List Char) : List Char → List Char
  | [] => []
  | c :: rest =>
    if c = '{' then
      match _h : Text.splitFirst ['}'] rest with
      | some (name, after) => value name ++ expand value after
      | none => c :: rest
    else c :: expand value rest
termination_by template => template.length
decreasing_by
  · have := Text.length_lt_of_splitFirst (by simp) _h
    simp only [List.length_cons]
    omega
  · simp

/-- The text that stands for a placeholder: nothing if its variable is not set. -/
def text (bindings : Variables) (name : String) : String :=
  (bindings[name]?).getD ""

/-- A template with each placeholder replaced by the text of its variable. -/
def substitute (bindings : Variables) (template : String) : String :=
  String.ofList (expand (fun name => (bindings.text (String.ofList name)).toList)
    template.toList)

end Variables

end Rulebook
