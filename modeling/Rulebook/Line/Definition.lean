/-
  Rulebook.Line.Definition

  What a rule line says: a kind and a list of field assignments.  A token that
  starts with `--` names a field, with a `$` at its end if the field is dynamic;
  the tokens up to the next such token, joined by spaces, are its value.
-/
import Rulebook.Line.Token

namespace Rulebook.Line

/-- One field of a rule line, with the template of its value. -/
structure Assignment where
  field : String
  dynamic : Bool
  template : String
  deriving DecidableEq, Repr

/-- What a rule line says. -/
structure Definition where
  kind : String
  assignments : List Assignment
  deriving DecidableEq, Repr

/-! ## Parts of a line -/

/-- The name that a token gives to a field. -/
def fieldToken? : List Char → Option (List Char)
  | '-' :: '-' :: name => some name
  | _ => none

/-- A field name without the mark of a dynamic field, and whether it has the mark. -/
def unmark (name : List Char) : List Char × Bool :=
  if name.getLast? = some '$' then (name.dropLast, true) else (name, false)

/-- A value without its quotes: one that starts with a quote loses its first and
    its last character. -/
def unquote : List Char → List Char
  | '\'' :: inner => inner.dropLast
  | value => value

/-- The template that the value tokens of a field make up.  A field without a value
    is a flag, and stands for `true`. -/
def templateOf : List (List Char) → List Char
  | [] => "true".toList
  | values => unquote ([' '].intercalate values)

/-- The assignment that a field token and its value tokens make up. -/
def Assignment.ofTokens (name : List Char) (values : List (List Char)) : Assignment :=
  let (field, dynamic) := unmark name
  ⟨String.ofList field, dynamic, String.ofList (templateOf values)⟩

/-- The assignments among the tokens behind the kind.  Tokens in front of the first
    field have no meaning. -/
def assignmentsOf : List (List Char) → List Assignment
  | [] => []
  | token :: rest =>
    match fieldToken? token with
    | some name =>
      .ofTokens name (rest.takeWhile fun t => (fieldToken? t).isNone) :: assignmentsOf rest
    | none => assignmentsOf rest

/-- What the tokens of a line say; nothing if there are none. -/
def Definition.ofTokens? : List (List Char) → Option Definition
  | [] => none
  | kind :: rest => some ⟨String.ofList kind, assignmentsOf rest⟩

/-- What a rule line says; nothing if it is blank. -/
def Definition.read? (line : String) : Option Definition :=
  ofTokens? (tokensOf line.toList)

end Rulebook.Line
