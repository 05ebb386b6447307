/-
  Rulebook.Pattern.Search

  Searching a text for a pattern.
-/
import Rulebook.Pattern.Automaton
import Rulebook.Pattern.Openings
import Rulebook.Pattern.Parser
import Rulebook.Pattern.Places
import Rulebook.Pattern.Size

namespace Rulebook.Pattern

/-! ## Patterns that are not too large -/

/-- How many literals a choice has for which no automaton is needed. -/
def manyLiterals : Nat := 3000

/-- Whether an expression is a choice between a great many literals. -/
def Expr.isWordList (e : Expr) : Bool :=
  manyLiterals ≤ e.branches.length && e.branches.all fun branch =>
    match branch with
    | literal _ => true
    | _ => false

/-- An expression that matches in the same texts, and for which a search can be set up.  There
    is none if the automata for it would be too large. -/
def Expr.searchable? (e : Expr) : Option Expr :=
  match e.matches? with
  | some texts => some (oneOf (texts.map fun text => literal text.toList))
  | none => if e.isWordList || e.fits then some e else none

/-- What to search for, given a pattern, unless it is invalid or too large. -/
def compile? (pattern : String) : Option Expr :=
  (parse pattern).bind fun tree =>
    (tree.expr? {}).bind fun (e, _) => e.searchable?

/-! ## Searching -/

/-- Whether some repetition without an end has rounds of more than one character. -/
def Expr.hasLongRounds : Expr → Bool
  | empty | literal _ | one _ | look _ => false
  | concat first second | choice first second => first.hasLongRounds || second.hasLongRounds
  | repetition _ most _ body =>
    (most.isNone && body.singleTest?.isNone) || body.hasLongRounds
  | capture body => body.hasLongRounds

/-- How many characters a text has for which the number of rounds matters. -/
def longText : Nat := 1000

/-- Whether an expression matches somewhere in a text.  Sets of places are quick unless there
    may be many rounds. -/
def Expr.matchesIn (e : Expr) (text : String) : Bool :=
  let codes := text.toList.map Char.toNat
  if e.hasLongRounds && longText < codes.length then e.matchesByNodes codes
  else e.matchesAtPlaces codes

/-- Whether a pattern matches somewhere in a text; nothing if the pattern is invalid. -/
def search? (pattern text : String) : Option Bool :=
  (compile? pattern).map fun e => e.matchesIn text

end Rulebook.Pattern
