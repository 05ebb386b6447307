/-
  Rulebook.Pattern.Bracket

  Reading a class in brackets.
-/
import Rulebook.Pattern.Escape

namespace Rulebook.Pattern

/-! ## Named classes -/

/-- The class of ASCII characters with a name. -/
def AsciiClass.ofName? (name : String) : Option AsciiClass :=
  match name with
  | "alnum" => some .alnum
  | "alpha" => some .alpha
  | "ascii" => some .ascii
  | "blank" => some .blank
  | "cntrl" => some .cntrl
  | "digit" => some .digit
  | "graph" => some .graph
  | "lower" => some .lower
  | "print" => some .print
  | "punct" => some .punct
  | "space" => some .space
  | "upper" => some .upper
  | "word" => some .word
  | "xdigit" => some .xdigit
  | _ => none

/-- A named class behind its opening bracket: `:name:]`, with `^` in front of the name if
    it is negated. -/
def asciiClass? (s : List Char) : Option (ClassTree × List Char) :=
  match s with
  | ':' :: rest =>
    let (negated, rest) := match rest with
      | '^' :: rest => (true, rest)
      | rest => (false, rest)
    match rest.dropWhile (· != ':') with
    | ':' :: ']' :: after =>
      (AsciiClass.ofName? (String.ofList (rest.takeWhile (· != ':')))).map fun name =>
        (.ascii name negated, after)
    | _ => none
  | _ => none

/-! ## Items -/

/-- One item: an escape, or a character that stands for itself.  Anchors have no meaning
    between brackets. -/
def classItem (verbose : Bool) : List Char → Option (ClassTree × List Char)
  | [] => none
  | '\\' :: rest =>
    (escape verbose rest).bind fun (escaped, rest) =>
      match escaped with
      | .literal l => some (.literal l, rest)
      | .shorthand name negated => some (.shorthand name negated, rest)
      | .property name negated => some (.property name negated, rest)
      | .anchor _ => none
  | c :: rest => some (.literal ⟨c, false⟩, rest)

/-- The first character of what follows that has a meaning.  In a comment only its first
    word is passed over. -/
def peek (verbose : Bool) (s : List Char) : Option Char :=
  if verbose then
    match Text.skipBlanks s with
    | '#' :: rest => (Text.skipBlanks rest).head?
    | s => s.head?
  else s.head?

/-- An item, or the range between two characters.  A dash in front of the closing bracket
    or of another dash makes no range. -/
def classRange (verbose : Bool) (s : List Char) : Option (ClassTree × List Char) :=
  (classItem verbose s).bind fun (first, rest) =>
    match skip verbose rest with
    | [] => none
    | '-' :: more =>
      if peek verbose more = some ']' ∨ peek verbose more = some '-' then
        some (first, '-' :: more)
      else
        (classItem verbose (skip verbose more)).bind fun (second, rest) =>
          match first, second with
          | .literal low, .literal high =>
            if low.char ≤ high.char then some (.range low high, rest) else none
          | _, _ => none
    | rest => some (first, rest)

/-! ## Brackets -/

/-- The start of a class behind its bracket: whether it is negated, and the items that are
    special there.  Dashes in the first places stand for themselves, and so does a closing
    bracket in the first place. -/
def openBracket (verbose : Bool) (s : List Char) : Option (Bool × List ClassTree × List Char) :=
  let (negated, rest) := match skip verbose s with
    | '^' :: rest => (true, skip verbose rest)
    | rest => (false, rest)
  match takeWhileSkipping verbose (· == '-') rest with
  | ([], ']' :: rest) => some (negated, [.literal ⟨']', false⟩], skip verbose rest)
  | (dashes, rest) =>
    if rest.isEmpty then none else some (negated, dashes.map fun c => .literal ⟨c, false⟩, rest)

/-- The class of what was read of a bracket: the items in reverse order, behind an operator
    and its left side, if there is one. -/
def closeItems (pending : Option (SetOperator × ClassTree)) (items : List ClassTree) :
    ClassTree :=
  match pending with
  | none => .ofItems items.reverse
  | some (operator, left) => .combine operator left (.ofItems items.reverse)

/-- Read a class up to its closing bracket, behind the given items (in reverse order).
    Operators group to the left.  `fuel` bounds the number of items. -/
def bracketBody (verbose : Bool) :
    Nat → Option (SetOperator × ClassTree) → List ClassTree → List Char →
      Option (ClassTree × List Char)
  | 0, _, _, _ => none
  | fuel + 1, pending, items, s =>
    match skip verbose s with
    | [] => none
    | ']' :: rest => some (closeItems pending items, rest)
    | '[' :: rest =>
      match asciiClass? rest with
      | some (item, rest) => bracketBody verbose fuel pending (item :: items) rest
      | none =>
        (openBracket verbose rest).bind fun (negated, inner, rest) =>
          (bracketBody verbose fuel none inner.reverse rest).bind fun (body, rest) =>
            bracketBody verbose fuel pending (.bracket negated body :: items) rest
    | '&' :: '&' :: rest =>
      bracketBody verbose fuel (some (.inter, closeItems pending items)) [] rest
    | '-' :: '-' :: rest =>
      bracketBody verbose fuel (some (.diff, closeItems pending items)) [] rest
    | '~' :: '~' :: rest =>
      bracketBody verbose fuel (some (.symmDiff, closeItems pending items)) [] rest
    | s =>
      (classRange verbose s).bind fun (item, rest) =>
        bracketBody verbose fuel pending (item :: items) rest

/-- Read a class behind its opening bracket.  `fuel` bounds the number of its items. -/
def bracket (verbose : Bool) (fuel : Nat) (s : List Char) : Option (Tree × List Char) :=
  (openBracket verbose s).bind fun (negated, items, rest) =>
    (bracketBody verbose fuel none items.reverse rest).map fun (body, rest) =>
      (.bracket negated body, rest)

end Rulebook.Pattern
