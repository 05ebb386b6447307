/-
  Rulebook.Pattern.Parser

  Reading a pattern.  A pattern is refused if any part of it is: there is one
  result for all errors.
-/
import Rulebook.Pattern.Bracket
import Rulebook.Unicode.Property

namespace Rulebook.Pattern

/-! ## Repetitions -/

/-- The largest count that a repetition may have. -/
def maxCount : Nat := Nat.pow 2 32 - 1

/-- The number of a repetition, which blanks may surround.  By how much it is too large does
    not matter. -/
def count? (verbose : Bool) (s : List Char) : Option (Nat × List Char) :=
  let (digits, rest) := takeWhileSkipping verbose Char.isDigit (Text.skipBlanks s)
  let n := digits.foldl (fun n c => min (10 * n + (c.toNat - '0'.toNat)) (maxCount + 1)) 0
  if digits.isEmpty ∨ maxCount < n then none else some (n, Text.skipBlanks rest)

/-- The counts of a repetition behind its opening brace: a number, a least number, or both
    bounds. -/
def counts? (verbose : Bool) (s : List Char) : Option ((Nat × Option Nat) × List Char) :=
  (count? verbose (skip verbose s)).bind fun (least, rest) =>
    match rest with
    | '}' :: rest => some ((least, some least), rest)
    | ',' :: rest =>
      match skip verbose rest with
      | '}' :: rest => some ((least, none), rest)
      | rest =>
        (count? verbose rest).bind fun (most, rest) =>
          match rest with
          | '}' :: rest => if least ≤ most then some ((least, some most), rest) else none
          | _ => none
    | _ => none

/-- Whether the mark of a repetition that prefers fewer rounds follows, and the text behind
    it. -/
def takeMark : List Char → Bool × List Char
  | '?' :: rest => (true, rest)
  | s => (false, s)

/-- Repeat the last of some parts, given in reverse order.  There must be one, and it must
    not be a change of flags. -/
def repeatLast (least : Nat) (most : Option Nat) (marked : Bool) :
    List Tree → Option (List Tree)
  | [] | .empty :: _ | .flags _ :: _ => none
  | part :: rest => some (.repetition least most marked part :: rest)

/-! ## Groups -/

/-- The flag of a letter. -/
def flagOf? (c : Char) : Option Flag :=
  match c with
  | 'i' => some .foldCase
  | 'm' => some .multiLine
  | 's' => some .dotAll
  | 'U' => some .swapGreed
  | 'u' => some .unicode
  | 'R' => some .crlf
  | 'x' => some .verbose
  | _ => none

/-- Read flags up to a colon or a closing parenthesis, behind the given changes.  No flag
    may be named twice, and a dash, of which there may be one, needs a flag behind it. -/
def flagChanges (dashed afterDash : Bool) (changes : FlagChanges) :
    List Char → Option (FlagChanges × List Char)
  | [] => none
  | c :: rest =>
    if c = ':' ∨ c = ')' then if afterDash then none else some (changes, c :: rest)
    else if c = '-' then if dashed then none else flagChanges true true changes rest
    else
      match flagOf? c with
      | none => none
      | some flag =>
        if changes.any (·.1 == flag) then none
        else flagChanges dashed false (changes ++ [(flag, !dashed)]) rest

/-- The codes that the name of a group may start with. -/
def nameStartCodes : Unicode.CodeSet := Unicode.nameAlphabetic

/-- The codes that the name of a group may go on with. -/
def nameCodes : Unicode.CodeSet := Unicode.nameAlphanumeric

/-- Whether a character may be in the name of a group, in the first place or behind it. -/
def isNameChar (first : Bool) (c : Char) : Bool :=
  if first then c == '_' || nameStartCodes.contains c.toNat
  else c == '_' || c == '.' || c == '[' || c == ']' || nameCodes.contains c.toNat

/-- The name of a group up to the closing angle bracket.  It must not be empty. -/
def groupName? (s : List Char) : Option (List Char × List Char) :=
  let name := s.takeWhile (· != '>')
  match name, s.dropWhile (· != '>') with
  | first :: others, _ :: rest =>
    if isNameChar true first && others.all (isNameChar false) then some (name, rest) else none
  | _, _ => none

/-- What an opening parenthesis begins. -/
inductive GroupStart
  /-- A group that captures what it matches. -/
  | capture (name : Option (List Char))
  /-- A group in which flags change. -/
  | scope (changes : FlagChanges)
  /-- Flags that change for the rest of the group around them. -/
  | flags (changes : FlagChanges)

/-- Read what follows an opening parenthesis.  What looks ahead or behind is refused. -/
def groupStart? (s : List Char) : Option (GroupStart × List Char) :=
  let named (s : List Char) :=
    (groupName? s).map fun (name, rest) => (GroupStart.capture (some name), rest)
  match s with
  | '?' :: '=' :: _ | '?' :: '!' :: _ | '?' :: '<' :: '=' :: _ | '?' :: '<' :: '!' :: _ => none
  | '?' :: 'P' :: '<' :: rest | '?' :: '<' :: rest => named rest
  | '?' :: rest =>
    (flagChanges false false [] rest).bind fun (changes, rest) =>
      match rest with
      | ':' :: rest => some (.scope changes, rest)
      | _ :: rest => if changes.isEmpty then none else some (.flags changes, rest)
      | [] => none
  | s => some (.capture none, s)

/-- Whether a pattern is verbose after a change of flags. -/
def verboseAfter (verbose : Bool) (changes : FlagChanges) : Bool :=
  match changes.find? (·.1 == .verbose) with
  | some (_, on) => on
  | none => verbose

/-! ## Patterns -/

/-- Where the reading of a pattern stands. -/
structure Cursor where
  rest : List Char
  verbose : Bool := false
  /-- The names of the groups so far. -/
  names : List (List Char) := []

/-- Read a part that neither repeats, groups nor chooses.  `fuel` bounds the number of items in
    brackets. -/
def part (verbose : Bool) (fuel : Nat) (c : Char) (rest : List Char) :
    Option (Tree × List Char) :=
  match c with
  | '\\' =>
    (escape verbose rest).map fun (escaped, rest) =>
      match escaped with
      | .literal l => (.literal l, rest)
      | .anchor a => (.anchor a, rest)
      | .shorthand name negated => (.shorthand name negated, rest)
      | .property name negated => (.property name negated, rest)
  | '[' => bracket verbose fuel rest
  | '.' => some (.dot, rest)
  | '^' => some (.anchor .lineStart, rest)
  | '$' => some (.anchor .lineEnd, rest)
  | c => some (.literal ⟨c, false⟩, rest)

/-- Pass over the end of a group, behind which the pattern is verbose or not as it was in
    front of the group. -/
def closeGroup (verbose : Bool) (cursor : Cursor) : Option Cursor :=
  match cursor.rest with
  | ')' :: rest => some { cursor with rest, verbose }
  | _ => none

/-- The tree of some branches, given in reverse order behind the parts of the last one, which
    are in reverse order as well. -/
def closeBranches (done parts : List Tree) : Tree :=
  .ofBranches ((.ofParts parts.reverse :: done).reverse)

/-- Read up to the end of a group or of the pattern, behind the given branches and the parts
    of the last branch, both in reverse order.  `fuel` bounds the number of parts and of items
    in brackets. -/
def branches : Nat → Cursor → List Tree → List Tree → Option (Tree × Cursor)
  | 0, _, _, _ => none
  | fuel + 1, cursor, done, parts =>
    let continueWith (least : Nat) (most : Option Nat) (behind : List Char) :=
      let (marked, rest) := takeMark behind
      (repeatLast least most marked parts).bind fun parts =>
        branches fuel { cursor with rest } done parts
    match skip cursor.verbose cursor.rest with
    | [] => some (closeBranches done parts, { cursor with rest := [] })
    | ')' :: rest => some (closeBranches done parts, { cursor with rest := ')' :: rest })
    | '|' :: rest => branches fuel { cursor with rest } (.ofParts parts.reverse :: done) []
    | '?' :: rest => continueWith 0 (some 1) rest
    | '*' :: rest => continueWith 0 none rest
    | '+' :: rest => continueWith 1 none rest
    | '{' :: rest =>
      (counts? cursor.verbose rest).bind fun ((least, most), rest) =>
        continueWith least most (skip cursor.verbose rest)
    | '(' :: rest =>
      (groupStart? (skip cursor.verbose rest)).bind fun (opening, rest) =>
        match opening with
        | .flags changes =>
          branches fuel { cursor with rest, verbose := verboseAfter cursor.verbose changes }
            done (.flags changes :: parts)
        | .capture name =>
          if name.any cursor.names.contains then none
          else
            let inner := { cursor with rest, names := name.toList ++ cursor.names }
            (branches fuel inner [] []).bind fun (body, after) =>
              (closeGroup cursor.verbose after).bind fun after =>
                branches fuel after done (.group true [] body :: parts)
        | .scope changes =>
          let inner := { cursor with rest, verbose := verboseAfter cursor.verbose changes }
          (branches fuel inner [] []).bind fun (body, after) =>
            (closeGroup cursor.verbose after).bind fun after =>
              branches fuel after done (.group false changes body :: parts)
    | c :: rest =>
      (part cursor.verbose fuel c rest).bind fun (tree, rest) =>
        branches fuel { cursor with rest } done (tree :: parts)

/-- The tree of a pattern, unless it is refused or nests too deep. -/
def parse (pattern : String) : Option Tree :=
  let s := pattern.toList
  (branches (s.length + 1) { rest := s } [] []).bind fun (tree, cursor) =>
    if cursor.rest.isEmpty ∧ tree.depth ≤ Tree.maxDepth then some tree else none

end Rulebook.Pattern
