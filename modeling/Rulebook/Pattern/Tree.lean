/-
  Rulebook.Pattern.Tree

  The syntax trees of patterns.  How deep a tree nests is bounded (`maxDepth`).
-/

namespace Rulebook.Pattern

/-! ## Parts of patterns -/

/-- What a pattern can switch on and off. -/
inductive Flag
  /-- Letters match without regard to case. -/
  | foldCase
  /-- `^` and `$` match at the ends of lines. -/
  | multiLine
  /-- The dot matches line feeds. -/
  | dotAll
  /-- Repetitions prefer fewer rounds, unless they are marked: then they prefer more. -/
  | swapGreed
  /-- Classes are about Unicode, and not about ASCII only. -/
  | unicode
  /-- Lines end in a line feed, a carriage return, or both. -/
  | crlf
  /-- Blanks and comments in the pattern have no meaning. -/
  | verbose
  deriving DecidableEq, Repr

/-- Flags that are switched on or off. -/
abbrev FlagChanges := List (Flag × Bool)

/-- A character that stands for itself. -/
structure Literal where
  char : Char
  /-- It is written as a byte, by two hexadecimal digits. -/
  byte : Bool := false
  deriving DecidableEq, Repr

/-- The classes that have a letter. -/
inductive Shorthand
  | digit
  | blank
  | word
  deriving DecidableEq, Repr

/-- The classes of ASCII characters that have a name. -/
inductive AsciiClass
  | alnum
  | alpha
  | ascii
  | blank
  | cntrl
  | digit
  | graph
  | lower
  | print
  | punct
  | space
  | upper
  | word
  | xdigit
  deriving DecidableEq, Repr

/-- How a pattern names a Unicode property. -/
inductive PropertyName
  | named (name : String)
  | valued (property value : String)
  deriving DecidableEq, Repr

/-- What is asserted of a place in the text. -/
inductive Anchor
  | lineStart
  | lineEnd
  | textStart
  | textEnd
  | boundary
  | noBoundary
  | wordStart
  | wordEnd
  | wordStartHalf
  | wordEndHalf
  deriving DecidableEq, Repr

/-- The operations between the classes in brackets. -/
inductive SetOperator
  | inter
  | diff
  | symmDiff
  deriving DecidableEq, Repr

/-! ## Trees -/

/-- What stands between brackets. -/
inductive ClassTree
  | literal (literal : Literal)
  | range (low high : Literal)
  | ascii (name : AsciiClass) (negated : Bool)
  | shorthand (name : Shorthand) (negated : Bool)
  | property (name : PropertyName) (negated : Bool)
  | bracket (negated : Bool) (body : ClassTree)
  | union (items : List ClassTree)
  | combine (operator : SetOperator) (left right : ClassTree)

/-- A pattern. -/
inductive Tree
  | empty
  | flags (changes : FlagChanges)
  | literal (literal : Literal)
  | dot
  | anchor (anchor : Anchor)
  | shorthand (name : Shorthand) (negated : Bool)
  | property (name : PropertyName) (negated : Bool)
  | bracket (negated : Bool) (body : ClassTree)
  /-- A repetition, which may be marked as preferring fewer rounds.  What it prefers has no
      effect on whether a text matches. -/
  | repetition (least : Nat) (most : Option Nat) (marked : Bool) (body : Tree)
  /-- A group, which may change flags, and may capture what it matches. -/
  | group (captures : Bool) (changes : FlagChanges) (body : Tree)
  | concat (parts : List Tree)
  | alternation (branches : List Tree)

namespace ClassTree

/-- The union of some items; one item is its own union. -/
def ofItems : List ClassTree → ClassTree
  | [item] => item
  | items => union items

mutual

/-- How deep a class nests. -/
def depth : ClassTree → Nat
  | bracket _ body => body.depth + 1
  | union [] => 0
  | union (item :: rest) => max item.depth (depthOfAll rest) + 1
  | combine _ left right => max left.depth right.depth + 1
  | _ => 0

/-- How deep the deepest of some classes nests. -/
def depthOfAll : List ClassTree → Nat
  | [] => 0
  | item :: rest => max item.depth (depthOfAll rest)

end

end ClassTree

namespace Tree

/-- The concatenation of some parts; one part is its own concatenation. -/
def ofParts : List Tree → Tree
  | [] => empty
  | [part] => part
  | parts => concat parts

/-- The choice between some branches; one branch is no choice. -/
def ofBranches : List Tree → Tree
  | [branch] => branch
  | branches => alternation branches

mutual

/-- How deep a pattern nests. -/
def depth : Tree → Nat
  | bracket _ body => body.depth + 1
  | repetition _ _ _ body | group _ _ body => body.depth + 1
  | concat parts | alternation parts => depthOfAll parts + 1
  | _ => 0

/-- How deep the deepest of some patterns nests. -/
def depthOfAll : List Tree → Nat
  | [] => 0
  | part :: rest => max part.depth (depthOfAll rest)

end

/-- How deep a pattern may nest. -/
def maxDepth : Nat := 250

end Tree

end Rulebook.Pattern
