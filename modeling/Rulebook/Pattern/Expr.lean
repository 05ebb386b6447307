/-
  Rulebook.Pattern.Expr

  What a pattern means: an expression over sets of code points, in which the flags
  of the pattern have been worked in.
-/
import Rulebook.Pattern.Tree
import Rulebook.Unicode.CaseFolding
import Rulebook.Unicode.Property

namespace Rulebook.Pattern

open Unicode (CodeSet)

/-! ## Expressions -/

/-- What is asserted of a place.  Word boundaries are those of Unicode or of ASCII. -/
inductive Look
  | textStart
  | textEnd
  | lineStart (crlf : Bool)
  | lineEnd (crlf : Bool)
  | boundary (unicode : Bool)
  | noBoundary (unicode : Bool)
  | wordStart (unicode : Bool)
  | wordEnd (unicode : Bool)
  | wordStartHalf (unicode : Bool)
  | wordEndHalf (unicode : Bool)
  deriving DecidableEq, Repr, Hashable

/-- What a pattern means.  The functions below make expressions in a normal form: no part of
    a concatenation is empty or a concatenation, no two literals follow each other in one,
    no branch of a choice is a choice, and no set has just one code point. -/
inductive Expr
  | empty
  /-- Some characters, one behind the other. -/
  | literal (text : List Char)
  /-- A character of a set. -/
  | one (set : CodeSet)
  | look (look : Look)
  | concat (first second : Expr)
  | choice (first second : Expr)
  /-- A repetition, which prefers more rounds, or fewer if it is lazy. -/
  | repetition (least : Nat) (most : Option Nat) (lazy : Bool) (body : Expr)
  | capture (body : Expr)
  deriving DecidableEq

namespace Expr

/-! ### Lengths -/

/-- Whether an expression matches without a character only. -/
def onlyEmpty : Expr → Bool
  | empty | look _ => true
  | literal _ | one _ => false
  | concat first second | choice first second => first.onlyEmpty && second.onlyEmpty
  | repetition _ most _ body => most.isSome && body.onlyEmpty
  | capture body => body.onlyEmpty

/-- The least number of characters that an expression may match.  There is none if a part
    of it matches nothing. -/
def minLength : Expr → Option Nat
  | empty | look _ => some 0
  | literal text => some text.length
  | one set => if set.ranges.isEmpty then none else some 1
  | concat first second => do return (← first.minLength) + (← second.minLength)
  | choice first second => do return min (← first.minLength) (← second.minLength)
  | repetition least _ _ body => body.minLength.map (least * ·)
  | capture body => body.minLength

/-- Whether an expression always takes a character. -/
def takesOne (e : Expr) : Bool := e.minLength.any (0 < ·)

/-! ### Concatenations -/

/-- The expression of a set. -/
def ofSet (set : CodeSet) : Expr :=
  match set.characters.single? with
  | some code => literal [Char.ofNat code]
  | none => one set.characters

/-- Put an expression in front of another one. -/
def append : Expr → Expr → Expr
  | empty, e => e
  | concat first second, e => first.append (second.append e)
  | e, empty => e
  | literal s, literal t => literal (s ++ t)
  | literal s, concat (literal t) rest => concat (literal (s ++ t)) rest
  | e, rest => concat e rest

/-- The concatenation of some expressions. -/
def ofParts (parts : List Expr) : Expr := parts.foldr append empty

/-- The parts of a concatenation; anything else is a part by itself. -/
def parts : Expr → List Expr
  | concat first second => first :: second.parts
  | e => [e]

/-! ### Repetitions -/

/-- The repetition of an expression.  What matches without a character only is not worth
    more than one round. -/
def repeated (least : Nat) (most : Option Nat) (lazy : Bool) (body : Expr) : Expr :=
  let (least, most) :=
    if body.onlyEmpty then (min least 1, some (min (most.getD 1) 1)) else (least, most)
  if most = some 0 then empty
  else if least = 1 ∧ most = some 1 then body
  else repetition least most lazy body

/-! ### Choices -/

/-- The branches of a choice; anything else is a branch by itself. -/
def branches : Expr → List Expr
  | choice first second => first :: second.branches
  | e => [e]

/-- The choice between some expressions. -/
def oneOf : List Expr → Expr
  | [] => one .empty
  | [e] => e
  | e :: rest => choice e (oneOf rest)

/-- The code of a literal of one character. -/
def code? : Expr → Option Nat
  | literal [c] => some c.toNat
  | _ => none

/-- The set of an expression that is one. -/
def asSet? : Expr → Option CodeSet
  | one set => some set
  | _ => none

/-- Whether an expression captures something. -/
def captures : Expr → Bool
  | empty | literal _ | one _ | look _ => false
  | concat first second | choice first second => first.captures || second.captures
  | repetition _ _ _ body => body.captures
  | capture _ => true

/-- The longest common start of two lists of parts.  Two parts that capture are never the
    same, because each has captures of its own. -/
def commonParts : List Expr → List Expr → List Expr
  | a :: as, b :: bs => if a = b ∧ a.captures = false then a :: commonParts as bs else []
  | _, _ => []

/-- The parts that all branches start with, if all of them are concatenations. -/
def sharedParts (branches : List Expr) : List Expr :=
  let concats := branches.filterMap fun e =>
    match e with
    | concat _ _ => some e.parts
    | _ => none
  match concats with
  | first :: rest =>
    if concats.length = branches.length then rest.foldl commonParts first else []
  | [] => []

/-- The number of nodes of an expression. -/
def weight : Expr → Nat
  | empty | literal _ | one _ | look _ => 1
  | concat first second | choice first second => first.weight + second.weight + 1
  | repetition _ _ _ body | capture body => body.weight + 1

/-- The choice between some expressions.  Characters and sets are joined if there is nothing
    else, and parts that all branches start with are put in front.  `fuel` bounds the
    number of those. -/
def choose (fuel : Nat) (choices : List Expr) : Expr :=
  match choices.flatMap branches with
  | [e] => e
  | all =>
    match all.mapM code?, all.mapM asSet? with
    | some codes, _ => ofSet (.ofCodes codes)
    | none, some sets => ofSet (.ofRanges (sets.flatMap CodeSet.ranges))
    | none, none =>
      match fuel, sharedParts all with
      | fuel + 1, first :: others =>
        let behind := all.map fun e => ofParts (e.parts.drop (others.length + 1))
        ofParts (first :: others ++ [choose fuel behind])
      | _, _ => oneOf all

/-- The choice between some expressions. -/
def ofBranches (choices : List Expr) : Expr :=
  choose (choices.foldl (fun n e => n + e.weight) 0) choices

end Expr

/-! ## Flags -/

/-- The flags that have a meaning for expressions. -/
structure Flags where
  foldCase : Bool := false
  multiLine : Bool := false
  dotAll : Bool := false
  swapGreed : Bool := false
  unicode : Bool := true
  crlf : Bool := false
  deriving DecidableEq, Repr

namespace Flags

/-- Switch one flag on or off. -/
def change (flags : Flags) : Flag × Bool → Flags
  | (.foldCase, on) => { flags with foldCase := on }
  | (.multiLine, on) => { flags with multiLine := on }
  | (.dotAll, on) => { flags with dotAll := on }
  | (.unicode, on) => { flags with unicode := on }
  | (.crlf, on) => { flags with crlf := on }
  | (.swapGreed, on) => { flags with swapGreed := on }
  | (.verbose, _) => flags

/-- Switch flags on or off. -/
def changeAll (flags : Flags) (changes : FlagChanges) : Flags := changes.foldl change flags

end Flags

/-! ## Classes of ASCII characters -/

/-- The codes of a class of ASCII characters. -/
def AsciiClass.codes : AsciiClass → CodeSet
  | alnum => ⟨[(0x30, 0x39), (0x41, 0x5A), (0x61, 0x7A)]⟩
  | alpha => ⟨[(0x41, 0x5A), (0x61, 0x7A)]⟩
  | ascii => ⟨[(0, 0x7F)]⟩
  | blank => ⟨[(0x09, 0x09), (0x20, 0x20)]⟩
  | cntrl => ⟨[(0, 0x1F), (0x7F, 0x7F)]⟩
  | digit => ⟨[(0x30, 0x39)]⟩
  | graph => ⟨[(0x21, 0x7E)]⟩
  | lower => ⟨[(0x61, 0x7A)]⟩
  | print => ⟨[(0x20, 0x7E)]⟩
  | punct => ⟨[(0x21, 0x2F), (0x3A, 0x40), (0x5B, 0x60), (0x7B, 0x7E)]⟩
  | space => ⟨[(0x09, 0x0D), (0x20, 0x20)]⟩
  | upper => ⟨[(0x41, 0x5A)]⟩
  | word => ⟨[(0x30, 0x39), (0x41, 0x5A), (0x5F, 0x5F), (0x61, 0x7A)]⟩
  | xdigit => ⟨[(0x30, 0x39), (0x41, 0x46), (0x61, 0x66)]⟩

/-- The ASCII codes of a class that has a letter. -/
def Shorthand.asciiCodes : Shorthand → CodeSet
  | digit => AsciiClass.digit.codes
  | blank => AsciiClass.space.codes
  | word => AsciiClass.word.codes

/-- The codes of a class that has a letter, or all others. -/
def Shorthand.codes (negated : Bool) : Shorthand → CodeSet
  | digit => if negated then Unicode.nonDigits else Unicode.digits
  | blank => if negated then Unicode.nonBlanks else Unicode.blanks
  | word => if negated then Unicode.nonWordCodes else Unicode.wordCodes

/-! ## Sets -/

/-- A set of ASCII codes together with the letters that differ from one of it in case. -/
def foldAscii (set : CodeSet) : CodeSet :=
  let shifted (low high : Nat) (shift : Int) : List Nat :=
    ((List.range (high + 1 - low)).map (low + ·)).filterMap fun c =>
      if set.contains c then some (c + shift).toNat else none
  set.union (.ofCodes (shifted 0x41 0x5A 32 ++ shifted 0x61 0x7A (-32)))

/-- The codes that differ from one of a set in case only, and the set itself, if the flags ask
    for it. -/
def folded (flags : Flags) (set : CodeSet) : CodeSet :=
  if flags.foldCase then if flags.unicode then set.foldCase else foldAscii set else set

/-- The complement of a set, if asked for.  Where a pattern is not about Unicode it is about
    bytes, of which all that are not in ASCII are refused. -/
def negatedIf (flags : Flags) (negated : Bool) (set : CodeSet) : Option CodeSet :=
  if flags.unicode then some (if negated then set.complement else set)
  else
    let bytes := if negated then set.complementTo 0xFF else set
    if bytes.isAscii then some bytes else none

/-- The codes of a class that has a letter, or all others. -/
def shorthandSet (flags : Flags) (name : Shorthand) (negated : Bool) : Option CodeSet :=
  if flags.unicode then some (name.codes negated) else negatedIf flags negated name.asciiCodes

/-- The codes of a property. -/
def PropertyName.codes? : PropertyName → Option CodeSet
  | named name => Unicode.named? name
  | valued property value => Unicode.valued? property value

/-- The codes of a property or of those that do not have it. -/
def propertySet (flags : Flags) (name : PropertyName) (negated : Bool) : Option CodeSet :=
  if flags.unicode then name.codes?.bind fun set => negatedIf flags negated (folded flags set)
  else none

/-- The code of a literal between brackets.  Where a pattern is about bytes, only ASCII
    is allowed. -/
def literalCode (flags : Flags) (l : Literal) : Option Nat :=
  if flags.unicode ∨ l.char.toNat < 0x80 then some l.char.toNat else none

/-- The result of an operation between classes. -/
def SetOperator.apply : SetOperator → CodeSet → CodeSet → CodeSet
  | inter => CodeSet.inter
  | diff => CodeSet.diff
  | symmDiff => CodeSet.symmDiff

mutual

/-- The codes of a class in brackets. -/
def ClassTree.codes? (flags : Flags) : ClassTree → Option CodeSet
  | .literal l => (literalCode flags l).map fun c => ⟨[(c, c)]⟩
  | .range low high => do
    let low ← literalCode flags low
    let high ← literalCode flags high
    some ⟨[(low, high)]⟩
  | .ascii name negated => negatedIf flags negated (folded flags name.codes)
  | .shorthand name negated => shorthandSet flags name negated
  | .property name negated => propertySet flags name negated
  | .bracket negated body =>
    (body.codes? flags).bind fun set => negatedIf flags negated (folded flags set)
  | .union items => (ClassTree.allCodes? flags items).map CodeSet.ofRanges
  | .combine operator left right => do
    let left ← left.codes? flags
    let right ← right.codes? flags
    some (operator.apply (folded flags left) (folded flags right))

/-- The ranges of all of some classes. -/
def ClassTree.allCodes? (flags : Flags) : List ClassTree → Option (List (Nat × Nat))
  | [] => some []
  | item :: rest => do
    let set ← item.codes? flags
    let others ← ClassTree.allCodes? flags rest
    some (set.ranges ++ others)

end

/-! ## Meaning -/

/-- What a literal means outside brackets.  A byte that is not in ASCII is refused. -/
def literalExpr (flags : Flags) (l : Literal) : Option Expr :=
  if !flags.unicode ∧ l.byte ∧ 0x80 ≤ l.char.toNat then none
  else if flags.foldCase ∧ flags.unicode then
    some (.ofSet (.ofCodes (Unicode.caseVariants l.char.toNat)))
  else some (.ofSet (folded flags ⟨[(l.char.toNat, l.char.toNat)]⟩))

/-- What a dot means: any character, or any that does not end a line. -/
def dotExpr (flags : Flags) : Option Expr :=
  if !flags.unicode then none
  else if flags.dotAll then some (.ofSet .full)
  else if flags.crlf then some (.ofSet (CodeSet.complement ⟨[(0x0A, 0x0A), (0x0D, 0x0D)]⟩))
  else some (.ofSet (CodeSet.complement ⟨[(0x0A, 0x0A)]⟩))

/-- What an anchor asserts. -/
def anchorLook (flags : Flags) : Anchor → Look
  | .lineStart => if flags.multiLine then .lineStart flags.crlf else .textStart
  | .lineEnd => if flags.multiLine then .lineEnd flags.crlf else .textEnd
  | .textStart => .textStart
  | .textEnd => .textEnd
  | .boundary => .boundary flags.unicode
  | .noBoundary => .noBoundary flags.unicode
  | .wordStart => .wordStart flags.unicode
  | .wordEnd => .wordEnd flags.unicode
  | .wordStartHalf => .wordStartHalf flags.unicode
  | .wordEndHalf => .wordEndHalf flags.unicode

mutual

/-- What a pattern means under the given flags, and the flags behind it. -/
def Tree.expr? (flags : Flags) : Tree → Option (Expr × Flags)
  | .empty => some (.empty, flags)
  | .flags changes => some (.empty, flags.changeAll changes)
  | .literal l => (literalExpr flags l).map (·, flags)
  | .dot => (dotExpr flags).map (·, flags)
  | .anchor a => some (.look (anchorLook flags a), flags)
  | .shorthand name negated =>
    (shorthandSet flags name negated).map fun set => (.ofSet set, flags)
  | .property name negated =>
    (propertySet flags name negated).map fun set => (.ofSet set, flags)
  | .bracket negated body =>
    (body.codes? flags).bind fun set =>
      (negatedIf flags negated (folded flags set)).map fun set => (.ofSet set, flags)
  | .repetition least most marked body =>
    (body.expr? flags).map fun (e, flags) =>
      (.repeated least most (marked != flags.swapGreed) e, flags)
  | .group captures changes body =>
    (body.expr? (flags.changeAll changes)).map fun (e, _) =>
      (if captures then .capture e else e, flags)
  | .concat parts => Tree.concatExpr? flags parts
  | .alternation branches =>
    (Tree.branchExprs? flags branches).map fun (branches, flags) =>
      (.ofBranches branches, flags)

/-- What the concatenation of some patterns means. -/
def Tree.concatExpr? (flags : Flags) : List Tree → Option (Expr × Flags)
  | [] => some (.empty, flags)
  | part :: rest =>
    (part.expr? flags).bind fun (first, flags) =>
      (Tree.concatExpr? flags rest).map fun (second, flags) => (first.append second, flags)

/-- What some patterns mean that are branches of a choice. -/
def Tree.branchExprs? (flags : Flags) : List Tree → Option (List Expr × Flags)
  | [] => some ([], flags)
  | branch :: rest =>
    (branch.expr? flags).bind fun (first, flags) =>
      (Tree.branchExprs? flags rest).map fun (others, flags) => (first :: others, flags)

end

end Rulebook.Pattern
