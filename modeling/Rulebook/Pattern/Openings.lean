/-
  Rulebook.Pattern.Openings

  The texts that the matches of an expression may start with.  If these are few, and
  each is a whole match, then searching for the expression is searching for them.
-/
import Rulebook.Pattern.Expr

namespace Rulebook.Pattern

/-! ## Openings -/

/-- A text that a match may start with, as bytes. -/
structure Opening where
  bytes : List UInt8
  /-- The match ends with the opening. -/
  whole : Bool := true
  deriving DecidableEq, Repr

/-- The openings of an expression, preferred ones first, or none if they are too many. -/
abbrev Openings := Option (List Opening)

/-- How many characters a set may have for its openings to be told. -/
def maxSetSize : Nat := 10

/-- How many rounds of a repetition are told. -/
def maxRounds : Nat := 10

/-- How many bytes an opening may have. -/
def maxOpeningSize : Nat := 100

/-- How many openings an expression may have. -/
def maxOpenings : Nat := 250

namespace Opening

/-- What an opening is when its match goes on. -/
def goingOn (opening : Opening) : Opening := { opening with whole := false }

/-- The first bytes of an opening. -/
def cut (size : Nat) (opening : Opening) : Opening :=
  if (opening.bytes.drop size).isEmpty then opening else ⟨opening.bytes.take size, false⟩

/-- An opening behind one that is a whole match. -/
def behind (first second : Opening) : Opening := ⟨first.bytes ++ second.bytes, second.whole⟩

/-- Make one of equal openings that follow each other. -/
def merged (openings : List Opening) : List Opening :=
  openings.foldr (fun opening done =>
    match done with
    | next :: rest =>
      if opening.bytes = next.bytes then ⟨next.bytes, opening.whole && next.whole⟩ :: rest
      else opening :: done
    | [] => [opening]) []

end Opening

namespace Openings

/-- The opening of an expression that matches the empty text only. -/
def unit : Openings := some [⟨[], true⟩]

/-- Whether no opening is a whole match. -/
def allGoOn (openings : Openings) : Bool := openings.all fun known => known.all (!·.whole)

/-- The openings of matches that go on. -/
def goingOn (openings : Openings) : Openings := openings.map (·.map Opening.goingOn)

/-- The openings of one expression behind those of another.  Where they are too many, only
    those in front are told. -/
def followedBy (first second : Openings) : Openings :=
  match first, second with
  | none, _ => none
  | some known, none =>
    if known.any (·.bytes.isEmpty) then none else some (known.map Opening.goingOn)
  | some known, some others =>
    if maxOpenings < known.length * others.length then
      if known.any (·.bytes.isEmpty) then none else some (known.map Opening.goingOn)
    else
      let all := known.flatMap fun opening =>
        if opening.whole then others.map opening.behind else [opening]
      some ((Opening.merged all).map (.cut maxOpeningSize))

/-- The openings of either of two expressions.  If they are too many, their first four bytes
    may do. -/
def or (first second : Openings) : Openings :=
  match first, second with
  | none, _ | _, none => none
  | some known, some others =>
    if known.length + others.length ≤ maxOpenings then some (Opening.merged (known ++ others))
    else
      let known := Opening.merged (known.map (.cut 4))
      let others := Opening.merged (others.map (.cut 4))
      if known.length + others.length ≤ maxOpenings then some (Opening.merged (known ++ others))
      else none

/-- The openings of expressions that follow each other. -/
def all (parts : List Openings) : Openings :=
  parts.foldl (fun start part => if start.allGoOn then start else start.followedBy part) unit

/-- The openings of any of some expressions. -/
def any (branches : List Openings) : Openings := branches.foldl or (some [])

/-- The opening of a literal. -/
def ofLiteral (text : List Char) : Openings :=
  let start := String.ofList (text.take (maxOpeningSize + 1))
  some [.cut maxOpeningSize ⟨start.toUTF8.toList, true⟩]

/-- The openings of a set. -/
def ofSet (set : Unicode.CodeSet) : Openings :=
  if maxSetSize < set.ranges.foldl (fun size (low, high) => size + (high + 1 - low)) 0 then none
  else
    some (set.ranges.flatMap fun (low, high) =>
      (List.range (high + 1 - low)).map fun n =>
        ⟨(String.singleton (Char.ofNat (low + n))).toUTF8.toList, true⟩)

/-- The openings of a repetition, given those of its body. -/
def ofRounds (least : Nat) (most : Option Nat) (lazy : Bool) (round : Openings) : Openings :=
  if least = 0 then
    let round := if most = some 1 then round else round.goingOn
    if lazy then unit.or round else round.or unit
  else
    let rounds := all (List.replicate (min least maxRounds) round)
    if most = some least ∧ least ≤ maxRounds then rounds else rounds.goingOn

end Openings

/-! ## Openings of expressions -/

namespace Expr

/-- The openings of an expression, given those of its parts or branches. -/
def joinOpenings (e : Expr) (pieces : List Openings) : Openings :=
  match e with
  | choice _ _ => .any pieces
  | _ => .all pieces

/-- The openings of the parts of a concatenation or of the branches of a choice. -/
def pieceOpenings : Expr → List Openings
  | empty | look _ => []
  | literal text => [.ofLiteral text]
  | one set => [.ofSet set]
  | concat first second =>
    let behind := second.pieceOpenings
    first.joinOpenings first.pieceOpenings ::
      match second with
      | concat _ _ => behind
      | _ => [second.joinOpenings behind]
  | choice first second =>
    let others := second.pieceOpenings
    first.joinOpenings first.pieceOpenings ::
      match second with
      | choice _ _ => others
      | _ => [second.joinOpenings others]
  | repetition least most lazy body =>
    [.ofRounds least most lazy (body.joinOpenings body.pieceOpenings)]
  | capture body => [body.joinOpenings body.pieceOpenings]

/-- The openings of an expression. -/
def openings (e : Expr) : Openings := e.joinOpenings e.pieceOpenings

end Expr

/-! ## Choosing what to look for -/

/-- The bytes that are frequent in texts. -/
def frequentBytes : Unicode.CodeSet :=
  ⟨[(0x0A, 0x0A), (0x0D, 0x0D), (0x20, 0x20), (0x28, 0x29), (0x2C, 0x32), (0x39, 0x3A),
    (0x5F, 0x5F), (0x61, 0x69), (0x6C, 0x70), (0x72, 0x76), (0x78, 0x79), (0x7C, 0x7C),
    (0x80, 0x84), (0x90, 0x90), (0xB1, 0xB1), (0xB5, 0xB7), (0xB9, 0xBD), (0xBF, 0xFF)]⟩

/-- The bytes that are so frequent that one of them alone is not worth looking for. -/
def commonBytes : Unicode.CodeSet := ⟨[(0x20, 0x20), (0x65, 0x65), (0x74, 0x74), (0xC0, 0xFF)]⟩


namespace Openings

/-- Leave out each opening that starts with one in front of it: that one matches first. -/
def withoutLonger (openings : List Opening) : List Opening :=
  (openings.foldl (fun kept opening =>
    if kept.any fun first => first.bytes.isPrefixOf opening.bytes then kept
    else opening :: kept) []).reverse

/-- The longest common start of two lists of bytes. -/
def commonStart : List UInt8 → List UInt8 → List UInt8
  | a :: as, b :: bs => if a = b then a :: commonStart as bs else []
  | _, _ => []

/-- The longest common start of some openings. -/
def sharedStart : List Opening → List UInt8
  | [] => []
  | first :: others => others.foldl (fun start o => commonStart start o.bytes) first.bytes

/-- How short openings are made that are more than some number. -/
def shortenings : List (Nat × Nat) := [(5, 10), (4, 10), (3, 64), (2, 64), (1, 10)]

/-- Make openings shorter, as long as they are too many. -/
def shortened (openings : List Opening) : List Opening :=
  (shortenings.foldl (fun (openings, done) (size, most) =>
    if done || openings.length ≤ most then (openings, true)
    else (withoutLonger (openings.map (.cut size)), false)) (openings, false)).1

/-- Whether an opening is not worth looking for. -/
def isPoor (opening : Opening) : Bool :=
  match opening.bytes with
  | [] => true
  | [byte] => commonBytes.contains byte.toNat
  | _ => false

/-- Whether short openings are better to look for than the whole matches that they were made
    from. -/
def areBetter (openings : List Opening) : Bool :=
  !openings.any isPoor && openings.all (fun o => 2 < o.bytes.length) && openings.length ≤ 64

/-- The openings that are looked for: none that is longer than need be.  Those that are whole
    matches are kept as they are, unless a common start or shorter ones are better. -/
def soughtAfter (openings : List Opening) : List Opening :=
  let kept := withoutLonger openings
  let start := sharedStart kept
  let isRare := !start.isEmpty && start.length ≤ 3 && !frequentBytes.contains (start.headD 0).toNat
  if 1 < openings.length && isRare then Opening.merged (kept.map (.cut 1))
  else
    let few := kept.all (·.whole) && kept.length ≤ 16
    let kept :=
      if 4 < start.length ∨ (1 < start.length ∧ ¬few) then
        Opening.merged (kept.map (.cut start.length))
      else kept
    let short := shortened kept
    if kept.all (·.whole) && !areBetter short then kept else short

end Openings

/-! ## Known matches -/

/-- Whether something is asserted of a place in an expression. -/
def Expr.asserts : Expr → Bool
  | empty | literal _ | one _ => false
  | look _ => true
  | concat first second | choice first second => first.asserts || second.asserts
  | repetition _ _ _ body | capture body => body.asserts

/-- The texts that searching for an expression comes to, if these are known: its openings that
    are looked for, if each of them is a whole match.  There must be one, and none may be
    empty. -/
def Expr.matches? (e : Expr) : Option (List String) :=
  if e.captures || e.asserts then none
  else
    e.openings.bind fun openings =>
      if openings.isEmpty || openings.any (·.bytes.isEmpty) then none
      else
        (Openings.soughtAfter openings).mapM fun opening =>
          if opening.whole then String.fromUTF8? ⟨opening.bytes.toArray⟩ else none

end Rulebook.Pattern
