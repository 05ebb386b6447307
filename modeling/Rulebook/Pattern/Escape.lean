/-
  Rulebook.Pattern.Escape

  Reading what stands behind a backslash in a pattern, and the blanks and
  comments that verbose patterns ignore.
-/
import Rulebook.Pattern.Tree
import Rulebook.Text.Blank
import Rulebook.Text.Split

namespace Rulebook.Pattern

/-! ## Blanks and comments -/

/-- Skip blanks and comments.  `inComment` tells whether a comment has begun. -/
def skipFrom : Bool → List Char → List Char
  | _, [] => []
  | true, c :: rest => skipFrom (c != '\n') rest
  | false, c :: rest =>
    if Text.isBlank c then skipFrom false rest
    else if c = '#' then skipFrom true rest
    else c :: rest

/-- Skip blanks and comments if the pattern is verbose. -/
def skip (verbose : Bool) (s : List Char) : List Char := if verbose then skipFrom false s else s

theorem length_skipFrom_le (inComment : Bool) (s : List Char) :
    (skipFrom inComment s).length ≤ s.length := by
  fun_induction skipFrom inComment s <;> simp_all <;> omega

theorem length_skip_le (verbose : Bool) (s : List Char) :
    (skip verbose s).length ≤ s.length := by
  unfold skip
  split
  · exact length_skipFrom_le false s
  · exact Nat.le_refl _

/-- What stands behind the first character that is not skipped is shorter. -/
theorem length_lt_of_skip_eq_cons {verbose : Bool} {s rest : List Char} {c : Char}
    (h : skip verbose s = c :: rest) : rest.length < s.length := by
  have := length_skip_le verbose s
  simp [h] at this
  omega

/-- The longest start of a text that consists of some characters, and what follows it, when
    blanks and comments are skipped behind each character. -/
def takeWhileSkipping (verbose : Bool) (test : Char → Bool) : List Char → List Char × List Char
  | [] => ([], [])
  | c :: rest =>
    if test c then
      let (taken, rest) := takeWhileSkipping verbose test (skip verbose rest)
      (c :: taken, rest)
    else ([], c :: rest)
termination_by s => s.length
decreasing_by exact Nat.lt_succ_of_le (length_skip_le verbose rest)

/-! ## Hexadecimal codes -/

/-- The value of a hexadecimal digit. -/
def hexValue? (c : Char) : Option Nat :=
  if '0' ≤ c ∧ c ≤ '9' then some (c.toNat - '0'.toNat)
  else if 'a' ≤ c ∧ c ≤ 'f' then some (c.toNat - 'a'.toNat + 10)
  else if 'A' ≤ c ∧ c ≤ 'F' then some (c.toNat - 'A'.toNat + 10)
  else none

/-- The character with a code, if there is one. -/
def charOfCode? (code : Nat) : Option Char :=
  if code < 0xD800 ∨ (0xDFFF < code ∧ code ≤ 0x10FFFF) then some (Char.ofNat code) else none

/-- The number that the next `count` digits write, behind digits that write `start`. -/
def hexDigits (verbose : Bool) : Nat → Nat → List Char → Option (Nat × List Char)
  | 0, start, s => some (start, s)
  | count + 1, start, c :: rest =>
    (hexValue? c).bind fun d => hexDigits verbose count (16 * start + d) (skip verbose rest)
  | _ + 1, _, [] => none

/-- The number that the digits up to a closing brace write, behind `start`, which is absent
    in front of the first digit.  By how much it is larger than any code does not matter. -/
def hexBrace (verbose : Bool) (start : Option Nat) (s : List Char) :
    Option (Nat × List Char) :=
  match _h : skip verbose s with
  | [] => none
  | c :: rest =>
    if c = '}' then start.map (·, skip verbose rest)
    else
      (hexValue? c).bind fun d =>
        hexBrace verbose (some (min (16 * start.getD 0 + d) 0x110000)) rest
termination_by s.length
decreasing_by exact length_lt_of_skip_eq_cons _h

/-- The character that a code of `count` digits, or one in braces, stands for. -/
def hexChar (verbose : Bool) (count : Nat) (s : List Char) : Option (Literal × List Char) :=
  match skip verbose s with
  | '{' :: rest =>
    (hexBrace verbose none rest).bind fun (code, rest) =>
      (charOfCode? code).map fun c => (⟨c, false⟩, rest)
  | s =>
    (hexDigits verbose count 0 s).bind fun (code, rest) =>
      (charOfCode? code).map fun c => (⟨c, count == 2⟩, rest)

/-! ## Names in braces -/

/-- The characters up to a closing brace. -/
def upToBrace (verbose : Bool) (s : List Char) : Option (List Char × List Char) :=
  match _h : skip verbose s with
  | [] => none
  | c :: rest =>
    if c = '}' then some ([], rest)
    else (upToBrace verbose rest).map fun (name, rest) => (c :: name, rest)
termination_by s.length
decreasing_by exact length_lt_of_skip_eq_cons _h

/-- The property that a name in braces stands for, and whether its sign negates it. -/
def propertyOf (name : List Char) : PropertyName × Bool :=
  let valued (parts : List Char × List Char) : PropertyName :=
    .valued (String.ofList parts.1) (String.ofList parts.2)
  match Text.splitFirst ['!', '='] name, Text.splitFirst [':'] name,
      Text.splitFirst ['='] name with
  | some parts, _, _ => (valued parts, true)
  | none, some parts, _ => (valued parts, false)
  | none, none, some parts => (valued parts, false)
  | none, none, none => (.named (String.ofList name), false)

/-- The property whose name follows, as one letter or in braces. -/
def propertyName (verbose : Bool) (s : List Char) :
    Option ((PropertyName × Bool) × List Char) :=
  match skip verbose s with
  | [] => none
  | '{' :: rest =>
    (upToBrace verbose rest).map fun (name, rest) => (propertyOf name, rest)
  | c :: rest =>
    if c = '\\' then none
    else some ((.named (String.ofList [c]), false), skip verbose rest)

/-! ## Word boundaries -/

/-- Whether a character may be in the name of a special word boundary. -/
def isBoundaryChar (c : Char) : Bool := c.isAlpha || c == '-'

/-- The word boundary that follows its letter.  A brace behind it names a special one,
    unless what is in the braces cannot be a name. -/
def boundary (verbose : Bool) (s : List Char) : Option (Anchor × List Char) :=
  match s with
  | '{' :: rest =>
    match skip verbose rest with
    | [] => none
    | c :: more =>
      if isBoundaryChar c then
        match takeWhileSkipping verbose isBoundaryChar (c :: more) with
        | (name, '}' :: rest) =>
          if name = "start".toList then some (.wordStart, rest)
          else if name = "end".toList then some (.wordEnd, rest)
          else if name = "start-half".toList then some (.wordStartHalf, rest)
          else if name = "end-half".toList then some (.wordEndHalf, rest)
          else none
        | _ => none
      else some (.boundary, s)
  | _ => some (.boundary, s)

/-! ## Escapes -/

/-- What an escape stands for. -/
inductive Escaped
  | literal (literal : Literal)
  | anchor (anchor : Anchor)
  | shorthand (name : Shorthand) (negated : Bool)
  | property (name : PropertyName) (negated : Bool)

/-- The character that a letter behind a backslash stands for. -/
def controlOf? (c : Char) : Option Char :=
  match c with
  | 'a' => some '\x07'
  | 'f' => some '\x0c'
  | 't' => some '\t'
  | 'n' => some '\n'
  | 'r' => some '\r'
  | 'v' => some '\x0b'
  | _ => none

/-- The anchor that a character behind a backslash stands for, word boundaries apart. -/
def anchorOf? (c : Char) : Option Anchor :=
  match c with
  | 'A' => some .textStart
  | 'z' => some .textEnd
  | 'B' => some .noBoundary
  | '<' => some .wordStart
  | '>' => some .wordEnd
  | _ => none

/-- The class that a letter behind a backslash stands for, and whether it is negated. -/
def shorthandOf? (c : Char) : Option (Shorthand × Bool) :=
  match c with
  | 'd' => some (.digit, false)
  | 'D' => some (.digit, true)
  | 's' => some (.blank, false)
  | 'S' => some (.blank, true)
  | 'w' => some (.word, false)
  | 'W' => some (.word, true)
  | _ => none

/-- The number of digits of a code behind a letter. -/
def codeLength? (c : Char) : Option Nat :=
  match c with
  | 'x' => some 2
  | 'u' => some 4
  | 'U' => some 8
  | _ => none

/-- Whether a character behind a backslash stands for itself: any in ASCII but letters,
    digits and angle brackets. -/
def isEscapable (c : Char) : Bool := c.toNat < 0x80 && !c.isAlphanum && c != '<' && c != '>'

/-- Read an escape behind its backslash. -/
def escape (verbose : Bool) : List Char → Option (Escaped × List Char)
  | [] => none
  | c :: rest =>
    match codeLength? c, shorthandOf? c, anchorOf? c, controlOf? c with
    | some count, _, _, _ => (hexChar verbose count rest).map fun (l, rest) => (.literal l, rest)
    | none, some (name, negated), _, _ => some (.shorthand name negated, rest)
    | none, none, some anchor, _ => some (.anchor anchor, rest)
    | none, none, none, some control => some (.literal ⟨control, false⟩, rest)
    | none, none, none, none =>
      if c = 'p' ∨ c = 'P' then
        (propertyName verbose rest).map fun ((name, negated), rest) =>
          (.property name (negated != (c == 'P')), rest)
      else if c = 'b' then
        (boundary verbose rest).map fun (anchor, rest) => (.anchor anchor, rest)
      else if isEscapable c then some (.literal ⟨c, false⟩, rest)
      else none

end Rulebook.Pattern
