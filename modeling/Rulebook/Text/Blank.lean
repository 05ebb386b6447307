/-
  Rulebook.Text.Blank

  Blank characters (the Unicode property White_Space) and the three operations
  that depend on them: splitting a text into words, trimming it, and skipping
  leading blanks.  The list functions carry the meaning; the functions on
  `String` only wrap them.
-/

namespace Rulebook.Text

/-! ## The character class -/

/-- The code points with the Unicode property White_Space. -/
def blankCodes : List Nat :=
  [0x09, 0x0A, 0x0B, 0x0C, 0x0D, 0x20, 0x85, 0xA0, 0x1680,
   0x2000, 0x2001, 0x2002, 0x2003, 0x2004, 0x2005, 0x2006, 0x2007, 0x2008,
   0x2009, 0x200A, 0x2028, 0x2029, 0x202F, 0x205F, 0x3000]

/-- A character that separates words. -/
def isBlank (c : Char) : Bool := blankCodes.contains c.toNat

/-- Every character that the core library counts as whitespace is blank. -/
theorem isBlank_of_isWhitespace {c : Char} (h : c.isWhitespace = true) :
    isBlank c = true := by
  simp only [Char.isWhitespace, Bool.or_eq_true, decide_eq_true_eq] at h
  rcases h with ((rfl | rfl) | rfl) | rfl <;> decide

/-! ## Words -/

/-- Drop the blanks in front of a text. -/
def skipBlanks (s : List Char) : List Char := s.dropWhile isBlank

/-- The words of a text, with `current` (in reverse) the part of a word read so far. -/
def wordsFrom : List Char → List Char → List (List Char)
  | current, [] => if current.isEmpty then [] else [current.reverse]
  | current, c :: rest =>
    if isBlank c then
      if current.isEmpty then wordsFrom [] rest
      else current.reverse :: wordsFrom [] rest
    else wordsFrom (c :: current) rest

/-- The maximal runs of characters that are not blank, in order. -/
def wordsOf (s : List Char) : List (List Char) := wordsFrom [] s

/-- The words of a text: its maximal runs of non-blank characters. -/
def words (s : String) : List String := (wordsOf s.toList).map String.ofList

/-! ## Trimming -/

/-- A text without the blanks at its two ends. -/
def trimmed (s : List Char) : List Char :=
  (skipBlanks (skipBlanks s).reverse).reverse

end Rulebook.Text
