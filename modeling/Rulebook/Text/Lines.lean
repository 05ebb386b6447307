/-
  Rulebook.Text.Lines

  The lines of a text.
-/

namespace Rulebook.Text

/-- A line without the carriage return that may end it. -/
def dropReturn : List Char → List Char
  | [] => []
  | ['\r'] => []
  | c :: rest => c :: dropReturn rest

/-- The pieces between line feeds, with `current` (in reverse) the piece read so
    far.  The piece after the last line feed counts only if it is not empty. -/
def linesFrom : List Char → List Char → List (List Char)
  | current, [] => if current.isEmpty then [] else [current.reverse]
  | current, c :: rest =>
    if c = '\n' then dropReturn current.reverse :: linesFrom [] rest
    else linesFrom (c :: current) rest

/-- The lines of a text.  A line ends with a line feed, which a carriage return
    may precede, or with the text. -/
def linesOf (s : List Char) : List (List Char) := linesFrom [] s

/-- The lines of a text, without what ends them. -/
def lines (s : String) : List String := (linesOf s.toList).map String.ofList

end Rulebook.Text
