/-
  Rulebook.Pattern.Look

  Between which characters an assertion holds.
-/
import Rulebook.Pattern.Expr

namespace Rulebook.Pattern

/-- The codes of words, in Unicode or in ASCII. -/
def wordSet (unicode : Bool) : Unicode.CodeSet :=
  if unicode then Shorthand.word.codes false else Shorthand.word.asciiCodes

/-- Whether a character, if there is one, is part of a word. -/
def inWord (unicode : Bool) (code : Option Nat) : Bool := code.any (wordSet unicode).contains

/-- Whether an assertion holds between two characters, either of which may be missing. -/
def Look.holds (before behind : Option Nat) : Look → Bool
  | textStart => before.isNone
  | textEnd => behind.isNone
  | lineStart false => before.isNone || before == some 0x0A
  | lineStart true =>
    before.isNone || before == some 0x0A || (before == some 0x0D && behind != some 0x0A)
  | lineEnd false => behind.isNone || behind == some 0x0A
  | lineEnd true =>
    behind.isNone || behind == some 0x0D || (behind == some 0x0A && before != some 0x0D)
  | boundary unicode => inWord unicode before != inWord unicode behind
  | noBoundary unicode => inWord unicode before == inWord unicode behind
  | wordStart unicode => !inWord unicode before && inWord unicode behind
  | wordEnd unicode => inWord unicode before && !inWord unicode behind
  | wordStartHalf unicode => !inWord unicode before
  | wordEndHalf unicode => !inWord unicode behind

end Rulebook.Pattern
