/-
  Rulebook.Unicode.CaseFolding

  Which code points differ only in case, by simple case folding.  They form
  groups: most are pairs of a code point and another at some distance, and the
  pairs come in runs.
-/
import Rulebook.Unicode.CodeSet
import Std.Data.HashMap

namespace Rulebook.Unicode

/-- Runs of pairs.  An item holds the first code point, behind `+` the distance of the
    other one, behind `*` the number of pairs if there are several, and `/2` if only
    every second code point starts a pair. -/
def foldRuns : String :=
  "41+20*a 4c+20*8/2 4d+20*3/2 55+20*3/2 c0+20*10/2 c1+20*2/2 c7+20*8/2 d9+20*3/2 df+1dbf
   ff+79 100+1*18/2 132+1*3/2 139+1*8/2 14a+1*17/2 179+1*3/2 180+c3 181+d2 182+1*2/2 186+ce
   187+1 189+cd*2 18b+1 18e+4f 18f+ca 190+cb 191+1 193+cd 194+cf 195+61 196+d3 197+d1 198+1
   19a+a3 19b+a641 19c+d3 19d+d5 19e+82 19f+d6 1a0+1*3/2 1a6+da 1a7+1 1a9+da 1ac+1 1ae+da
   1af+1 1b1+d9*2 1b3+1*2/2 1b7+db 1b8+1 1bc+1 1bf+38 1cd+1*8/2 1de+1*9/2 1f4+1 1f8+1*14/2
   222+1*9/2 23a+2a2b 23b+1 23e+2a28 23f+2a3f*2 241+1 244+45 245+47 246+1*5/2 250+2a1f
   251+2a1c 252+2a1e 25c+a54f 261+a54b 264+a567 265+a528 266+a544 26a+a544 26b+29f7
   26c+a541 271+29fd 27d+29e7 282+a543 287+a52a 29d+a515 29e+a512 370+1*2/2 376+1 37b+82*3
   37f+74 386+26 388+25*3 38c+40 38e+3f*2 390+1c43 391+20*2/2 394+20*2/2 397+20 39b+20*3/2
   39e+20 3a4+20*2 3a7+20*2 3aa+20*2 3b0+1c33 3cf+8 3d8+1*c/2 3f2+7 3f7+1 3fa+1 400+50*10
   410+20*2 413+20*7/2 416+20*4/2 420+20 423+20*7 42b+20*5 460+1 464+1*f/2 48a+1*1b/2 4c0+f
   4c1+1*7/2 4d0+1*30/2 531+30*26 10a0+1c60*26 10c7+1c60 10cd+1c60 10d0+bc0*2b 10fd+bc0*3
   13a0+97d0*50 13f0+8*6 1c89+1 1d79+8a04 1d7d+ee6 1d8e+8a38 1e00+1*30/2 1e62+1*1a/2
   1ea0+1*30/2 1f00+8*8 1f10+8*6 1f20+8*8 1f30+8*8 1f40+8*6 1f51+8*4/2 1f60+8*8 1f70+4a*2
   1f72+56*4 1f76+64*2 1f78+80*2 1f7a+70*2 1f7c+7e*2 1f80+8*8 1f90+8*8 1fa0+8*8 1fb0+8*2
   1fb3+9 1fc3+9 1fd0+8*2 1fe0+8*2 1fe5+7 1ff3+9 2132+1c 2160+10*10 2183+1 24b6+1a*1a
   2c00+30*30 2c60+1 2c67+1*3/2 2c72+1 2c75+1 2c80+1*32/2 2ceb+1*2/2 2cf2+1 a640+1*5/2
   a64c+1*11/2 a680+1*e/2 a722+1*7/2 a732+1*1f/2 a779+1*2/2 a77e+1*5/2 a78b+1 a790+1*2/2
   a794+30 a796+1*a/2 a7b3+3a0 a7b4+1*8/2 a7c7+1*2/2 a7cc+1 a7d0+1 a7d6+1*3/2 a7f5+1 fb05+1
   ff21+20*1a 10400+28*28 104b0+28*24 10570+27*13/2 10571+27*5/2 1057d+27*7/2 1058d+27*3/2
   10595+27 10c80+40*33 10d50+20*16 118a0+20*20 16e40+20*20 1e900+22*22"

/-- The groups of more than two, separated by commas. -/
def foldGroups : String :=
  "4b 6b 212a, 53 73 17f, b5 39c 3bc, c5 e5 212b, 1c4 1c5 1c6, 1c7 1c8 1c9, 1ca 1cb 1cc,
   1f1 1f2 1f3, 345 399 3b9 1fbe, 392 3b2 3d0, 395 3b5 3f5, 398 3b8 3d1 3f4, 39a 3ba 3f0,
   3a0 3c0 3d6, 3a1 3c1 3f1, 3a3 3c2 3c3, 3a6 3c6 3d5, 3a9 3c9 2126, 412 432 1c80, 414 434
   1c81, 41e 43e 1c82, 421 441 1c83, 422 442 1c84 1c85, 42a 44a 1c86, 462 463 1c87, 1c88
   a64a a64b, 1e60 1e61 1e9b"

/-! ## Reading the data -/

/-- The part of an item behind a mark, up to the next mark. -/
def partBehind (mark : Char) (item : List Char) : List Char :=
  ((item.dropWhile (· != mark)).drop 1).takeWhile (hexDigit? · |>.isSome)

/-- The pairs of one run. -/
def pairsOfRun (item : List Char) : List (List Nat) :=
  let first := hexNumber (item.takeWhile (hexDigit? · |>.isSome))
  let distance := hexNumber (partBehind '+' item)
  let count := max 1 (hexNumber (partBehind '*' item))
  let step := max 1 (hexNumber (partBehind '/' item))
  (List.range count).map fun k => [first + k * step, first + k * step + distance]

/-- The code points of a group. -/
def codesOf (group : String) : List Nat := (Text.wordsOf group.toList).map hexNumber

/-- The groups of code points that differ only in case. -/
def foldOrbits : List (List Nat) :=
  (Text.wordsOf foldRuns.toList).flatMap pairsOfRun ++ (foldGroups.splitOn ",").map codesOf

/-- The group of each code point that is in one. -/
def foldTable : Std.HashMap Nat (List Nat) :=
  foldOrbits.foldl (fun table orbit =>
    orbit.foldl (fun table code => table.insert code orbit) table) ∅

/-- The code points that differ from one only in case, and itself. -/
def caseVariants (code : Nat) : List Nat := (foldTable[code]?).getD [code]

/-! ## Closing a set under folding -/

/-- A set together with all code points that differ from one of it only in case. -/
def CodeSet.foldCase (set : CodeSet) : CodeSet :=
  set.union (.ofCodes ((foldOrbits.filter fun orbit => orbit.any set.contains).flatten))

end Rulebook.Unicode
