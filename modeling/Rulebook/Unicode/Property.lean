/-
  Rulebook.Unicode.Property

  Finding the code points that have a Unicode property, by any of the names of the
  property.  Names are compared without regard to case, spaces, hyphens,
  underscores and a leading `is`.
-/
import Rulebook.Unicode.Age
import Rulebook.Unicode.BinaryProperty
import Rulebook.Unicode.CodeSet
import Rulebook.Unicode.GeneralCategory
import Rulebook.Unicode.Script
import Rulebook.Unicode.ScriptExtension
import Rulebook.Unicode.Segmentation
import Std.Data.HashMap

namespace Rulebook.Unicode

/-! ## Names -/

/-- A name as the tables write it.  The name `isc` keeps its first letters, because what
    is behind them is a name of something else. -/
def tableName (name : String) : String :=
  let kept := fun (s : List Char) =>
    (s.filter fun c => c.toNat < 0x80 && c != ' ' && c != '_' && c != '-').map Char.toLower
  match name.toList with
  | a :: b :: rest =>
    if a.toLower = 'i' ∧ b.toLower = 's' then
      if kept rest = ['c'] then "isc" else String.ofList (kept rest)
    else String.ofList (kept (a :: b :: rest))
  | short => String.ofList (kept short)

/-! ## Indexes -/

/-- Sets under their names.  A set is worked out when it is asked for, and then kept. -/
abbrev Index := Std.HashMap String (Thunk CodeSet)

namespace Index

/-- Give a set some names, separated by blanks.  A name that is in use stays with its set. -/
def add (index : Index) (names : String) (set : Thunk CodeSet) : Index :=
  (Text.words names).foldl (fun index name => index.insertIfNew name set) index

/-- The index of a table of names and ranges. -/
def ofTable (table : List (String × String)) : Index :=
  table.foldl (fun index (names, ranges) =>
    index.add names (Thunk.mk fun _ => .ofText ranges)) ∅

/-- The set of a name. -/
def find? (index : Index) (name : String) : Option CodeSet := (index[name]?).map Thunk.get

/-- The set of a name that is known to have one. -/
def find (index : Index) (name : String) : CodeSet := (index.find? name).getD .empty

end Index

/-! ## Kinds of properties -/

/-- The general categories of the table. -/
def singleCategories : Index := .ofTable generalCategories

/-- The code points of several general categories. -/
def categories (names : String) : CodeSet :=
  .ofRanges ((Text.words names).flatMap fun name => (singleCategories.find name).ranges)

/-- The surrogates, which are no characters. -/
def surrogates : CodeSet := ⟨[(0xD800, 0xDFFF)]⟩

/-- The code points that are assigned to something. -/
def assigned : CodeSet :=
  .ofRanges (generalCategories.flatMap fun (_, ranges) => (CodeSet.ofText ranges).ranges)

/-- The code points that are not assigned. -/
def unassigned : CodeSet := (assigned.union surrogates).complement

/-- The general categories, and groups of them. -/
def allCategories : Index :=
  let groups : List (String × (Unit → CodeSet)) :=
    [("any", fun _ => .full),
     ("ascii", fun _ => ⟨[(0, 0x7F)]⟩),
     ("assigned", fun _ => assigned),
     ("cn unassigned", fun _ => unassigned),
     ("lc casedletter", fun _ => categories "lu ll lt"),
     ("l letter", fun _ => categories "lu ll lt lm lo"),
     ("m mark combiningmark", fun _ => categories "mn mc me"),
     ("n number", fun _ => categories "nd nl no"),
     ("p punctuation punct", fun _ => categories "pc pd ps pe pi pf po"),
     ("s symbol", fun _ => categories "sm sc sk so"),
     ("z separator", fun _ => categories "zs zl zp"),
     ("c other", fun _ => (categories "cc cf co").union unassigned)]
  let grouped : Index := groups.foldl (fun index (names, set) => index.add names (Thunk.mk set)) ∅
  generalCategories.foldl (fun index (names, ranges) =>
    index.add names (Thunk.mk fun _ => .ofText ranges)) grouped

/-- The code points that each version of the standard assigned, or one before it. -/
def assignedBy : Index :=
  let none : Thunk CodeSet := Thunk.mk fun _ => .empty
  (ages.foldl (fun (index, before) (names, ranges) =>
    let set := Thunk.mk fun _ => before.get.union (.ofText ranges)
    (Index.add index names set, set)) (∅, none)).1

/-- The binary properties. -/
def binarySets : Index := .ofTable binaryProperties

/-- The scripts. -/
def scriptSets : Index := .ofTable scripts

/-- The code points used with each script that is used with more than its own. -/
def scriptExtensionSets : Index := .ofTable scriptExtensions

/-- The values of the property of breaks between graphemes. -/
def graphemeBreakSets : Index := .ofTable graphemeBreaks

/-- The values of the property of breaks between words. -/
def wordBreakSets : Index := .ofTable wordBreaks

/-- The values of the property of breaks between sentences. -/
def sentenceBreakSets : Index := .ofTable sentenceBreaks

/-! ## Queries -/

/-- The code points of a property that one name gives: a binary property, a general
    category or a script.  Three names stand for categories only. -/
def named? (name : String) : Option CodeSet :=
  let name := tableName name
  let binary := if ["cf", "sc", "lc"].contains name then none else binarySets.find? name
  (binary.or (allCategories.find? name)).or (scriptSets.find? name)

/-- The code points for which a property has a value. -/
def valued? (property value : String) : Option CodeSet :=
  let value := tableName value
  match tableName property with
  | "generalcategory" | "gc" => allCategories.find? value
  | "script" | "sc" => scriptSets.find? value
  | "scriptextensions" | "scx" => (scriptExtensionSets.find? value).or (scriptSets.find? value)
  | "age" => assignedBy.find? value
  | "graphemeclusterbreak" | "gcb" => graphemeBreakSets.find? value
  | "wordbreak" | "wb" => wordBreakSets.find? value
  | "sentencebreak" | "sb" => sentenceBreakSets.find? value
  | _ => none

/-! ## Classes that patterns name -/

/-- The decimal digits. -/
def digits : CodeSet := singleCategories.find "nd"

/-- The blanks. -/
def blanks : CodeSet := .ofCodes Text.blankCodes

/-- The alphabetic code points. -/
def alphabetic : CodeSet := binarySets.find "alphabetic"

/-- The code points that are no decimal digits. -/
def nonDigits : CodeSet := digits.complement

/-- The code points that are no blanks. -/
def nonBlanks : CodeSet := blanks.complement

/-- The code points of words: alphabetic ones, marks, digits, connectors and joiners. -/
def wordCodes : CodeSet :=
  (alphabetic.union (categories "mn mc me nd pc")).union (binarySets.find "joincontrol")

/-- The code points that are not of words. -/
def nonWordCodes : CodeSet := wordCodes.complement

/-! ## Characters of names

The tables are those of version 16 of the standard.  Names may also be written with what
version 17 adds. -/

/-- The alphabetic code points that version 17 of the standard adds. -/
def newerAlphabetic : CodeSet := .ofText
  "88f 3cc 7f 9af1+1 2 1 1c 614e+19 56b+2 32+1 c64+7 248+2b 50c4+18 2+18 11e+4 1801+7 509+15
   61+72 58cd+1e 1+15 8+1 d03a+5 1762+b 5502+10c9"

/-- The numbers that version 17 of the standard adds. -/
def newerNumbers : CodeSet := .ofText "11de0+9 520a+2"

/-- The alphabetic code points, newer ones included. -/
def nameAlphabetic : CodeSet := alphabetic.union newerAlphabetic

/-- The alphabetic code points and the numbers, newer ones included. -/
def nameAlphanumeric : CodeSet :=
  (nameAlphabetic.union (categories "nd nl no")).union newerNumbers

end Rulebook.Unicode
