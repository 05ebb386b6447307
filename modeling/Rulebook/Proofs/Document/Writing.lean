/-
  Rulebook.Proofs.Document.Writing

  Reading a document back from the object that is written for it.  The writer and the
  reader name the parts of a document alike, and what is written at a place is of the
  type that the place takes.  So every variable and every rule set is read as it was,
  and nothing is skipped (`reads_back`).
-/
import Mathlib.Data.String.Basic
import Rulebook.Proofs.Document.Reading

namespace Rulebook.Document

open Json (membersOf)

/-! ## Rule sets -/

@[simp] theorem readItems_map_string (set : String) (field : ListField) (start : Nat)
    (texts : List String) : readItems set field start (texts.map .string) = (texts, []) := by
  induction texts generalizing start with
  | nil => rfl
  | cons text texts ih => rw [List.map_cons, readItems, ih]

/-- A rule set is read as it was written: what is given is of the right type, and a list of
    no texts or a flag that is set is written as well. -/
theorem readSet_setJson (name : String) (set : SetEntry) :
    readSet name (setJson set) = (set, []) := by
  obtain ⟨enabled, rules, children⟩ := set
  simp only [setJson, readSet, NameMap.ofEntries, List.foldl_cons, List.foldl_nil,
    NameMap.getElem?_insert_name, String.reduceEq, if_true, if_false, readEnabled, readList,
    readItems_map_string, List.append_nil]

/-! ## The members of a written document -/

variable (document : Document)

theorem getElem?_toMembers_variables :
    (toMembers document)["variables"]? = some (.object (document.bindings.toList.map
      fun (name, text) => (name, .string text))) := by
  simp only [toMembers, NameMap.ofEntries, List.foldl_cons, List.foldl_nil,
    NameMap.getElem?_insert_name, String.reduceEq, if_true, if_false]

theorem getElem?_toMembers_rulesets :
    (toMembers document)["rulesets"]? = some (.object (document.sets.toList.map
      fun (name, set) => (name, setJson set))) := by
  simp only [toMembers, NameMap.ofEntries, List.foldl_cons, List.foldl_nil,
    NameMap.getElem?_insert_name, if_true]

theorem getElem?_membersOf_variables (name : String) :
    (membersOf (toMembers document)["variables"]?)[name]? =
      document.bindings[name]?.map .string := by
  rw [getElem?_toMembers_variables]
  exact NameMap.getElem?_ofEntries_map_toList _ Json.string name

theorem getElem?_membersOf_rulesets (name : String) :
    (membersOf (toMembers document)["rulesets"]?)[name]? = document.sets[name]?.map setJson := by
  rw [getElem?_toMembers_rulesets]
  exact NameMap.getElem?_ofEntries_map_toList _ setJson name

/-! ## Reading back -/

theorem bindings_ofMembers_toMembers :
    (ofMembers (toMembers document)).bindings = document.bindings := by
  refine Std.ExtTreeMap.ext_getElem? fun name => ?_
  rw [getElem?_bindings_ofMembers, getElem?_membersOf_variables]
  cases document.bindings[name]? <;> rfl

theorem sets_ofMembers_toMembers :
    (ofMembers (toMembers document)).sets = document.sets := by
  refine Std.ExtTreeMap.ext_getElem? fun name => ?_
  rw [getElem?_sets_ofMembers, getElem?_membersOf_rulesets, Option.map_map]
  simp only [Function.comp_def, readSet_setJson, Option.map_id']

theorem ignored_ofMembers_toMembers : (ofMembers (toMembers document)).ignored = [] := by
  refine List.eq_nil_iff_forall_not_mem.mpr fun entry hentry => ?_
  rw [mem_ignored_ofMembers] at hentry
  rcases hentry with h | ⟨name, value, hvalue, htext, -⟩ | h | ⟨name, value, hvalue, h⟩
  · rw [getElem?_toMembers_variables] at h
    cases h
  · rw [getElem?_membersOf_variables] at hvalue
    obtain ⟨text, -, rfl⟩ := Option.map_eq_some_iff.mp hvalue
    cases htext
  · rw [getElem?_toMembers_rulesets] at h
    cases h
  · rw [getElem?_membersOf_rulesets] at hvalue
    obtain ⟨set, -, rfl⟩ := Option.map_eq_some_iff.mp hvalue
    rw [readSet_setJson] at h
    cases h

attribute [ext] Document

theorem ofMembers_toMembers :
    ofMembers (toMembers document) = { document with ignored := [] } :=
  Document.ext (bindings_ofMembers_toMembers document) (sets_ofMembers_toMembers document)
    (ignored_ofMembers_toMembers document)

/-- The object that is written for a document is read as that document, with nothing skipped,
    and so is every text that holds this object and nothing behind it.  So what is read
    from any object comes back after it was written and read again. -/
theorem reads_back :
    (∀ document : Document, ofMembers (toMembers document) = { document with ignored := [] }) ∧
    (∀ (document : Document) (text : String) (rest : List Char),
      Json.readFirst text.toList = some (Json.ofMembers (toMembers document), rest) →
      Json.skipSpace rest = [] → read text = .ok { document with ignored := [] }) ∧
    ∀ members : Json.Members,
      (ofMembers (toMembers (ofMembers members))).bindings = (ofMembers members).bindings ∧
      (ofMembers (toMembers (ofMembers members))).sets = (ofMembers members).sets ∧
      (ofMembers (toMembers (ofMembers members))).ignored = [] := by
  refine ⟨ofMembers_toMembers, ?_, ?_⟩
  · intro document text rest hfirst hrest
    simp [read, hfirst, Json.ofMembers, hrest, ofMembers_toMembers]
  · intro members
    rw [ofMembers_toMembers]
    exact ⟨rfl, rfl, rfl⟩

/-- The document has a variable with the empty text and a set that is disabled and has no rules,
    and something was skipped when it was read.  The members of the text are not in order. -/
theorem reads_back_text :
    let document : Document :=
      { bindings := Std.ExtTreeMap.insert ∅ "x" ""
        sets := Std.ExtTreeMap.insert ∅ "a" ⟨false, [], ["b c"]⟩
        ignored := [⟨.allSets, .bool true⟩] }
    let text := "\x7b\"variables\": \x7b\"x\": \"\"\x7d, \"rulesets\": \x7b\"a\": " ++
      "\x7b\"enabled\": false, \"rules\": [], \"children\": [\"b c\"]\x7d\x7d\x7d\n"
    Json.readFirst text.toList = some (Json.ofMembers (toMembers document), ['\n']) ∧
      Json.skipSpace ['\n'] = [] ∧ read text = .ok { document with ignored := [] } := by
  intro document text
  have hobject : Json.ofMembers (toMembers document) = .object
      [("rulesets", .object [("a", setJson ⟨false, [], ["b c"]⟩)]),
        ("variables", .object [("x", .string "")])] := rfl
  have hfirst : Json.readFirst text.toList =
      some (Json.ofMembers (toMembers document), ['\n']) := by
    rw [hobject]
    dsimp only [text, setJson]
    cbv
  have hrest : Json.skipSpace ['\n'] = [] := by decide
  exact ⟨hfirst, hrest, reads_back.2.1 document text ['\n'] hfirst hrest⟩

end Rulebook.Document
