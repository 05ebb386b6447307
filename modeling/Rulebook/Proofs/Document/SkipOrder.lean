/-
  Rulebook.Proofs.Document.SkipOrder

  The order in which a document tells of its skipped entries, and what it keeps of its
  lists.  The skipped entries are in the order of their places: the variables by name, then
  the rule sets by name, with the parts of each and the items of its lists by index
  (`inOrder_ignored`).  So no entry is there twice, and those of one list are the items of
  it that are no texts, each with the index that it had (`skippedItems_eq`).  Together with
  the texts that were kept they make up the list again (`rebuild_texts_others`).
-/
import Mathlib.Data.List.Sort
import Mathlib.Data.String.Basic
import Rulebook.Proofs.Document.Nulls

namespace Rulebook

open Json (itemsOf membersOf)

/-! ## Lists in two parts -/

namespace Json

/-- The items of a list that are no texts, each with its index; the first item of the list has
    the given one. -/
def othersFrom (start : Nat) (items : List Json) : List (Nat × Json) :=
  ((items.zipIdx start).filter fun (value, _) => value.text?.isNone).map
    fun (value, index) => (index, value)

/-- The items of a list that are no texts, each with its index in the list. -/
def others (items : List Json) : List (Nat × Json) := othersFrom 0 items

/-- The list of some texts and some other items, the first of which has the given index: an
    item stands at its own index, and the texts fill the places between. -/
def rebuild : Nat → List String → List (Nat × Json) → List Json
  | _, texts, [] => texts.map .string
  | _, [], rest => rest.map Prod.snd
  | start, text :: texts, (index, value) :: rest =>
    if index = start then value :: rebuild (start + 1) (text :: texts) rest
    else .string text :: rebuild (start + 1) texts ((index, value) :: rest)
termination_by _ texts rest => texts.length + rest.length

theorem eq_string_of_text? {value : Json} {text : String} (h : value.text? = some text) :
    value = .string text := by
  cases value <;> simp_all [text?]

theorem othersFrom_cons_text {value : Json} {text : String} (h : value.text? = some text)
    (start : Nat) (items : List Json) :
    othersFrom start (value :: items) = othersFrom (start + 1) items := by
  simp [othersFrom, h]

theorem othersFrom_cons_other {value : Json} (h : value.text? = none) (start : Nat)
    (items : List Json) :
    othersFrom start (value :: items) = (start, value) :: othersFrom (start + 1) items := by
  simp [othersFrom, h]

theorem mem_othersFrom {start index : Nat} {value : Json} {items : List Json} :
    (start + index, value) ∈ othersFrom start items ↔
      items[index]? = some value ∧ value.text? = none := by
  simp [othersFrom, List.mem_zipIdx_iff_le_and_getElem?_sub]

theorem le_of_mem_othersFrom {start index : Nat} {value : Json} {items : List Json}
    (h : (index, value) ∈ othersFrom start items) : start ≤ index := by
  obtain ⟨⟨_, _⟩, hentry, heq⟩ := List.mem_map.mp h
  cases heq
  exact (List.mem_zipIdx_iff_le_and_getElem?_sub.mp (List.mem_filter.mp hentry).1).1

theorem rebuild_cons_text {start : Nat} {text : String} {texts : List String}
    {rest : List (Nat × Json)} (h : ∀ index value, (index, value) ∈ rest → start < index) :
    rebuild start (text :: texts) rest = .string text :: rebuild (start + 1) texts rest := by
  cases rest with
  | nil => simp [rebuild]
  | cons entry rest =>
    obtain ⟨index, value⟩ := entry
    have hlater : start < index := h index value (by simp)
    rw [rebuild, if_neg (by omega)]

theorem rebuild_cons_other (start : Nat) (value : Json) (texts : List String)
    (rest : List (Nat × Json)) :
    rebuild start texts ((start, value) :: rest) = value :: rebuild (start + 1) texts rest := by
  cases texts with
  | nil =>
    -- without texts the items stand as they come
    cases rest <;> simp [rebuild]
  | cons text texts => simp [rebuild]

/-- A list is made up of its texts and its other items. -/
theorem rebuild_texts_others (start : Nat) (items : List Json) :
    rebuild start (items.filterMap text?) (othersFrom start items) = items := by
  induction items generalizing start with
  | nil => simp [rebuild, othersFrom]
  | cons value items ih =>
    cases htext : value.text? with
    | some text =>
      have hlater : ∀ index other, (index, other) ∈ othersFrom (start + 1) items →
          start < index := fun _ _ hmem => le_of_mem_othersFrom hmem
      rw [List.filterMap_cons_some htext, othersFrom_cons_text htext, rebuild_cons_text hlater, ih,
        eq_string_of_text? htext]
    | none =>
      rw [List.filterMap_cons_none htext, othersFrom_cons_other htext, rebuild_cons_other, ih]

end Json

/-! ## The order of places -/

/-- The lists of a rule set in the order in which they are read, behind the set as a whole and
    its flag. -/
def ListField.part : ListField → Nat
  | rules => 2
  | children => 3

namespace Location

/-- The parts of a document in the order in which they are read: the variables and then the
    rule sets, each as a whole and then one by one. -/
def stage : Location → Nat
  | allVariables => 0
  | oneVariable _ => 1
  | allSets => 2
  | oneSet _ | enabled _ | list _ _ | item _ _ _ => 3

/-- The name of the variable or the rule set that a place belongs to. -/
def owner : Location → String
  | allVariables | allSets => ""
  | oneVariable name | oneSet name => name
  | enabled set | list set _ | item set _ _ => set

/-- The parts of a rule set in the order in which they are read: the set as a whole, its flag,
    its rules and its children. -/
def part : Location → Nat
  | allVariables | oneVariable _ | allSets | oneSet _ => 0
  | enabled _ => 1
  | list _ field | item _ field _ => field.part

/-- The items of a list come behind the list as a whole, in order. -/
def rank : Location → Nat
  | item _ _ index => index + 1
  | _ => 0

/-- One place comes before another in the order in which a document is read. -/
def Before (a b : Location) : Prop :=
  a.stage < b.stage ∨ a.stage = b.stage ∧
    (a.owner < b.owner ∨ a.owner = b.owner ∧
      (a.part < b.part ∨ a.part = b.part ∧ a.rank < b.rank))

theorem not_before_self (location : Location) : ¬ location.Before location := by
  simp [Before]

theorem Before.not_before {a b : Location} (h : a.Before b) : ¬ b.Before a := by
  intro hback
  rcases h with h | ⟨hstage, h⟩
  · rcases hback with hback | ⟨hstage, -⟩ <;> omega
  · rcases hback with hback | ⟨-, hback⟩
    · omega
    · rcases h with h | ⟨howner, h⟩
      · rcases hback with hback | ⟨howner, -⟩
        · exact absurd hback (lt_asymm h)
        · exact absurd howner.symm (ne_of_lt h)
      · rcases hback with hback | ⟨-, hback⟩
        · exact absurd howner.symm (ne_of_lt hback)
        · omega

/-- Null is as good as no value at all, except as a variable or as an item of a list. -/
def countsNull : Location → Bool
  | oneVariable _ | item _ _ _ => true
  | _ => false

theorem takes_null (location : Location) : location.takes .null = !location.countsNull := by
  cases location <;> rfl

end Location

/-- The texts of a list of a rule set. -/
def SetEntry.texts (entry : SetEntry) : ListField → List String
  | .rules => entry.rules
  | .children => entry.children

namespace Document

/-! ## The order of what is skipped -/

/-- Skipped entries stand in the order of their places. -/
def InOrder (entries : List Ignored) : Prop :=
  entries.Pairwise fun a b => a.location.Before b.location

theorem inOrder_append {entries later : List Ignored} :
    InOrder (entries ++ later) ↔ InOrder entries ∧ InOrder later ∧
      ∀ a ∈ entries, ∀ b ∈ later, a.location.Before b.location :=
  List.pairwise_append

theorem InOrder.nodup {entries : List Ignored} (h : InOrder entries) :
    (entries.map Ignored.location).Nodup := by
  refine List.pairwise_map.mpr (h.imp ?_)
  intro a b hbefore heq
  rw [heq] at hbefore
  exact Location.not_before_self _ hbefore

/-- There is one order of some entries. -/
theorem InOrder.eq_of_mem_iff {entries entries' : List Ignored} (h : InOrder entries)
    (h' : InOrder entries') (hmem : ∀ e, e ∈ entries ↔ e ∈ entries') : entries = entries' := by
  have hirrefl : Std.Irrefl fun a b : Ignored => a.location.Before b.location :=
    ⟨fun a => a.location.not_before_self⟩
  have hantisymm : Std.Antisymm fun a b : Ignored => a.location.Before b.location :=
    ⟨fun _ _ hab hba => absurd hba hab.not_before⟩
  exact List.Pairwise.eq_of_mem_iff h h' hmem

theorem inOrder_section? (location : Location) (value : Option Json) :
    InOrder (section? location value).2 := by
  rcases value with _ | value
  · exact .nil
  · cases value <;> simp [section?, InOrder]

theorem inOrder_readVariables (map : Json.Members) :
    InOrder (readVariables map.toList).2 := by
  rw [readVariables_eq]
  refine List.pairwise_map.mpr ((map.pairwise_toList.filter _).imp ?_)
  intro a b h
  exact .inr ⟨rfl, .inl (compare_lt_iff_lt.mp h)⟩

theorem inOrder_readItems (set : String) (field : ListField) (start : Nat) (items : List Json) :
    InOrder (readItems set field start items).2 := by
  induction items generalizing start with
  | nil => exact .nil
  | cons first items ih =>
    have hlater := ih (start + 1)
    have hfirst : ∀ e ∈ (readItems set field (start + 1) items).2,
        (Location.item set field start).Before e.location := by
      intro e he
      obtain ⟨index, value, -, -, rfl⟩ := mem_readItems_ignored.mp he
      refine .inr ⟨rfl, .inr ⟨rfl, .inr ⟨rfl, ?_⟩⟩⟩
      show start + 1 < start + 1 + index + 1
      omega
    cases first with
    | string s => exact hlater
    | _ => exact .cons hfirst hlater

theorem inOrder_readList (set : String) (field : ListField) (value : Option Json) :
    InOrder (readList set field value).2 := by
  rcases value with _ | value
  · exact .nil
  · cases value with
    | array items => exact inOrder_readItems set field 0 items
    | _ => simp [readList, InOrder]

theorem inOrder_readEnabled (set : String) (value : Option Json) :
    InOrder (readEnabled set value).2 := by
  rcases value with _ | value
  · exact .nil
  · cases value <;> simp [readEnabled, InOrder]

/-- What is skipped in a list stands where the list does. -/
theorem place_of_mem_readList {set : String} {field : ListField} {value : Option Json}
    {e : Ignored} (h : e ∈ (readList set field value).2) :
    e.location.stage = 3 ∧ e.location.owner = set ∧ e.location.part = field.part := by
  rcases mem_readList_ignored.mp h with ⟨found, -, -, rfl⟩ | ⟨index, found, -, -, rfl⟩
  · exact ⟨rfl, rfl, rfl⟩
  · exact ⟨rfl, rfl, rfl⟩

/-- What is skipped in a rule set stands where the set does. -/
theorem place_of_mem_readSet {name : String} {value : Json} {e : Ignored}
    (h : e ∈ (readSet name value).2) : e.location.stage = 3 ∧ e.location.owner = name := by
  rcases mem_readSet_ignored.mp h with ⟨-, rfl⟩ | h | ⟨field, h⟩
  · exact ⟨rfl, rfl⟩
  · obtain ⟨found, -, -, rfl⟩ := mem_readEnabled_ignored.mp h
    exact ⟨rfl, rfl⟩
  · exact ⟨(place_of_mem_readList h).1, (place_of_mem_readList h).2.1⟩

/-- In a rule set the flag comes before the rules, and these before the children. -/
theorem inOrder_readSet (name : String) (value : Json) : InOrder (readSet name value).2 := by
  cases value with
  | object members =>
    simp only [readSet, List.append_assoc]
    have hrules := inOrder_readList name .rules (NameMap.ofEntries members)["rules"]?
    have hchildren := inOrder_readList name .children (NameMap.ofEntries members)["children"]?
    have hflag := inOrder_readEnabled name (NameMap.ofEntries members)["enabled"]?
    refine inOrder_append.mpr ⟨hflag, inOrder_append.mpr ⟨hrules, hchildren, ?_⟩, ?_⟩
    · intro a ha b hb
      obtain ⟨hstage, howner, hpart⟩ := place_of_mem_readList ha
      obtain ⟨hstage', howner', hpart'⟩ := place_of_mem_readList hb
      refine .inr ⟨hstage.trans hstage'.symm, .inr ⟨howner.trans howner'.symm, .inl ?_⟩⟩
      rw [hpart, hpart']
      exact (by decide : ListField.rules.part < ListField.children.part)
    · intro a ha b hb
      obtain ⟨found, -, -, rfl⟩ := mem_readEnabled_ignored.mp ha
      obtain ⟨field, hlist⟩ : ∃ field value, b ∈ (readList name field value).2 := by
        rcases List.mem_append.mp hb with hb | hb
        · exact ⟨_, _, hb⟩
        · exact ⟨_, _, hb⟩
      obtain ⟨value, hlist⟩ := hlist
      obtain ⟨hstage, howner, hpart⟩ := place_of_mem_readList hlist
      refine .inr ⟨hstage.symm, .inr ⟨howner.symm, .inl ?_⟩⟩
      rw [hpart]
      cases field with
      | rules => exact Nat.lt_succ_self 1
      | children => exact Nat.succ_lt_succ Nat.two_pos
  | _ => simp [readSet, InOrder]

theorem inOrder_readSets (map : Json.Members) : InOrder (readSets map.toList).2 := by
  rw [readSets_eq]
  refine List.pairwise_flatMap.mpr ⟨fun entry _ => inOrder_readSet entry.1 entry.2, ?_⟩
  refine map.pairwise_toList.imp ?_
  intro entry other h a ha b hb
  obtain ⟨hstage, howner⟩ := place_of_mem_readSet ha
  obtain ⟨hstage', howner'⟩ := place_of_mem_readSet hb
  refine .inr ⟨hstage.trans hstage'.symm, .inl ?_⟩
  rw [howner, howner']
  exact compare_lt_iff_lt.mp h

/-- The skipped entries of a document stand in the order of their places. -/
theorem inOrder_ignored (members : Json.Members) : InOrder (ofMembers members).ignored := by
  have hvariables := inOrder_section? .allVariables members["variables"]?
  have hsets := inOrder_section? .allSets members["rulesets"]?
  simp only [ofMembers, section?_fst]
  refine inOrder_append.mpr ⟨inOrder_append.mpr ⟨hvariables, inOrder_readVariables _, ?_⟩,
    inOrder_append.mpr ⟨hsets, inOrder_readSets _, ?_⟩, ?_⟩
  · intro a ha b hb
    obtain ⟨found, -, -, rfl⟩ := mem_section?_ignored.mp ha
    obtain ⟨name, value, -, -, rfl⟩ := mem_readVariables_ignored.mp hb
    exact .inl Nat.zero_lt_one
  · intro a ha b hb
    obtain ⟨found, -, -, rfl⟩ := mem_section?_ignored.mp ha
    obtain ⟨name, value, -, hset⟩ := mem_readSets_ignored.mp hb
    refine .inl ?_
    rw [(place_of_mem_readSet hset).1]
    exact Nat.lt_succ_self 2
  · intro a ha b hb
    have hfirst : a.location.stage ≤ 1 := by
      rcases List.mem_append.mp ha with ha | ha
      · obtain ⟨found, -, -, rfl⟩ := mem_section?_ignored.mp ha
        exact Nat.zero_le 1
      · obtain ⟨name, value, -, -, rfl⟩ := mem_readVariables_ignored.mp ha
        exact Nat.le_refl 1
    have hsecond : 2 ≤ b.location.stage := by
      rcases List.mem_append.mp hb with hb | hb
      · obtain ⟨found, -, -, rfl⟩ := mem_section?_ignored.mp hb
        exact Nat.le_refl 2
      · obtain ⟨name, value, -, hset⟩ := mem_readSets_ignored.mp hb
        rw [(place_of_mem_readSet hset).1]
        decide
    exact .inl (by omega)

/-! ## The skipped items of a list -/

/-- The skipped items of one list, each with its index. -/
def skippedItems (document : Document) (set : String) (field : ListField) : List (Nat × Json) :=
  document.ignored.filterMap fun entry =>
    match entry.location with
    | .item other otherField index =>
      if other = set ∧ otherField = field then some (index, entry.value) else none
    | _ => none

theorem mem_skippedItems {document : Document} {set : String} {field : ListField} {index : Nat}
    {value : Json} :
    (index, value) ∈ document.skippedItems set field ↔
      ⟨.item set field index, value⟩ ∈ document.ignored := by
  simp only [skippedItems, List.mem_filterMap]
  constructor
  · rintro ⟨⟨location, found⟩, hmem, hentry⟩
    cases location with
    | item other otherField index =>
      simp only [Option.ite_none_right_eq_some, Option.some.injEq, Prod.mk.injEq] at hentry
      obtain ⟨⟨rfl, rfl⟩, rfl, rfl⟩ := hentry
      exact hmem
    | _ => cases hentry
  · intro hmem
    exact ⟨_, hmem, by simp⟩

/-- The skipped items of a list stand in the order that they have in the list. -/
theorem InOrder.skippedItems {document : Document} (h : InOrder document.ignored) (set : String)
    (field : ListField) :
    (document.skippedItems set field).Pairwise fun a b => a.1 < b.1 := by
  refine List.Pairwise.filterMap _ ?_ h
  rintro ⟨a, valueA⟩ ⟨b, valueB⟩ hbefore ⟨i, v⟩ ha ⟨j, w⟩ hb
  cases a with
  | item =>
    cases b with
    | item =>
      simp only [Option.ite_none_right_eq_some, Option.some.injEq, Prod.mk.injEq] at ha hb
      obtain ⟨⟨rfl, rfl⟩, rfl, rfl⟩ := ha
      obtain ⟨⟨rfl, rfl⟩, rfl, rfl⟩ := hb
      -- the places differ in their indices only
      simpa [Location.Before, Location.stage, Location.owner, Location.part, Location.rank]
        using hbefore
    | _ => cases hb
  | _ => cases ha

theorem pairwise_othersFrom (start : Nat) (items : List Json) :
    (Json.othersFrom start items).Pairwise fun a b => a.1 < b.1 := by
  induction items generalizing start with
  | nil => exact .nil
  | cons value items ih =>
    cases htext : value.text? with
    | some text =>
      rw [Json.othersFrom_cons_text htext]
      exact ih (start + 1)
    | none =>
      rw [Json.othersFrom_cons_other htext]
      refine .cons ?_ (ih (start + 1))
      rintro ⟨index, other⟩ hmem
      exact Json.le_of_mem_othersFrom hmem

/-- What is skipped of a list is the items of it that are no texts, at their places. -/
theorem skippedItems_eq (members : Json.Members) (set : String) (field : ListField) :
    (ofMembers members).skippedItems set field =
      Json.others (itemsOf ((Location.list set field).valueIn members)) := by
  have hirrefl : Std.Irrefl fun a b : Nat × Json => a.1 < b.1 := ⟨fun a => Nat.lt_irrefl a.1⟩
  have hantisymm : Std.Antisymm fun a b : Nat × Json => a.1 < b.1 :=
    ⟨fun a b hab hba => absurd hba (Nat.lt_asymm hab)⟩
  -- both lists are in strict order, so it is enough that they have the same members
  refine (inOrder_ignored members).skippedItems set field |>.eq_of_mem_iff
    (pairwise_othersFrom 0 _) ?_
  rintro ⟨index, value⟩
  have hmem := @Json.mem_othersFrom 0 index value
    (itemsOf ((Location.list set field).valueIn members))
  rw [Nat.zero_add] at hmem
  rw [mem_skippedItems, mem_ignored_iff, Json.others, hmem, Location.valueIn_item,
    Location.takes_item_eq_false_iff]

/-! ## The account -/

/-- What is kept of a list, and what is skipped of a document. -/
structure ReadAccount (members : Json.Members) (document : Document) : Prop where
  /-- The texts of a list are kept in order, and the other items are skipped, each with its
      index and its value.  So the list can be made up again. -/
  list_eq (set : String) (field : ListField) (items : List Json) :
    (Location.list set field).valueIn members = some (.array items) →
    ∃ entry, document.sets[set]? = some entry ∧
      entry.texts field = items.filterMap Json.text? ∧
      document.skippedItems set field = Json.others items ∧
      Json.rebuild 0 (entry.texts field) (document.skippedItems set field) = items
  /-- The values of the wrong type are skipped, and no others. -/
  mem_ignored_iff (location : Location) (value : Json) :
    ⟨location, value⟩ ∈ document.ignored ↔
      location.valueIn members = some value ∧ location.takes value = false
  /-- They stand in the order of their places, which is the only one. -/
  inOrder : InOrder document.ignored
  eq_ignored (entries : List Ignored) : InOrder entries →
    (∀ e, e ∈ entries ↔ e ∈ document.ignored) → entries = document.ignored
  /-- No place is there twice. -/
  nodup : (document.ignored.map Ignored.location).Nodup
  /-- Null is skipped as a variable and as an item of a list. -/
  mem_of_null (location : Location) : location.valueIn members = some .null →
    (location ∈ document.ignored.map Ignored.location ↔ location.countsNull = true)
  /-- Elsewhere it is as good as no value. -/
  ignored_withoutNulls : (ofMembers (withoutNulls members)).ignored = document.ignored

theorem texts_ofMembers {members : Json.Members} {set : String} {field : ListField}
    {items : List Json} (h : (Location.list set field).valueIn members = some (.array items)) :
    ∃ entry, (ofMembers members).sets[set]? = some entry ∧
      entry.texts field = items.filterMap Json.text? := by
  cases hset : (membersOf members["rulesets"]?)[set]? with
  | none => simp [Location.valueIn, hset] at h
  | some value =>
    rw [Location.valueIn, hset] at h
    refine ⟨(readSet set value).1, ?_, ?_⟩
    · rw [getElem?_sets_ofMembers, hset, Option.map_some]
    · have htexts : (readSet set value).1.texts field =
          (readList set field (membersOf (some value))[field.text]?).1 := by
        rw [readSet_fst]
        cases field <;> rfl
      rw [htexts, h, readList, readItems_fst]

/-- Reading a document accounts for every item of its lists and every value of the wrong
    type. -/
theorem ofMembers_accounts (members : Json.Members) :
    ReadAccount members (ofMembers members) where
  list_eq set field items hitems := by
    obtain ⟨entry, hentry, htexts⟩ := texts_ofMembers hitems
    have hskipped : (ofMembers members).skippedItems set field = Json.others items := by
      rw [skippedItems_eq, hitems]
      rfl
    refine ⟨entry, hentry, htexts, hskipped, ?_⟩
    rw [htexts, hskipped]
    exact Json.rebuild_texts_others 0 items
  mem_ignored_iff _ _ := mem_ignored_iff
  inOrder := inOrder_ignored members
  eq_ignored _ horder hmem := horder.eq_of_mem_iff (inOrder_ignored members) hmem
  nodup := (inOrder_ignored members).nodup
  mem_of_null location hnull := by
    constructor
    · intro hmem
      obtain ⟨⟨_, value⟩, hentry, rfl⟩ := List.mem_map.mp hmem
      obtain ⟨hvalue, htakes⟩ := mem_ignored_iff.mp hentry
      obtain rfl : Json.null = value := Option.some.inj (hnull.symm.trans hvalue)
      simpa [Location.takes_null] using htakes
    · intro hcounts
      refine List.mem_map_of_mem (f := Ignored.location) (mem_ignored_iff.mpr ⟨hnull, ?_⟩)
      simp [Location.takes_null, hcounts]
  ignored_withoutNulls := by
    refine (inOrder_ignored _).eq_of_mem_iff (inOrder_ignored members) ?_
    rintro ⟨location, value⟩
    rw [mem_ignored_iff, mem_ignored_iff]
    exact and_congr_left valueIn_withoutNulls_iff

example :
    (ofMembers (NameMap.ofEntries [
      ("rulesets", .object [
        ("main", .object [("children", .array [.null, .string "next"]), ("enabled", .string "yes"),
          ("rules", .array [.string "a", .bool true, .string "b"])]),
        ("bare", .bool false), ("none", .null)]),
      ("variables", .object [("list", .array [.null]), ("name", .string "x")])])).ignored.map
        (·.location.text) =
      ["variables.list", "rulesets.bare", "rulesets.main.enabled", "rulesets.main.rules[1]",
        "rulesets.main.children[0]"] := by
  cbv

end Document

end Rulebook
