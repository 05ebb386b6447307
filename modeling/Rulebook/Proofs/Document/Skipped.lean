/-
  Rulebook.Proofs.Document.Skipped

  What the skipped entries of a document do.  The object of the document without them
  is read with nothing skipped, and gives the same variables and, but for one case, the
  same rule sets: an entry that is skipped as a whole rule set still stands for the
  empty set, which takes the place of the set that the engine had under its name
  (`load_withoutIgnored`).
-/
import Rulebook.Kind.Custom
import Rulebook.Proofs.Document.Account
import Rulebook.Proofs.Document.Reading
import Rulebook.Proofs.JsonPruning

namespace Rulebook

open Json (Place itemsOf membersOf prune? pruneItems pruneMembers inside)

/-! ## Places of skipped entries -/

/-- The place of an entry in the object of a document. -/
def Location.place : Location → Place
  | allVariables => [.member "variables"]
  | oneVariable name => [.member "variables", .member name]
  | allSets => [.member "rulesets"]
  | oneSet name => [.member "rulesets", .member name]
  | enabled set => [.member "rulesets", .member set, .member "enabled"]
  | list set field => [.member "rulesets", .member set, .member field.text]
  | item set field index =>
    [.member "rulesets", .member set, .member field.text, .item index]

theorem ListField.text_injective : Function.Injective ListField.text := by
  intro field field' h
  cases field <;> cases field' <;> first | rfl | exact absurd h (by decide)

theorem ListField.text_ne_enabled (field : ListField) : field.text ≠ "enabled" := by
  cases field <;> decide

theorem Location.place_injective : Function.Injective Location.place := by
  intro location location' h
  have hne : ∀ field : ListField, "enabled" ≠ field.text := fun field =>
    field.text_ne_enabled.symm
  cases location <;> cases location' <;>
    simp_all [place, ListField.text_injective.eq_iff, ListField.text_ne_enabled]

namespace Document

/-- An entry at the place was skipped. -/
def isIgnored (document : Document) (place : Place) : Bool :=
  document.ignored.any fun entry => entry.location.place = place

/-- The object of a document without the entries that are skipped. -/
def withoutIgnored (members : Json.Members) : Json.Members :=
  NameMap.ofEntries (pruneMembers (ofMembers members).isIgnored members.toList)

variable {members : Json.Members} {location : Location}

theorem isIgnored_place_iff :
    (ofMembers members).isIgnored location.place = true ↔
      ∃ value, location.valueIn members = some value ∧ location.takes value = false := by
  simp only [isIgnored, List.any_eq_true, decide_eq_true_eq, Location.place_injective.eq_iff]
  constructor
  · rintro ⟨⟨_, value⟩, hmem, rfl⟩
    exact ⟨value, mem_ignored_iff.mp hmem⟩
  · rintro ⟨value, h⟩
    exact ⟨_, mem_ignored_iff.mpr h, rfl⟩

theorem takes_eq_false_of_isIgnored {value : Json}
    (hvalue : location.valueIn members = some value)
    (h : (ofMembers members).isIgnored location.place = true) : location.takes value = false := by
  obtain ⟨found, hfound, htakes⟩ := isIgnored_place_iff.mp h
  obtain rfl : found = value := Option.some.inj (hfound.symm.trans hvalue)
  exact htakes

variable {gone : Place → Bool}

/-! ## Reading what is left

  If values are taken out only for their type, those that are left are read as before. -/

theorem getElem?_membersOf_prune? {value : Option Json}
    (h : ∀ found, value = some found → gone [] = true → found.isSection = false)
    (name : String) :
    (membersOf (value.bind (prune? gone)))[name]? =
      (membersOf value)[name]?.bind (prune? (inside gone (.member name))) := by
  rcases value with _ | value
  · simp [membersOf]
  · cases hgone : gone [] with
    | true =>
      have hnone : prune? gone value = none := Json.prune?_eq_none_iff.mpr hgone
      rw [Option.bind_some, hnone, membersOf_mistyped (h value rfl hgone)]
      simp [membersOf]
    | false => cases value <;> simp [membersOf, hgone, Json.getElem?_ofEntries_pruneMembers]

/-- A reader for which a value of the wrong type is as good as none does not notice that
    such a value was taken out. -/
theorem read_prune? {α : Type} (read : Option Json → α) {takes : Json → Bool}
    (hmistyped : ∀ found, takes found = false → read (some found) = read none)
    {value : Option Json}
    (h : ∀ found, value = some found → gone [] = true → takes found = false)
    (hleft : ∀ found left, value = some found → prune? gone found = some left →
      read (some left) = read (some found)) :
    read (value.bind (prune? gone)) = read value := by
  rcases value with _ | value
  · rfl
  · rw [Option.bind_some]
    cases hpart : prune? gone value with
    | none =>
      have htakes : takes value = false := h value rfl (Json.prune?_eq_none_iff.mp hpart)
      exact (hmistyped value htakes).symm
    | some left => exact hleft value left rfl hpart

theorem readEnabled_prune? (set : String) {value : Option Json}
    (h : ∀ found, value = some found → gone [] = true → found.isFlag = false) :
    (readEnabled set (value.bind (prune? gone))).1 = (readEnabled set value).1 := by
  refine read_prune? (fun value => (readEnabled set value).1) ?_ h ?_
  · intro found hfound
    exact readEnabled_mistyped set hfound
  · intro found left _ hleft
    exact Json.eq_of_prune?_eq_some (fun value => (readEnabled set (some value)).1)
      (fun _ _ => rfl) (fun _ _ => rfl) hleft

theorem filterMap_text?_pruneItems {start : Nat} {items : List Json}
    (h : ∀ index found, items[index]? = some found → gone [.item (start + index)] = true →
      found.text? = none) :
    (pruneItems gone start items).filterMap Json.text? = items.filterMap Json.text? := by
  induction items generalizing start with
  | nil => rfl
  | cons first items ih =>
    have hlater := @ih (start + 1) fun index found hfound hgone =>
      h (index + 1) found hfound (Nat.add_right_comm start 1 index ▸ hgone)
    rw [pruneItems]
    cases hleft : prune? (inside gone (.item start)) first with
    | none =>
      have htext : first.text? = none := h 0 first rfl (Json.prune?_eq_none_iff.mp hleft)
      rw [List.filterMap_cons_none htext]
      exact hlater
    | some left =>
      have htext : left.text? = first.text? :=
        Json.eq_of_prune?_eq_some Json.text? (fun _ _ => rfl) (fun _ _ => rfl) hleft
      simp only [List.filterMap_cons, htext, hlater]

theorem readList_prune? (set : String) (field : ListField) {value : Option Json}
    (h : ∀ found, value = some found → gone [] = true → found.isTexts = false)
    (hitems : ∀ index found, (itemsOf value)[index]? = some found →
      gone [.item index] = true → found.text? = none) :
    (readList set field (value.bind (prune? gone))).1 = (readList set field value).1 := by
  refine read_prune? (fun value => (readList set field value).1) ?_ h ?_
  · intro found hfound
    exact readList_mistyped set field hfound
  · rintro found left rfl hleft
    have hgone := Json.not_gone_of_prune?_eq_some hleft
    cases found with
    | array items =>
      rw [Json.prune?_array hgone] at hleft
      cases hleft
      simp only [readList, readItems_fst]
      refine filterMap_text?_pruneItems fun index found hfound hgone => ?_
      exact hitems index found hfound (Nat.zero_add index ▸ hgone)
    | _ =>
      simp only [hgone, Json.prune?_null, Json.prune?_bool, Json.prune?_number,
        Json.prune?_string, Json.prune?_object, Option.some.injEq] at hleft
      subst hleft
      rfl

theorem exists_of_mem_itemsOf_prune? {value : Option Json} {item : Json}
    (h : item ∈ itemsOf (value.bind (prune? gone))) :
    ∃ index found, (itemsOf value)[index]? = some found ∧
      prune? (inside gone (.item index)) found = some item := by
  rcases value with _ | value
  · cases h
  · cases hleft : prune? gone value with
    | none => simp [hleft] at h
    | some left =>
      have hgone := Json.not_gone_of_prune?_eq_some hleft
      cases value with
      | array items =>
        rw [Option.bind_some, Json.prune?_array hgone] at h
        obtain ⟨index, found, hfound, hitem⟩ := Json.exists_of_mem_pruneItems h
        rw [Nat.zero_add] at hitem
        exact ⟨index, found, hfound, hitem⟩
      | _ => simp [hgone, itemsOf] at h

/-! ## The object without skipped entries -/

/-- Where entries were skipped in the value at a place of the object. -/
def skippedIn (members : Json.Members) (location : Location) (place : Place) : Bool :=
  (ofMembers members).isIgnored (location.place ++ place)

theorem skippedIn_nil (members : Json.Members) (location : Location) :
    skippedIn members location [] = (ofMembers members).isIgnored location.place := by
  rw [skippedIn, List.append_nil]

/-- What is left of the value at a place. -/
def leftAt (members : Json.Members) (location : Location) : Option Json :=
  (location.valueIn members).bind (prune? (skippedIn members location))

theorem getElem?_withoutIgnored (members : Json.Members) (name : String) :
    (withoutIgnored members)[name]? = members[name]?.bind
      (prune? fun place => (ofMembers members).isIgnored (.member name :: place)) := by
  rw [withoutIgnored, Json.getElem?_ofEntries_pruneMembers, NameMap.getElem?_ofEntries_toList]
  rfl

/-- A member of a section is left or not on its own. -/
theorem valueIn_withoutIgnored_member {inner : Location} {name : String}
    (hparent : location.valueIn (withoutIgnored members) = leftAt members location)
    (hsection : location.takes = Json.isSection)
    (hplace : inner.place = location.place ++ [.member name])
    (hvalue : ∀ members, inner.valueIn members = (membersOf (location.valueIn members))[name]?) :
    inner.valueIn (withoutIgnored members) = leftAt members inner := by
  have hmembers : ∀ found, location.valueIn members = some found →
      skippedIn members location [] = true → found.isSection = false := by
    intro found hfound hgone
    rw [skippedIn_nil] at hgone
    exact hsection ▸ takes_eq_false_of_isIgnored hfound hgone
  have hinside : inside (skippedIn members location) (.member name) = skippedIn members inner := by
    funext place
    rw [inside, skippedIn, skippedIn, hplace, List.append_assoc, List.singleton_append]
  rw [hvalue, hparent, leftAt, getElem?_membersOf_prune? hmembers, hinside, leftAt, hvalue]

/-- Items are taken out of lists, where later items move up; all else stays at its place. -/
theorem valueIn_withoutIgnored (members : Json.Members)
    (hitem : ∀ set field index, location ≠ .item set field index) :
    location.valueIn (withoutIgnored members) = leftAt members location := by
  -- from the outermost members inwards
  have hvariables : Location.allVariables.valueIn (withoutIgnored members) =
      leftAt members .allVariables := getElem?_withoutIgnored members "variables"
  have hsets : Location.allSets.valueIn (withoutIgnored members) = leftAt members .allSets :=
    getElem?_withoutIgnored members "rulesets"
  have hset : ∀ name, (Location.oneSet name).valueIn (withoutIgnored members) =
      leftAt members (.oneSet name) := fun name =>
    valueIn_withoutIgnored_member hsets rfl rfl fun _ => rfl
  cases location with
  | allVariables => exact hvariables
  | oneVariable name => exact valueIn_withoutIgnored_member hvariables rfl rfl fun _ => rfl
  | allSets => exact hsets
  | oneSet name => exact hset name
  | enabled set => exact valueIn_withoutIgnored_member (hset set) rfl rfl fun _ => rfl
  | list set field => exact valueIn_withoutIgnored_member (hset set) rfl rfl fun _ => rfl
  | item set field index => exact absurd rfl (hitem set field index)

/-- A place takes what is left of a value if it takes the value. -/
theorem takes_of_prune?_eq_some (location : Location) {value left : Json}
    (h : prune? gone value = some left) : location.takes left = location.takes value := by
  refine Json.eq_of_prune?_eq_some location.takes ?_ ?_ h
  · intro items items'
    cases location <;> rfl
  · intro members members'
    cases location <;> rfl

/-- All that is left is left of a value that was not skipped. -/
theorem exists_of_valueIn_withoutIgnored {value : Json}
    (h : location.valueIn (withoutIgnored members) = some value) :
    ∃ origin found, (ofMembers members).isIgnored (Location.place origin) = false ∧
      origin.valueIn members = some found ∧ location.takes value = origin.takes found := by
  have hstays : (∀ set field index, location ≠ .item set field index) →
      ∃ origin found, (ofMembers members).isIgnored (Location.place origin) = false ∧
        origin.valueIn members = some found ∧ location.takes value = origin.takes found := by
    intro hitem
    rw [valueIn_withoutIgnored members hitem] at h
    obtain ⟨found, hfound, hleft⟩ := Option.bind_eq_some_iff.mp h
    have hgone := Json.not_gone_of_prune?_eq_some hleft
    rw [skippedIn_nil] at hgone
    exact ⟨location, found, hgone, hfound, takes_of_prune?_eq_some location hleft⟩
  cases location with
  | item set field index =>
    -- an item that is left may have stood further back in the list
    have hlist : (Location.list set field).valueIn (withoutIgnored members) =
        leftAt members (.list set field) := valueIn_withoutIgnored members (by simp)
    rw [Location.valueIn_item, hlist] at h
    have hmem : value ∈ itemsOf (leftAt members (.list set field)) := List.mem_of_getElem? h
    obtain ⟨origin, found, hfound, hleft⟩ := exists_of_mem_itemsOf_prune? hmem
    refine ⟨.item set field origin, found, Json.not_gone_of_prune?_eq_some hleft, hfound, ?_⟩
    exact takes_of_prune?_eq_some (.item set field index) hleft
  | _ => exact hstays (by simp)

/-- Without its skipped entries, a document is read with nothing skipped. -/
theorem ignored_withoutIgnored (members : Json.Members) :
    (ofMembers (withoutIgnored members)).ignored = [] := by
  refine List.eq_nil_iff_forall_not_mem.mpr ?_
  rintro ⟨location, value⟩ hmem
  obtain ⟨hvalue, htakes⟩ := mem_ignored_iff.mp hmem
  obtain ⟨origin, found, hgone, hfound, hsame⟩ := exists_of_valueIn_withoutIgnored hvalue
  have hignored := isIgnored_place_iff.mpr ⟨found, hfound, hsame ▸ htakes⟩
  rw [hgone] at hignored
  cases hignored

/-! ## The document without skipped entries -/

theorem bindings_withoutIgnored (members : Json.Members) :
    (ofMembers (withoutIgnored members)).bindings = (ofMembers members).bindings := by
  refine Std.ExtTreeMap.ext_getElem? fun name => ?_
  rw [getElem?_bindings_ofMembers, getElem?_bindings_ofMembers]
  have hleft : (Location.oneVariable name).valueIn (withoutIgnored members) =
      leftAt members (.oneVariable name) := valueIn_withoutIgnored members (by simp)
  show ((Location.oneVariable name).valueIn (withoutIgnored members)).bind variableText? =
    ((Location.oneVariable name).valueIn members).bind variableText?
  rw [hleft, leftAt]
  refine read_prune? (fun value => value.bind variableText?) ?_
    (fun _ => takes_eq_false_of_isIgnored) ?_
  · intro found hfound
    exact Location.takes_oneVariable_eq_false_iff.mp hfound
  · intro found left _ hpart
    exact Json.eq_of_prune?_eq_some variableText? (fun _ _ => rfl) (fun _ _ => rfl) hpart

/-- A rule set is read from the values at its places. -/
theorem readSet_fst_of_valueIn {name : String} {value : Json}
    (h : (Location.oneSet name).valueIn members = some value) :
    (readSet name value).1 =
      ⟨(readEnabled name ((Location.enabled name).valueIn members)).1,
        (readList name .rules ((Location.list name .rules).valueIn members)).1,
        (readList name .children ((Location.list name .children).valueIn members)).1⟩ := by
  rw [readSet_fst, ← h]
  rfl

theorem readEnabled_leftAt (members : Json.Members) (name : String) :
    (readEnabled name (leftAt members (.enabled name))).1 =
      (readEnabled name ((Location.enabled name).valueIn members)).1 :=
  readEnabled_prune? name fun _ => takes_eq_false_of_isIgnored

theorem readList_leftAt (members : Json.Members) (name : String) (field : ListField) :
    (readList name field (leftAt members (.list name field))).1 =
      (readList name field ((Location.list name field).valueIn members)).1 := by
  refine readList_prune? name field (fun _ => takes_eq_false_of_isIgnored) ?_
  intro index found hfound hgone
  rw [← Location.valueIn_item] at hfound
  exact Location.takes_item_eq_false_iff.mp (takes_eq_false_of_isIgnored hfound hgone)

/-- A rule set that is skipped as a whole is gone, and others are read as before. -/
theorem getElem?_sets_withoutIgnored (members : Json.Members) (name : String) :
    (ofMembers (withoutIgnored members)).sets[name]? =
      if (ofMembers members).isIgnored (Location.oneSet name).place then none
      else (ofMembers members).sets[name]? := by
  rw [getElem?_sets_ofMembers, getElem?_sets_ofMembers]
  have hleft : (Location.oneSet name).valueIn (withoutIgnored members) =
      leftAt members (.oneSet name) := valueIn_withoutIgnored members (by simp)
  show ((Location.oneSet name).valueIn (withoutIgnored members)).map
      (fun value => (readSet name value).1) =
    if _ then none
    else ((Location.oneSet name).valueIn members).map fun value => (readSet name value).1
  cases hvalue : (Location.oneSet name).valueIn members with
  | none => simp [hleft, leftAt, hvalue]
  | some value =>
    rw [leftAt, hvalue, Option.bind_some] at hleft
    split
    · next hgone =>
      rw [← skippedIn_nil, ← Json.prune?_eq_none_iff] at hgone
      rw [hleft, hgone]
      rfl
    · next hgone =>
      cases hpart : prune? (skippedIn members _) value with
      | none =>
        rw [Json.prune?_eq_none_iff, skippedIn_nil] at hpart
        exact absurd hpart hgone
      | some part =>
        -- each part of the set is read from what is left of its value
        rw [hpart] at hleft
        rw [hleft, Option.map_some, Option.map_some, readSet_fst_of_valueIn hleft,
          readSet_fst_of_valueIn hvalue,
          valueIn_withoutIgnored members (by simp), valueIn_withoutIgnored members (by simp),
          valueIn_withoutIgnored members (by simp), readEnabled_leftAt, readList_leftAt,
          readList_leftAt]

/-- A rule set that is skipped as a whole stands for the empty set all the same. -/
theorem getElem?_sets_of_ignored {name : String} {value : Json}
    (h : ⟨.oneSet name, value⟩ ∈ (ofMembers members).ignored) :
    (ofMembers members).sets[name]? = some {} := by
  obtain ⟨hvalue, htakes⟩ := mem_ignored_iff.mp h
  have hentry : (membersOf members["rulesets"]?)[name]? = some value := hvalue
  rw [getElem?_sets_ofMembers, hentry, Option.map_some, readSet_mistyped name htakes]

end Document

namespace Engine

open Document (ofMembers withoutIgnored)

section Loading

variable [Plugins] (engine : Engine) (members : Json.Members) {name : String}

/-! ## Loading with and without the skipped entries -/

theorem bindings_load_withoutIgnored :
    (engine.load (ofMembers (withoutIgnored members))).1.bindings =
      (engine.load (ofMembers members)).1.bindings := by
  refine Std.ExtTreeMap.ext_getElem? fun name => ?_
  rw [getElem?_bindings_load, getElem?_bindings_load, Document.bindings_withoutIgnored]

theorem getElem?_sets_load_withoutIgnored
    (h : (ofMembers members).isIgnored (Location.oneSet name).place = false) :
    (engine.load (ofMembers (withoutIgnored members))).1.sets[name]? =
      (engine.load (ofMembers members)).1.sets[name]? := by
  have hset : (engine.load (ofMembers (withoutIgnored members))).1.setOf =
      (engine.load (ofMembers members)).1.setOf := by
    refine setOf_congr ?_ (bindings_load_withoutIgnored engine members)
    rw [registry_load, registry_load]
  rw [getElem?_sets_load, getElem?_sets_load, hset, Document.getElem?_sets_withoutIgnored, h]
  rfl

theorem getElem?_sets_load_withoutIgnored_of_ignored
    (h : (ofMembers members).isIgnored (Location.oneSet name).place = true) :
    (engine.load (ofMembers (withoutIgnored members))).1.sets[name]? = engine.sets[name]? := by
  rw [getElem?_sets_load, Document.getElem?_sets_withoutIgnored, h]
  rfl

variable {members} in
/-- The empty set of an entry that is skipped takes the place of the set that was there. -/
theorem getElem?_sets_load_of_ignored {value : Json}
    (h : ⟨.oneSet name, value⟩ ∈ (ofMembers members).ignored) :
    (engine.load (ofMembers members)).1.sets[name]? = some {} :=
  getElem?_sets_load_of_enabled engine (Document.getElem?_sets_of_ignored h) rfl

/-- Skipped entries have no effect but one: each name whose entry is skipped as a whole rule
    set gets the empty set.  So the load leaves the engine as it would without the skipped
    entries exactly if all these names had the empty set before. -/
theorem load_withoutIgnored :
    let full := engine.load (ofMembers members)
    let reduced := engine.load (ofMembers (withoutIgnored members))
    let IsSkipped := fun name => ∃ value, ⟨.oneSet name, value⟩ ∈ (ofMembers members).ignored
    reduced.2.ignored = [] ∧
    full.1.registry = reduced.1.registry ∧ full.1.bindings = reduced.1.bindings ∧
    (∀ name, ¬ IsSkipped name → full.1.sets[name]? = reduced.1.sets[name]?) ∧
    (∀ name, IsSkipped name →
      full.1.sets[name]? = some {} ∧ reduced.1.sets[name]? = engine.sets[name]?) ∧
    (full.1 = reduced.1 ↔ ∀ name, IsSkipped name → engine.sets[name]? = some {}) := by
  intro full reduced IsSkipped
  have hskipped : ∀ name, IsSkipped name ↔
      (ofMembers members).isIgnored (Location.oneSet name).place = true := by
    intro name
    rw [Document.isIgnored_place_iff]
    exact exists_congr fun value => Document.mem_ignored_iff
  have hothers : ∀ name, ¬ IsSkipped name → full.1.sets[name]? = reduced.1.sets[name]? := by
    intro name hname
    rw [hskipped, Bool.not_eq_true] at hname
    exact (getElem?_sets_load_withoutIgnored engine members hname).symm
  have hthese : ∀ name, IsSkipped name →
      full.1.sets[name]? = some {} ∧ reduced.1.sets[name]? = engine.sets[name]? := by
    intro name hname
    obtain ⟨value, hvalue⟩ := hname
    exact ⟨getElem?_sets_load_of_ignored engine hvalue,
      getElem?_sets_load_withoutIgnored_of_ignored engine members
        ((hskipped name).mp ⟨value, hvalue⟩)⟩
  have hregistry : full.1.registry = reduced.1.registry := by
    rw [registry_load, registry_load]
  have hbindings : full.1.bindings = reduced.1.bindings :=
    (bindings_load_withoutIgnored engine members).symm
  have hignored : reduced.2.ignored = [] := by
    rw [ignored_load]
    exact Document.ignored_withoutIgnored members
  refine ⟨hignored, hregistry, hbindings, hothers, hthese, ?_⟩
  constructor
  · -- equal engines agree under a skipped name, which has the empty set in one of them
    intro heq name hname
    obtain ⟨hfull, hreduced⟩ := hthese name hname
    rw [← hreduced, ← heq]
    exact hfull
  · intro hempty
    have hsets : full.1.sets = reduced.1.sets := by
      refine Std.ExtTreeMap.ext_getElem? fun name => ?_
      by_cases hname : IsSkipped name
      · obtain ⟨hfull, hreduced⟩ := hthese name hname
        rw [hfull, hreduced, hempty name hname]
      · exact hothers name hname
    exact Engine.ext hregistry hsets hbindings

end Loading

/-- A number in the place of a rule set empties the set that the engine has. -/
theorem load_withoutIgnored_displaces :
    let set : RuleSet := ⟨[⟨.print, .print ⟨some "a"⟩, ∅⟩], []⟩
    let engine := builtin.insertSet "main" set
    let members : Json.Members :=
      NameMap.ofEntries [("rulesets", .object [("main", .number (.integer 7))])]
    ⟨.oneSet "main", .number (.integer 7)⟩ ∈ (ofMembers members).ignored ∧
      (engine.load (ofMembers members)).1.sets["main"]? = some {} ∧
      (engine.load (ofMembers (withoutIgnored members))).1.sets["main"]? = some set ∧
      (engine.load (ofMembers members)).1 ≠
        (engine.load (ofMembers (withoutIgnored members))).1 := by
  intro set engine members
  have hvalue : (Location.oneSet "main").valueIn members = some (.number (.integer 7)) := by
    simp [Location.valueIn, members, membersOf, NameMap.ofEntries]
  have hmem := Document.mem_ignored_of_valueIn hvalue rfl
  have hfull := getElem?_sets_load_of_ignored engine hmem
  have hreduced : (engine.load (ofMembers (withoutIgnored members))).1.sets["main"]? =
      some set := by
    rw [getElem?_sets_load_withoutIgnored_of_ignored engine members
      (Document.isIgnored_place_iff.mpr ⟨_, hvalue, rfl⟩)]
    simp [engine, insertSet]
  refine ⟨hmem, hfull, hreduced, fun heq => ?_⟩
  rw [heq, hreduced] at hfull
  exact absurd hfull (by decide)

end Engine

end Rulebook
