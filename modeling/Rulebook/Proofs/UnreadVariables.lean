/-
  Rulebook.Proofs.UnreadVariables

  A variable that no dynamic field reads has no influence on a run of built-in rules.
  Runs whose variables differ in it alone report and print the same and end with
  variables that differ in it alone (`enter_unread`), although the run may set it:
  static fields hold what the variable was when their lines were read.
-/
import Rulebook.Kind.Custom
import Rulebook.Proofs.NameMaps
import Rulebook.Proofs.Simulation
import Rulebook.Proofs.Substitution

namespace Rulebook

/-! ## Sessions that differ in one variable -/

/-- Two sessions have reported and printed the same, and their variables agree except
    perhaps on one name. -/
structure Session.AlikeExcept (x : String) (s s' : Session) : Prop where
  report_eq : s.report = s'.report
  printed_eq : s.printed = s'.printed
  bindings : s.bindings.AgreeExcept x s'.bindings

theorem Session.AlikeExcept.symm {x : String} {s s' : Session} (h : s.AlikeExcept x s') :
    s'.AlikeExcept x s :=
  ⟨h.report_eq.symm, h.printed_eq.symm, fun name hname => (h.bindings name hname).symm⟩

theorem Session.congruence_alikeExcept (x : String) :
    Session.Congruence (Session.AlikeExcept x) where
  setVariable h name value := ⟨h.report_eq, h.printed_eq, h.bindings.insert name value⟩
  record h key issue := by
    refine ⟨?_, h.printed_eq, h.bindings⟩
    simp only [Session.record, h.report_eq]
  printLine h text := by
    refine ⟨h.report_eq, ?_, h.bindings⟩
    simp only [Session.printLine, h.printed_eq]

/-! ## Rules that do not read a variable -/

/-- No template of a dynamic field has a placeholder for the name. -/
def Rule.Ignores [Plugins] (x : String) (rule : Rule) : Prop :=
  ∀ field template, (field, template) ∈ rule.dynamic.entries →
    ¬ Variables.IsPlaceholder x.toList template.toList

/-- No rule of any set of a table has a dynamic field that reads the variable. -/
def SetTable.Ignores [Plugins] (x : String) (table : SetTable) : Prop :=
  ∀ (name : String) (set : RuleSet), table[name]? = some set → ∀ rule ∈ set.rules, rule.Ignores x

theorem Variables.AgreeExcept.valuesOf_eq {x : String} {bindings bindings' : Variables}
    (h : AgreeExcept x bindings bindings') {templates : List (String × String)}
    (hx : ∀ field template, (field, template) ∈ templates →
      ¬ IsPlaceholder x.toList template.toList) :
    bindings.valuesOf templates = bindings'.valuesOf templates := by
  refine List.map_congr_left ?_
  rintro ⟨field, template⟩ hentry
  have hsame : bindings.substitute template = bindings'.substitute template :=
    h.substitute_eq (hx field template hentry)
  show (field, bindings.substitute template) = (field, bindings'.substitute template)
  rw [hsame]

theorem Rule.IsBuiltin.resolvesAlike [Plugins] {x : String} {rule : Rule} (hrule : rule.IsBuiltin)
    (hx : rule.Ignores x) : rule.ResolvesAlike (Session.AlikeExcept x) := by
  intro s s' hs
  have hvalues := hs.bindings.valuesOf_eq hx
  rw [resolve_eq hrule.form_eq, resolve_eq hrule.form_eq, hvalues]

/-! ## Runs -/

/-- A variable that no dynamic field reads has no influence on whether a run ends, on its
    report, on the text that it prints and on the other variables. -/
theorem enter_unread [Plugins] [PluginTests] {table : SetTable} (htable : table.IsBuiltin)
    {x : String} (hx : table.Ignores x) (fs : FileSystem) (root : String) (input : Input)
    {start start' : Session} (hstart : start.AlikeExcept x start') :
    (∀ depth, (∃ final, enter table fs depth root input start = some final) ↔
      ∃ final', enter table fs depth root input start' = some final') ∧
    ∀ depth depth' final final', enter table fs depth root input start = some final →
      enter table fs depth' root input start' = some final' →
      final.report = final'.report ∧ final.printed = final'.printed ∧
        ∀ name, name ≠ x → final.bindings[name]? = final'.bindings[name]? := by
  have hsimulated : ∀ {depth depth' : Nat}, depth ≤ depth' → (enter table fs depth).SimulatedBy
      (Session.AlikeExcept x) (enter table fs depth') :=
    fun hdepth => enter_simulated htable (Session.congruence_alikeExcept x)
      (fun name set hset rule hrule =>
        (htable name set hset rule hrule).resolvesAlike (hx name set hset rule hrule)) fs hdepth
  constructor
  · intro depth
    constructor
    · rintro ⟨final, hfinal⟩
      obtain ⟨final', hfinal', -⟩ :=
        hsimulated (Nat.le_refl depth) root input start start' hstart final hfinal
      exact ⟨final', hfinal'⟩
    · rintro ⟨final', hfinal'⟩
      obtain ⟨final, hfinal, -⟩ :=
        hsimulated (Nat.le_refl depth) root input start' start hstart.symm final' hfinal'
      exact ⟨final, hfinal⟩
  · intro depth depth' final final' hfinal hfinal'
    have hends : final.AlikeExcept x final' := by
      -- the run with the smaller bound is matched by the other one
      rcases Nat.le_total depth depth' with hle | hle
      · obtain ⟨last, hlast, h⟩ := hsimulated hle root input start start' hstart final hfinal
        obtain rfl := Option.some.inj (hlast.symm.trans hfinal')
        exact h
      · obtain ⟨last, hlast, h⟩ :=
          hsimulated hle root input start' start hstart.symm final' hfinal'
        obtain rfl := Option.some.inj (hlast.symm.trans hfinal)
        exact h.symm
    exact ⟨hends.report_eq, hends.printed_eq, hends.bindings⟩

/-- The text `{x}` is in the template of the message, but its placeholders are for `{x` and for
    the name that the filter stores. -/
theorem enter_unread_filter :
    let leaf : RuleSet := ⟨[⟨.warning, .issue ⟨.warning, none, none, some "p"⟩,
      (∅ : Roster String).set "message" "\x7b{x} {file-name}"⟩], []⟩
    let root : RuleSet := ⟨[⟨.fileFilter, .filter { targets := some "leaf" }, ∅⟩], []⟩
    let table : SetTable := NameMap.ofEntries [("leaf", leaf), ("root", root)]
    let start : Session := { bindings := Std.ExtTreeMap.insert ∅ "x" "1" }
    let start' : Session := { bindings := ∅ }
    let final (start : Session) : Session :=
      ((start.setVariable "file-path" "a/b").setVariable "file-name" "b").record ""
        ⟨.warning, " b", "p"⟩
    table.IsBuiltin ∧ table.Ignores "x" ∧ start.AlikeExcept "x" start' ∧
      enter table .empty 2 "root" (.path "a/b") start = some (final start) ∧
      enter table .empty 3 "root" (.path "a/b") start' = some (final start') ∧
      (final start).report = (final start').report ∧
      (final start).printed = (final start').printed ∧
      ∀ name, name ≠ "x" → (final start).bindings[name]? = (final start').bindings[name]? := by
  intro leaf root table start start' final
  have hsets : ∀ {name : String} {set : RuleSet}, table[name]? = some set →
      set = leaf ∨ set = root := by
    intro name set hset
    have hmem := NameMap.mem_of_getElem?_ofEntries hset
    simp only [List.mem_cons, Prod.mk.injEq, List.not_mem_nil, or_false] at hmem
    rcases hmem with ⟨-, rfl⟩ | ⟨-, rfl⟩
    · exact .inl rfl
    · exact .inr rfl
  have htable : table.IsBuiltin := by
    intro name set hset rule hrule
    rcases hsets hset with rfl | rfl
    · obtain rfl := List.mem_singleton.mp hrule
      exact ⟨by decide, rfl⟩
    · obtain rfl := List.mem_singleton.mp hrule
      exact ⟨by decide, rfl⟩
  have hx : table.Ignores "x" := by
    intro name set hset rule hrule field template hentry
    rcases hsets hset with rfl | rfl
    · obtain rfl := List.mem_singleton.mp hrule
      obtain ⟨rfl, rfl⟩ : field = "message" ∧ template = "\x7b{x} {file-name}" := by
        simpa using List.mem_singleton.mp hentry
      decide +kernel
    · obtain rfl := List.mem_singleton.mp hrule
      cases hentry
  have hstart : start.AlikeExcept "x" start' := by
    refine ⟨rfl, rfl, ?_⟩
    intro name hname
    rw [NameMap.getElem?_insert_name, if_neg hname.symm]
  have hfinal : enter table .empty 2 "root" (.path "a/b") start = some (final start) := by cbv
  have hfinal' : enter table .empty 3 "root" (.path "a/b") start' = some (final start') := by cbv
  exact ⟨htable, hx, hstart, hfinal, hfinal',
    (enter_unread htable hx .empty "root" (.path "a/b") hstart).2 2 3 _ _ hfinal hfinal'⟩

end Rulebook
