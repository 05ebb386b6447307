/-
  Rulebook.Proofs.RegisteredKinds

  The kinds of a registry that is made by registering: each stands under its own
  name and has no flaw (`Reached.get?_flawless`).  So its name is a word, and its
  fields have names that a line can give, no two of them the same.
-/
import Rulebook.Proofs.Roster
import Rulebook.Proofs.Words
import Rulebook.Registry

namespace Rulebook

variable [Plugins]

/-- The name of a kind without a flaw is a word. -/
theorem RuleKind.isWord_name {kind : RuleKind} (h : kind.flaw? = none) :
    Text.IsWord kind.name.toList := by
  unfold flaw? at h
  split at h
  · cases h
  · next hempty =>
    split at h
    · cases h
    · next hblank =>
      constructor
      · simpa using hempty
      · simpa [hasBlank] using hblank

namespace RuleKind

/-- A name that can stand behind two dashes as the name of a static field. -/
structure IsFieldName (name : String) : Prop where
  isWord : Text.IsWord name.toList
  unmarked : name.toList.getLast? ≠ some '$'

/-- Fields without a flaw have names that a line can give, none of them twice. -/
theorem names_of_fieldFlaw?_eq_none {seen : List String} {fields : List Field}
    (h : fieldFlaw? seen fields = none) :
    (∀ field ∈ fields, IsFieldName field.name ∧ field.name ∉ seen) ∧
      (fields.map (·.name)).Nodup := by
  induction fields generalizing seen with
  | nil => simp
  | cons field fields ih =>
    rw [fieldFlaw?] at h
    split at h
    · cases h
    · next htoken =>
      split at h
      · cases h
      · next hmark =>
        split at h
        · cases h
        · next hseen =>
          -- the fields behind this one are checked against its name as well
          obtain ⟨hfields, hnodup⟩ := ih h
          have hword : Text.IsWord field.name.toList := by
            simpa [Text.IsWord, hasBlank] using htoken
          constructor
          · intro other hother
            rcases List.mem_cons.mp hother with rfl | hother
            · exact ⟨⟨hword, hmark⟩, hseen⟩
            · obtain ⟨hname, hnot⟩ := hfields other hother
              exact ⟨hname, fun hmem => hnot (List.mem_cons_of_mem _ hmem)⟩
          · rw [List.map_cons, List.nodup_cons]
            refine ⟨?_, hnodup⟩
            intro hmem
            obtain ⟨other, hother, hsame⟩ := List.mem_map.mp hmem
            exact (hfields other hother).2 (hsame ▸ List.mem_cons_self)

variable {kind : RuleKind}

theorem fieldFlaw?_of_flaw? (h : kind.flaw? = none) : fieldFlaw? [] kind.fields = none := by
  unfold flaw? at h
  split at h
  · cases h
  · split at h
    · cases h
    · split at h
      · cases h
      · exact h

theorem isFieldName_of_flaw? (h : kind.flaw? = none) {field : Field}
    (hfield : field ∈ kind.fields) : IsFieldName field.name :=
  ((names_of_fieldFlaw?_eq_none (fieldFlaw?_of_flaw? h)).1 field hfield).1

theorem flaw?_of_mem_builtins : ∀ kind ∈ builtins, kind.flaw? = none := by
  refine forall_mem_builtins.mpr ⟨?_, ?_, ?_, ?_, ?_⟩
  all_goals
    simp +decide [guard, print, warning, problem, fileFilter, issueFields, flaw?, hasBlank,
      fieldFlaw?]

/-- The field that is found under a name is the one that has it. -/
theorem field?_name_of_flaw? (h : kind.flaw? = none) {field : Field}
    (hfield : field ∈ kind.fields) : kind.field? field.name = some field := by
  have hnodup := (names_of_fieldFlaw?_eq_none (fieldFlaw?_of_flaw? h)).2
  rw [List.Nodup, List.pairwise_map] at hnodup
  rw [field?, List.find?_eq_some_iff_append]
  obtain ⟨before, after, hsplit⟩ := List.append_of_mem hfield
  refine ⟨beq_self_eq_true _, before, after, hsplit, fun other hother => ?_⟩
  rw [hsplit, List.pairwise_append] at hnodup
  simpa using hnodup.2.2 other hother field List.mem_cons_self

end RuleKind

namespace Registry

/-- A registry that is made by registering kinds. -/
inductive Reached : Registry → Prop
  | empty : Reached ∅
  | register {registry registry' : Registry} {kind : RuleKind} (h : Reached registry)
      (hkind : registry.register kind = .ok registry') : Reached registry'

theorem register_eq_ok_iff {registry registry' : Registry} {kind : RuleKind} :
    registry.register kind = .ok registry' ↔
      kind.flaw? = none ∧ registry' = ⟨registry.kinds.set kind.name kind⟩ := by
  unfold register
  split
  · next flaw hflaw => simp [hflaw]
  · next hflaw => simp [hflaw, eq_comm]

/-- A kind stands under its name once it is registered. -/
theorem get?_of_register {registry registry' : Registry} {kind : RuleKind}
    (h : registry.register kind = .ok registry') : registry'.get? kind.name = some kind := by
  obtain ⟨-, rfl⟩ := register_eq_ok_iff.mp h
  rw [get?, Roster.set, Roster.get?_change, if_pos rfl]

theorem Reached.get?_flawless {registry : Registry} (h : registry.Reached) {name : String}
    {kind : RuleKind} (hget : registry.get? name = some kind) :
    kind.name = name ∧ kind.flaw? = none := by
  induction h with
  | empty => cases hget
  | @register registry registry' added _ hadded ih =>
    obtain ⟨hflaw, rfl⟩ := register_eq_ok_iff.mp hadded
    rw [get?, Roster.set, Roster.get?_change] at hget
    split at hget
    · next hname =>
      cases hget
      exact ⟨hname, hflaw⟩
    · exact ih hget

theorem Reached.registerAll {registry : Registry} (h : registry.Reached)
    (kinds : List RuleKind) : (registry.registerAll kinds).1.Reached := by
  induction kinds generalizing registry with
  | nil => exact h
  | cons kind kinds ih =>
    rw [Registry.registerAll]
    split
    · next hkind => exact ih (.register h hkind)
    · exact h

/-- All built-in kinds are accepted, in their order. -/
theorem toList_builtin : builtin.toList = RuleKind.builtins := by
  obtain ⟨hguard, hprint, hwarning, hproblem, hfilter⟩ :=
    RuleKind.forall_mem_builtins.mp RuleKind.flaw?_of_mem_builtins
  simp only [builtin, registerBuiltins, RuleKind.builtins, registerAll, register, hguard, hprint,
    hwarning, hproblem, hfilter]
  rfl

/-- The registry of the built-in kinds is made by registering them. -/
theorem reached_builtin : builtin.Reached := Reached.empty.registerAll RuleKind.builtins

end Registry

end Rulebook
