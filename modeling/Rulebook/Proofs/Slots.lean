/-
  Rulebook.Proofs.Slots

  What the parts of the settings of built-in rules hold, and how writing a slot changes them:
  the part that the slot names takes the value and every other part keeps its own
  (`Slot.read_write`).  Settings of one form are equal when all their parts are
  (`Settings.eq_of_read`), so laws about writing follow from reading.

  What rules of plugins hold has no parts to read.  What is expected of their setters is said of
  writing alone: one that overwrites what it wrote before (`Slot.Overwrites`), and two that do
  not meet (`Slot.Apart`).  The slots of built-in rules have both.
-/
import Rulebook.Proofs.Outcomes

namespace Rulebook

/-! ## Reading -/

/-- What a part of some settings holds. -/
inductive Content
  /-- A text, which may be absent. -/
  | text (text : Option String)
  | truth (b : Bool)
  deriving DecidableEq, Repr

variable [Plugins]

namespace Slot

/-- What the part that a slot names holds; nothing if the settings are of another form, or are
    those of a plugin. -/
def read : Slot → Settings → Option Content
  | guardValue, .guard s => some (.text s.value)
  | guardPattern, .guard s => some (.text s.pattern)
  | guardInverse, .guard s => some (.truth s.inverse)
  | printMessage, .print s => some (.text s.message)
  | issueKey, .issue s => some (.text s.key)
  | issueMessage, .issue s => some (.text s.message)
  | issuePath, .issue s => some (.text s.path)
  | filterTargets, .filter s => some (.text s.targets)
  | filterName, .filter s => some (.text s.name)
  | filterPath, .filter s => some (.text s.path)
  | filterFile, .filter s => some (.truth s.file)
  | filterFolder, .filter s => some (.truth s.folder)
  | filterInverse, .filter s => some (.truth s.inverse)
  | filterChildrenFiles, .filter s => some (.truth s.childrenFiles)
  | filterChildrenFolders, .filter s => some (.truth s.childrenFolders)
  | filterNameVariable, .filter s => some (.text (some s.nameVariable))
  | filterPathVariable, .filter s => some (.text (some s.pathVariable))
  | _, _ => none

/-- What a part holds after a value was written to it; nothing if the slot does not
    hold the value, or is a setter of a plugin. -/
def content? (slot : Slot) (value : Value) : Option Content :=
  match slot with
  | guardInverse | filterFile | filterFolder | filterInverse | filterChildrenFiles
  | filterChildrenFolders => value.boolean?.map .truth
  | custom _ => none
  | _ => value.string?.map fun text => .text (some text)

theorem isSome_content? {slot : Slot} (hslot : ¬ slot.form.IsCustom) (value : Value) :
    (slot.content? value).isSome = slot.holds value := by
  cases slot with
  | custom setter => exact absurd trivial hslot
  | _ => simp [content?, holds]

end Slot

/-- Settings of one form that is none of a plugin are equal if all their parts hold the same. -/
theorem Settings.eq_of_read {s t : Settings} (hcustom : ¬ s.form.IsCustom)
    (hform : t.form = s.form) (hkind : t.issueKind? = s.issueKind?)
    (hread : ∀ slot : Slot, slot.read t = slot.read s) : t = s := by
  cases s with
  | guard s =>
    cases t with
    | guard t =>
      obtain ⟨value, pattern, inverse⟩ := t
      have hvalue := hread .guardValue
      have hpattern := hread .guardPattern
      have hinverse := hread .guardInverse
      simp_all [Slot.read]
    | _ => cases hform
  | print s =>
    cases t with
    | print t =>
      obtain ⟨message⟩ := t
      have hmessage := hread .printMessage
      simp_all [Slot.read]
    | _ => cases hform
  | issue s =>
    cases t with
    | issue t =>
      obtain ⟨kind, key, message, path⟩ := t
      have hkey := hread .issueKey
      have hmessage := hread .issueMessage
      have hpath := hread .issuePath
      simp_all [Slot.read, issueKind?]
    | _ => cases hform
  | filter s =>
    cases t with
    | filter t =>
      obtain ⟨targets, name, path, file, folder, inverse, childrenFiles, childrenFolders,
        nameVariable, pathVariable⟩ := t
      have htargets := hread .filterTargets
      have hname := hread .filterName
      have hpath := hread .filterPath
      have hfile := hread .filterFile
      have hfolder := hread .filterFolder
      have hinverse := hread .filterInverse
      have hfiles := hread .filterChildrenFiles
      have hfolders := hread .filterChildrenFolders
      have hnameVariable := hread .filterNameVariable
      have hpathVariable := hread .filterPathVariable
      simp_all [Slot.read]
    | _ => cases hform
  | custom s => exact absurd trivial hcustom

/-! ## Writing -/

namespace Slot

variable {slot other : Slot} {value : Value} {settings settings' : Settings}

/-- A setter of a plugin that writes does so in a rule of its concrete type. -/
theorem exists_of_write_custom {type : String} {setter : Plugins.Setter type}
    (h : (custom setter).write value settings = .done settings') :
    ∃ state set, settings = .custom ⟨type, state⟩ ∧ Plugins.set? setter value = some set ∧
      settings' = .custom ⟨type, set state⟩ := by
  obtain ⟨hform, -⟩ := form_of_write h
  cases settings with
  | custom rule =>
    cases hform
    rw [write_custom] at h
    obtain ⟨set, hset, rfl⟩ := Written.ofPart_eq_done_iff.mp h
    exact ⟨rule.state, set, rfl, hset, rfl⟩
  | _ => cases hform

/-- Reading after writing: the part that was written holds the value, the others what they
    held. -/
theorem read_write (h : slot.write value settings = .done settings') (other : Slot) :
    other.read settings' = if other = slot then slot.content? value else other.read settings := by
  cases hslot : slot with
  | custom setter =>
    -- nothing is read of rules of plugins, neither before nor afterwards
    obtain ⟨state, set, rfl, -, rfl⟩ := exists_of_write_custom (hslot ▸ h)
    cases other <;> simp [read, content?]
  | _ =>
    subst hslot
    obtain ⟨hform, -, -⟩ := form_of_write h
    -- what is left has no names: each pair of slots is decided by evaluation
    cases settings <;> cases hform
    all_goals
      obtain ⟨part, hpart, rfl⟩ := Written.ofPart_eq_done_iff.mp h
      cases other <;> simp [read, content?, hpart]

/-- What was written is a value that the slot holds. -/
theorem holds_of_write (h : slot.write value settings = .done settings') :
    slot.holds value = true := by
  refine Bool.of_not_eq_false fun hholds => ?_
  cases (write_of_not_holds (form_of_write h).1 hholds).symm.trans h

/-- A later write of the slot replaces an earlier one. -/
def Overwrites (slot : Slot) : Prop :=
  ∀ value value' s s₁ s₂, slot.write value s = .done s₁ → slot.write value' s₁ = .done s₂ →
    slot.write value' s = .done s₂

/-- A write of the one slot and then of the other come to the same the other way round. -/
def Apart (slot other : Slot) : Prop :=
  ∀ value value' s s₁ s₂, slot.write value s = .done s₁ → other.write value' s₁ = .done s₂ →
    ∃ s₃, other.write value' s = .done s₃ ∧ slot.write value s₃ = .done s₂

theorem overwrites (hslot : ¬ slot.form.IsCustom) : slot.Overwrites := by
  intro value value' s s₁ s₂ h₁ h₂
  obtain ⟨hform, hform₁, hissue₁⟩ := form_of_write h₁
  obtain ⟨-, hform₂, hissue₂⟩ := form_of_write h₂
  obtain ⟨s₃, h₃⟩ := exists_write_of_holds hform (holds_of_write h₂)
  obtain ⟨-, hform₃, hissue₃⟩ := form_of_write h₃
  have hsame : s₂ = s₃ := by
    refine Settings.eq_of_read ?_ ?_ ?_ fun other => ?_
    · rwa [hform₃, ← hform]
    · rw [hform₂, hform₁, hform₃]
    · rw [hissue₂, hissue₁, hissue₃]
    · rw [read_write h₂, read_write h₁, read_write h₃]
      split <;> rfl
  rw [hsame, h₃]

theorem apart (hslot : ¬ slot.form.IsCustom) (hne : slot ≠ other) : slot.Apart other := by
  intro value value' s s₁ s₂ h₁ h₂
  obtain ⟨hform, hform₁, hissue₁⟩ := form_of_write h₁
  obtain ⟨hother, hform₂, hissue₂⟩ := form_of_write h₂
  obtain ⟨s₃, h₃⟩ := exists_write_of_holds (hother.trans hform₁) (holds_of_write h₂)
  obtain ⟨-, hform₃, hissue₃⟩ := form_of_write h₃
  obtain ⟨s₄, h₄⟩ := exists_write_of_holds (hform.trans hform₃.symm) (holds_of_write h₁)
  obtain ⟨-, hform₄, hissue₄⟩ := form_of_write h₄
  have hsame : s₂ = s₄ := by
    refine Settings.eq_of_read ?_ ?_ ?_ fun slot' => ?_
    · rwa [hform₄, hform₃, ← hform]
    · rw [hform₂, hform₁, hform₄, hform₃]
    · rw [hissue₂, hissue₁, hissue₄, hissue₃]
    · rw [read_write h₂, read_write h₁, read_write h₄, read_write h₃]
      -- a part that one of them writes is not written by the other
      by_cases hslot' : slot' = slot
      · have hother' : slot' ≠ other := hslot' ▸ hne
        rw [if_pos hslot', if_neg hother', if_pos hslot']
      · rw [if_neg hslot', if_neg hslot']
  exact ⟨s₃, h₃, hsame ▸ h₄⟩

/-- A setter overwrites if setting twice is setting the second time. -/
theorem overwrites_custom {type : String} {setter : Plugins.Setter type}
    (h : ∀ value value' set set', Plugins.set? setter value = some set →
      Plugins.set? setter value' = some set' → ∀ state, set' (set state) = set' state) :
    (custom setter).Overwrites := by
  intro value value' s s₁ s₂ h₁ h₂
  obtain ⟨state, set, rfl, hset, rfl⟩ := exists_of_write_custom h₁
  obtain ⟨_, set', hsame, hset', rfl⟩ := exists_of_write_custom h₂
  cases hsame
  rw [write_custom, hset', h value value' set set' hset hset']
  rfl

/-- Setters of one concrete type do not meet if what they do commutes. -/
theorem apart_custom {type : String} {setter other : Plugins.Setter type}
    (h : ∀ value value' set set', Plugins.set? setter value = some set →
      Plugins.set? other value' = some set' → ∀ state, set' (set state) = set (set' state)) :
    (custom setter).Apart (custom other) := by
  intro value value' s s₁ s₂ h₁ h₂
  obtain ⟨state, set, rfl, hset, rfl⟩ := exists_of_write_custom h₁
  obtain ⟨_, set', hsame, hset', rfl⟩ := exists_of_write_custom h₂
  cases hsame
  refine ⟨.custom ⟨type, set' state⟩, ?_, ?_⟩
  · rw [write_custom, hset']
    rfl
  · rw [write_custom, hset, h value value' set set' hset hset']
    rfl

end Slot

end Rulebook
