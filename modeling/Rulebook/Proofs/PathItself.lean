/-
  Rulebook.Proofs.PathItself

  What a file filter does with a path that is no folder.  A filter that asks for no
  entries of folders looks at the path itself.  One that asks for some looks at nothing,
  since such a path has no entries, and passes (`test_not_folder`).  Asking therefore
  makes a difference for every path that passes and is no folder.
-/
import Rulebook.Kind.Custom
import Rulebook.Proofs.Simulation
import Rulebook.Proofs.Traversal

namespace Rulebook.FilterSettings

/-! ## Filters that ask for no entries -/

/-- The filter with both flags for the entries of a folder cleared. -/
def onItself (filter : FilterSettings) : FilterSettings :=
  { filter with childrenFiles := false, childrenFolders := false }

variable {fs : FileSystem} {run : Runner} {filter : FilterSettings} {path : String}

theorem candidates_onItself (fs : FileSystem) (filter : FilterSettings) (path : String) :
    filter.onItself.candidates fs path = [path] := rfl

/-- The flags choose the paths that are looked at, and do not matter when one is. -/
theorem visit_onItself (fs : FileSystem) (run : Runner) (filter : FilterSettings)
    (session : Session) (path : String) :
    filter.onItself.visit fs run session path = filter.visit fs run session path := rfl

theorem walk_onItself (fs : FileSystem) (run : Runner) (filter : FilterSettings)
    (session : Session) (path : String) :
    filter.onItself.walk fs run session path = filter.visit fs run session path := by
  rw [walk, candidates_onItself, List.foldlM_cons, visit_onItself]
  cases filter.visit fs run session path with
  | none => rfl
  | some final => rfl

/-! ## Filters that ask for entries -/

/-- There is nothing to look at for a filter that asks for the entries of what is no
    folder. -/
theorem candidates_of_not_isFolder
    (hchildren : filter.childrenFiles = true ∨ filter.childrenFolders = true)
    (hfolder : fs.isFolder path = false) : filter.candidates fs path = [] := by
  have hasks : (filter.childrenFiles || filter.childrenFolders) = true := by
    simpa using hchildren
  rw [candidates, if_pos hasks, if_neg (by simp [hfolder])]

theorem walk_of_not_isFolder
    (hchildren : filter.childrenFiles = true ∨ filter.childrenFolders = true)
    (hfolder : fs.isFolder path = false) (session : Session) :
    filter.walk fs run session path = some session := by
  rw [walk, candidates_of_not_isFolder hchildren hfolder]
  rfl

/-! ## The difference -/

/-- A visit has no effect if the path does not pass, or if all that it would do changes
    nothing. -/
theorem visit_eq_self_iff {session : Session} :
    filter.visit fs run session path = some session ↔
      filter.passes fs path = false ∨
        filter.callTargets run path (filter.store session path) = some session := by
  cases hpasses : filter.passes fs path with
  | false =>
    rw [visit_of_not_passes hpasses]
    simp
  | true =>
    rw [visit_of_passes hpasses]
    simp

section Difference

variable [Plugins] [PluginTests]

/-- Where no name has a set, running the sets of a filter changes nothing. -/
theorem callTargets_of_no_sets (fs : FileSystem) (depth : Nat) (filter : FilterSettings)
    (path : String) (session : Session) :
    filter.callTargets (enter ∅ fs depth) path session = some session := by
  have hnone : ∀ name : String, name ∉ (∅ : SetTable) := by simp
  unfold callTargets
  split
  · next targets htargets =>
    rw [Runner.call, Runner.runAll]
    induction Text.words targets with
    | nil => rfl
    | cons name names ih =>
      rw [List.foldlM_cons, enter_of_not_mem (hnone name)]
      exact ih
  · rfl

/-- Without any sets a path that passes still leaves its variables behind, so visiting it
    shows in a session that has none. -/
theorem visit_ne_self_of_passes (hpasses : filter.passes fs path = true) (depth : Nat) :
    filter.visit fs (enter ∅ fs depth) { bindings := ∅ } path ≠ some { bindings := ∅ } := by
  intro hself
  rw [visit_of_passes hpasses, callTargets_of_no_sets] at hself
  have hsame : (filter.store { bindings := ∅ } path).bindings = ∅ :=
    congrArg Session.bindings (Option.some.inj hself)
  have hname := getElem?_nameVariable_store filter { bindings := ∅ } path
  rw [hsame] at hname
  simp at hname

/-- On a path that is no folder, a filter that asks for the files or the folders in it does
    nothing and passes, whereas with both flags cleared it looks at the path itself.  In one
    session both come to the same if the path does not pass or all that is done for it
    changes nothing; they do so in every session and with every table of sets if and only if
    the path does not pass. -/
theorem test_not_folder (fs : FileSystem) {filter : FilterSettings}
    (hchildren : filter.childrenFiles = true ∨ filter.childrenFolders = true) {input : Input}
    {path : String} (hinput : input.path? = some path) (hfolder : fs.isFolder path = false) :
    let asking := Settings.filter filter
    let cleared := Settings.filter filter.onItself
    (∀ run session, asking.test fs run input session = some (true, session)) ∧
    (∀ run session, cleared.test fs run input session =
      if filter.passes fs path then
        (filter.callTargets run path (filter.store session path)).map (true, ·)
      else some (true, session)) ∧
    (∀ run session, asking.test fs run input session = cleared.test fs run input session ↔
      filter.passes fs path = false ∨
        filter.callTargets run path (filter.store session path) = some session) ∧
    ((∀ table depth session, asking.test fs (enter table fs depth) input session =
        cleared.test fs (enter table fs depth) input session) ↔
      filter.passes fs path = false) := by
  intro asking cleared
  have hasking : ∀ run session, asking.test fs run input session = some (true, session) := by
    intro run session
    simp only [asking, Settings.test, hinput, walk_of_not_isFolder hchildren hfolder,
      Option.map_some]
  have hcleared : ∀ run session, cleared.test fs run input session =
      (filter.visit fs run session path).map (true, ·) := by
    intro run session
    simp only [cleared, Settings.test, hinput, walk_onItself]
  have hsame : ∀ run session,
      asking.test fs run input session = cleared.test fs run input session ↔
        filter.visit fs run session path = some session := by
    intro run session
    rw [hasking, hcleared]
    constructor
    · intro h
      obtain ⟨final, hfinal, heq⟩ := Option.map_eq_some_iff.mp h.symm
      cases heq
      exact hfinal
    · intro h
      rw [h]
      rfl
  refine ⟨hasking, fun run session => ?_, fun run session => ?_, ?_, ?_⟩
  · rw [hcleared]
    split
    · next hpasses => rw [visit_of_passes hpasses]
    · next hpasses =>
      rw [visit_of_not_passes (by simpa using hpasses)]
      rfl
  · rw [hsame, visit_eq_self_iff]
  · intro hall
    -- no table and no variables are needed to tell the two apart
    have hnothing := (hsame _ _).mp (hall ∅ 0 { bindings := ∅ })
    cases hpasses : filter.passes fs path with
    | false => rfl
    | true => exact absurd hnothing (visit_ne_self_of_passes hpasses 0)
  · intro hpasses table depth session
    exact (hsame _ _).mpr (visit_of_not_passes hpasses session)

end Difference

/-- Nothing is found at the path, so it is no folder and passes the inverse of a filter for
    folders.  That filter, asked for the folders in it, leaves the variables as they are. -/
theorem test_not_folder_missing :
    let filter : FilterSettings := { folder := true, inverse := true, childrenFolders := true }
    (filter.childrenFiles = true ∨ filter.childrenFolders = true) ∧
      (Input.string "x").path? = some "x" ∧ FileSystem.empty.isFolder "x" = false ∧
      filter.passes .empty "x" = true ∧
      (∀ run session, (Settings.filter filter).test .empty run (.string "x") session =
        some (true, session)) ∧
      ∀ run session, (Settings.filter filter.onItself).test .empty run (.string "x") session =
        some (true, filter.store session "x") := by
  intro filter
  have hchildren : filter.childrenFiles = true ∨ filter.childrenFolders = true := .inr rfl
  have hinput : (Input.string "x").path? = some "x" := rfl
  have hfolder : FileSystem.empty.isFolder "x" = false := rfl
  have hpasses : filter.passes .empty "x" = true := rfl
  obtain ⟨hasking, hcleared, -, -⟩ := test_not_folder .empty hchildren hinput hfolder
  refine ⟨hchildren, hinput, hfolder, hpasses, hasking, fun run session => ?_⟩
  rw [hcleared, if_pos hpasses]
  rfl

/-- The line asks for the files in a folder and is tested on a file.  Nothing is printed,
    but the same filter without the flag finds the file and runs the set that prints. -/
theorem test_not_folder_file :
    let fs : FileSystem :=
      { kindAt := fun path => if path = "a.txt" then some .file else none
        namesAt := fun _ => [] }
    let filter : FilterSettings := { targets := some "found", childrenFiles := true }
    let found : RuleSet := ⟨[⟨.print, .print ⟨some "hit"⟩, ∅⟩], []⟩
    let run : Runner := enter (NameMap.ofEntries [("found", found)]) fs 1
    let start : Session := { bindings := ∅ }
    let final : Session := (filter.store start "a.txt").printLine "hit"
    Rule.parse .builtin ∅ "file-filter --childrenfiles --then found" =
        .ok ⟨.fileFilter, .filter filter, ∅⟩ ∧
      fs.isFolder "a.txt" = false ∧
      (Settings.filter filter).test fs run (.path "a.txt") start = some (true, start) ∧
      (Settings.filter filter.onItself).test fs run (.path "a.txt") start = some (true, final) ∧
      start.printed = "" ∧ final.printed = "hit\n" ∧
      (Settings.filter filter).test fs run (.path "a.txt") start ≠
        (Settings.filter filter.onItself).test fs run (.path "a.txt") start := by
  intro fs filter found run start final
  have hread : Line.Definition.read? "file-filter --childrenfiles --then found" =
      some ⟨"file-filter", [⟨"childrenfiles", false, "true"⟩, ⟨"then", false, "found"⟩]⟩ := by
    decide +kernel
  have hkind : Registry.builtin.get? "file-filter" = some .fileFilter := rfl
  have haccepted : RuleKind.fileFilter.firstRefusal?
      (Variables.valuesOf ∅ [("childrenfiles", "true"), ("then", "found")]) = none := by
    decide +kernel
  have hstored : RuleKind.fileFilter.updateAll RuleKind.fileFilter.blank
      (Variables.valuesOf ∅ [("childrenfiles", "true"), ("then", "found")]) =
        .filter filter := by decide +kernel
  have hparse := Rule.parse_eq hread hkind ∅
  simp only [List.map_cons, List.map_nil, Line.Assignment.entry, haccepted, hstored] at hparse
  have hasking : (Settings.filter filter).test fs run (.path "a.txt") start =
      some (true, start) := rfl
  have hcleared : (Settings.filter filter.onItself).test fs run (.path "a.txt") start =
      some (true, final) := by rfl
  refine ⟨hparse, rfl, hasking, hcleared, rfl, rfl, ?_⟩
  rw [hasking, hcleared]
  intro hsame
  have hprinted : start.printed = final.printed :=
    congrArg Session.printed (Prod.mk.inj (Option.some.inj hsame)).2
  exact absurd hprinted (by decide)

end Rulebook.FilterSettings
