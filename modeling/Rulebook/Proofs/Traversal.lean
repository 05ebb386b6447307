/-
  Rulebook.Proofs.Traversal

  What a file filter does with the entries of a folder.  It calls its sets once for
  each entry that passes, first for the files and then for the folders that it asks
  for, each in increasing order of their names, and does nothing else
  (`test_traverses`).  How the sets are run is left open, so whatever earlier calls
  have done, each call finds the variables of its own entry.
-/
import Rulebook.Kind.Custom
import Rulebook.Proofs.FolderEntries
import Rulebook.Proofs.Invariance
import Rulebook.Proofs.NameMaps
import Rulebook.Proofs.RunCongruence

namespace Rulebook.FilterSettings

/-! ## One entry -/

/-- Call the sets of a filter on a path.  Without sets nothing is called. -/
def callTargets (filter : FilterSettings) (run : Runner) (path : String) (session : Session) :
    Option Session :=
  match filter.targets with
  | some targets => run.call targets (.path path) session
  | none => some session

variable {fs : FileSystem} {run : Runner} {filter : FilterSettings}

theorem visit_of_passes {path : String} (h : filter.passes fs path = true) (session : Session) :
    filter.visit fs run session path =
      filter.callTargets run path (filter.store session path) := by
  rw [visit, if_pos h]
  rfl

/-- A path that does not pass leaves everything as it is. -/
theorem visit_of_not_passes {path : String} (h : filter.passes fs path = false)
    (session : Session) : filter.visit fs run session path = some session := by
  rw [visit, if_neg (by simp [h])]

theorem getElem?_nameVariable_store (filter : FilterSettings) (session : Session)
    (path : String) :
    (filter.store session path).bindings[filter.nameVariable]? = some (Path.fileName path) := by
  simp only [store, Session.setVariable]
  rw [NameMap.getElem?_insert_name, if_pos rfl]

theorem getElem?_pathVariable_store (h : filter.nameVariable ≠ filter.pathVariable)
    (session : Session) (path : String) :
    (filter.store session path).bindings[filter.pathVariable]? = some path := by
  simp only [store, Session.setVariable]
  rw [NameMap.getElem?_insert_name, if_neg h, NameMap.getElem?_insert_name, if_pos rfl]

/-! ## Calls one after another -/

/-- A call for an entry of a folder: the name of the entry, the session that the call finds,
    and the one that it leaves. -/
structure EntryCall where
  name : String
  start : Session
  final : Session

/-- The calls that a filter makes for entries of a folder, one after another, and nothing
    else between them.  Each finds what the one before it has left, with the variables set to
    its own entry. -/
inductive Calls (filter : FilterSettings) (run : Runner) (folder : String) :
    Session → List EntryCall → Session → Prop
  | nil (session : Session) : Calls filter run folder session [] session
  | cons {before final : Session} {call : EntryCall} {rest : List EntryCall}
      (hstart : call.start = filter.store before (Path.child folder call.name))
      (hcall : filter.callTargets run (Path.child folder call.name) call.start =
        some call.final)
      (hrest : Calls filter run folder call.final rest final) :
      Calls filter run folder before (call :: rest) final

variable {folder : String} {names : List String}

/-- A walk over entries that pass makes one call for each of them, in order. -/
theorem foldlM_visit_eq_some_iff
    (hpasses : ∀ name ∈ names, filter.passes fs (Path.child folder name) = true)
    {before final : Session} :
    (names.map (Path.child folder)).foldlM (filter.visit fs run) before = some final ↔
      ∃ calls, calls.map (·.name) = names ∧ filter.Calls run folder before calls final := by
  induction names generalizing before with
  | nil =>
    constructor
    · intro h
      cases h
      exact ⟨[], rfl, .nil _⟩
    · rintro ⟨calls, hnames, hcalls⟩
      obtain rfl := List.map_eq_nil_iff.mp hnames
      cases hcalls
      rfl
  | cons name names ih =>
    have hrest := @ih fun other hother => hpasses other (List.mem_cons_of_mem _ hother)
    rw [List.map_cons, List.foldlM_cons, visit_of_passes (hpasses name (by simp))]
    constructor
    · intro h
      obtain ⟨next, hnext, hfinal⟩ := Option.bind_eq_some_iff.mp h
      obtain ⟨calls, rfl, hcalls⟩ := hrest.mp hfinal
      exact ⟨⟨name, _, next⟩ :: calls, rfl, .cons rfl hnext hcalls⟩
    · rintro ⟨calls, hnames, hcalls⟩
      cases hcalls with
      | nil => cases hnames
      | @cons _ _ call rest hstart hcall hcalls =>
        obtain ⟨rfl, rfl⟩ := List.cons.inj hnames
        rw [← hstart, hcall]
        exact hrest.mpr ⟨rest, rfl, hcalls⟩

/-- A walk over entries that pass has no outcome exactly if one of its calls has none. -/
theorem foldlM_visit_eq_none_iff
    (hpasses : ∀ name ∈ names, filter.passes fs (Path.child folder name) = true)
    {before : Session} :
    (names.map (Path.child folder)).foldlM (filter.visit fs run) before = none ↔
      ∃ done name later calls reached, names = done ++ name :: later ∧
        calls.map (·.name) = done ∧ filter.Calls run folder before calls reached ∧
        filter.callTargets run (Path.child folder name)
          (filter.store reached (Path.child folder name)) = none := by
  induction names generalizing before with
  | nil =>
    constructor
    · intro h
      cases h
    · rintro ⟨done, name, later, calls, reached, hnames, -⟩
      simp at hnames
  | cons name names ih =>
    have hrest := @ih fun other hother => hpasses other (List.mem_cons_of_mem _ hother)
    rw [List.map_cons, List.foldlM_cons, visit_of_passes (hpasses name (by simp))]
    constructor
    · intro h
      cases hnext : filter.callTargets run (Path.child folder name)
          (filter.store before (Path.child folder name)) with
      | none => exact ⟨[], name, names, [], before, rfl, rfl, .nil _, hnext⟩
      | some next =>
        rw [hnext] at h
        obtain ⟨done, other, later, calls, reached, rfl, rfl, hcalls, hnone⟩ := hrest.mp h
        exact ⟨name :: calls.map (·.name), other, later, ⟨name, _, next⟩ :: calls, reached, rfl,
          rfl, .cons rfl hnext hcalls, hnone⟩
    · rintro ⟨done, other, later, calls, reached, hnames, hdone, hcalls, hnone⟩
      cases hcalls with
      | nil =>
        -- no call was made, so it is the first that has no outcome
        subst hdone
        obtain ⟨rfl, rfl⟩ := List.cons.inj hnames
        rw [hnone]
        rfl
      | @cons _ _ call rest hstart hcall hcalls =>
        subst hdone
        obtain ⟨rfl, rfl⟩ := List.cons.inj hnames
        rw [← hstart, hcall]
        exact hrest.mpr ⟨_, other, later, rest, reached, rfl, rfl, hcalls, hnone⟩

/-! ## The entries that are visited -/

/-- The names of the entries of one kind that pass, if the filter asks for that kind. -/
def entryNames (filter : FilterSettings) (fs : FileSystem) (folder : String) (asked : Bool)
    (isKind : String → Bool) : List String :=
  if asked then
    (fs.sortedNames folder).filter fun name =>
      isKind (Path.child folder name) && filter.passes fs (Path.child folder name)
  else []

variable {asked : Bool} {isKind : String → Bool}

theorem mem_entryNames {name : String} :
    name ∈ filter.entryNames fs folder asked isKind ↔
      asked = true ∧ name ∈ fs.namesAt folder ∧ isKind (Path.child folder name) = true ∧
        filter.passes fs (Path.child folder name) = true := by
  cases asked with
  | false => simp [entryNames]
  | true => simp [entryNames, FileSystem.mem_sortedNames]

theorem pairwise_entryNames (h : (fs.namesAt folder).Nodup) :
    (filter.entryNames fs folder asked isKind).Pairwise fun a b => compare a b = .lt := by
  unfold entryNames
  split
  · exact (FileSystem.pairwise_sortedNames h).filter _
  · exact .nil

theorem filter_passes_entries :
    (if asked then (fs.children folder).filter isKind else []).filter (filter.passes fs) =
      (filter.entryNames fs folder asked isKind).map (Path.child folder) := by
  cases asked with
  | false => rfl
  | true =>
    rw [if_pos rfl, FileSystem.children_eq_map, List.filter_map, List.filter_map,
      List.filter_filter, entryNames, if_pos rfl]
    simp only [Function.comp_def, Bool.and_comm]

/-- Of the candidates in a folder, the files that pass come first and then the folders. -/
theorem filter_passes_candidates
    (hchildren : filter.childrenFiles = true ∨ filter.childrenFolders = true)
    (hfolder : fs.isFolder folder = true) :
    (filter.candidates fs folder).filter (filter.passes fs) =
      (filter.entryNames fs folder filter.childrenFiles fs.isFile ++
        filter.entryNames fs folder filter.childrenFolders fs.isFolder).map
          (Path.child folder) := by
  rw [candidates, if_pos (by simpa using hchildren), if_pos hfolder, List.filter_append,
    filter_passes_entries, filter_passes_entries, List.map_append]

/-! ## A folder -/

/-- What comes of a filter that is tested on a folder.  The names are those of the entries
    that it visits, `files` in front of `folders`. -/
structure Traverses (filter : FilterSettings) (fs : FileSystem) (run : Runner) (folder : String)
    (session : Session) (files folders : List String) (outcome : Option (Bool × Session)) :
    Prop where
  files_increasing : files.Pairwise fun a b => compare a b = .lt
  folders_increasing : folders.Pairwise fun a b => compare a b = .lt
  mem_files : ∀ name, name ∈ files ↔
    filter.childrenFiles = true ∧ name ∈ fs.namesAt folder ∧
      fs.isFile (Path.child folder name) = true ∧
      filter.passes fs (Path.child folder name) = true
  mem_folders : ∀ name, name ∈ folders ↔
    filter.childrenFolders = true ∧ name ∈ fs.namesAt folder ∧
      fs.isFolder (Path.child folder name) = true ∧
      filter.passes fs (Path.child folder name) = true
  /-- Whatever the session was before, a call finds the variables of its own entry. -/
  store_variables : ∀ name ∈ files ++ folders, ∀ before,
    (filter.store before (Path.child folder name)).bindings[filter.nameVariable]? = some name ∧
      (filter.nameVariable ≠ filter.pathVariable →
        (filter.store before (Path.child folder name)).bindings[filter.pathVariable]? =
          some (Path.child folder name))
  /-- The rule ends when one call was made for each name, in order, and it passes. -/
  outcome_eq_some_iff : ∀ passed final, outcome = some (passed, final) ↔
    passed = true ∧ ∃ calls, calls.map (·.name) = files ++ folders ∧
      filter.Calls run folder session calls final
  /-- Otherwise one of the calls does not end, and those in front of it were made. -/
  outcome_eq_none_iff : outcome = none ↔
    ∃ done name later calls reached, files ++ folders = done ++ name :: later ∧
      calls.map (·.name) = done ∧ filter.Calls run folder session calls reached ∧
      filter.callTargets run (Path.child folder name)
        (filter.store reached (Path.child folder name)) = none

/-- A filter that asks for the files or the folders in a folder calls its sets exactly once
    for each of them that passes, in increasing order of the names and files in front of
    folders.  It does so however the sets are run, and passes when all calls have ended. -/
theorem test_traverses [Plugins] [PluginTests] (fs : FileSystem) (run : Runner)
    {filter : FilterSettings}
    (hchildren : filter.childrenFiles = true ∨ filter.childrenFolders = true) {input : Input}
    {folder : String} (hinput : input.path? = some folder)
    (hfolder : fs.isFolder folder = true) (hlists : fs.Lists folder) (session : Session) :
    ∃ files folders : List String, filter.Traverses fs run folder session files folders
      ((Settings.filter filter).test fs run input session) := by
  let files := filter.entryNames fs folder filter.childrenFiles fs.isFile
  let folders := filter.entryNames fs folder filter.childrenFolders fs.isFolder
  have hpasses : ∀ name ∈ files ++ folders,
      filter.passes fs (Path.child folder name) = true := by
    intro name hname
    rcases List.mem_append.mp hname with hname | hname
    · exact (mem_entryNames.mp hname).2.2.2
    · exact (mem_entryNames.mp hname).2.2.2
  have hlisted : ∀ name ∈ files ++ folders, name ∈ fs.namesAt folder := by
    intro name hname
    rcases List.mem_append.mp hname with hname | hname
    · exact (mem_entryNames.mp hname).2.1
    · exact (mem_entryNames.mp hname).2.1
  -- candidates that do not pass have no effect, so the walk is one over the others
  have hwalk : filter.walk fs run session folder =
      ((files ++ folders).map (Path.child folder)).foldlM (filter.visit fs run) session := by
    rw [walk, ← filter_passes_candidates hchildren hfolder]
    exact (foldlM_filter_eq (fun path _ h before => visit_of_not_passes h before) session).symm
  have htest : (Settings.filter filter).test fs run input session =
      (((files ++ folders).map (Path.child folder)).foldlM (filter.visit fs run) session).map
        (true, ·) := by
    simp only [Settings.test, hinput, hwalk]
  refine ⟨files, folders, pairwise_entryNames hlists.nodup, pairwise_entryNames hlists.nodup,
    fun _ => mem_entryNames, fun _ => mem_entryNames, ?_, ?_, ?_⟩
  · intro name hname before
    have hfile : Path.fileName (Path.child folder name) = name :=
      Path.fileName_child (hlists.isName name (hlisted name hname)) folder
    refine ⟨?_, fun hne => getElem?_pathVariable_store hne before _⟩
    rw [getElem?_nameVariable_store, hfile]
  · intro passed final
    rw [htest, ← foldlM_visit_eq_some_iff hpasses, Option.map_eq_some_iff]
    constructor
    · rintro ⟨last, hlast, heq⟩
      cases heq
      exact ⟨rfl, hlast⟩
    · rintro ⟨rfl, hfinal⟩
      exact ⟨final, hfinal, rfl⟩
  · rw [htest, Option.map_eq_none_iff, foldlM_visit_eq_none_iff hpasses]

/-- Two files and a folder stand in the folder, and something that is neither.  The filter
    asks for files and folders, but lets only files pass. -/
theorem test_traverses_folder :
    let fs : FileSystem :=
      { kindAt := fun path => match path with
          | "d" | "d/sub" => some .folder
          | "d/a" | "d/b" => some .file
          | "d/x" => some .other
          | _ => none
        namesAt := fun path => if path = "d" then ["x", "sub", "b", "a"] else [] }
    let filter : FilterSettings :=
      { targets := some " s t ", file := true, childrenFiles := true, childrenFolders := true }
    let run : Runner := fun name input session =>
      some ((session.printLine (name ++ input.text)).setVariable "file-name" name)
    let start : Session := { bindings := ∅ }
    (filter.childrenFiles = true ∨ filter.childrenFolders = true) ∧
      (Input.path "d").path? = some "d" ∧ fs.isFolder "d" = true ∧ fs.Lists "d" ∧
      ∃ files folders, filter.Traverses fs run "d" start files folders
          ((Settings.filter filter).test fs run (.path "d") start) ∧
        "a" ∈ files ∧ "b" ∈ files ∧ "sub" ∉ files ++ folders ∧ "x" ∉ files ++ folders := by
  intro fs filter run start
  have hfolder : fs.isFolder "d" = true := by decide
  have hlists : fs.Lists "d" := ⟨by decide, by decide⟩
  obtain ⟨files, folders, h⟩ :
      ∃ files folders, filter.Traverses fs run "d" start files folders
        ((Settings.filter filter).test fs run (.path "d") start) :=
    test_traverses fs run (.inl rfl) rfl hfolder hlists start
  refine ⟨.inl rfl, rfl, hfolder, hlists, files, folders, h, ?_, ?_, ?_, ?_⟩
  · exact (h.mem_files "a").mpr (by decide)
  · exact (h.mem_files "b").mpr (by decide)
  · rw [List.mem_append, h.mem_files, h.mem_folders]
    decide
  · rw [List.mem_append, h.mem_files, h.mem_folders]
    decide

end Rulebook.FilterSettings
