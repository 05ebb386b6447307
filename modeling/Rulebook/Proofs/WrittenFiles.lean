/-
  Rulebook.Proofs.WrittenFiles

  A file that was written is read back (`FileTree.readText_of_writeText`), also where links
  lead to it.  The tree afterwards differs from the one before in one place only, at which
  there was a file or nothing (`FileNode.look_at?_put`).  So a path that led there still does:
  the folders and links on the way are other places (`FileTree.Leads.find_of_write`).
-/
import Rulebook.FileTree
import Rulebook.Proofs.Roster

namespace Rulebook

/-- A change depends on the value that the name has. -/
theorem Roster.changeIn_congr {α : Type} {name : String} {change change' : Option α → α}
    {entries : List (String × α)}
    (h : change (lookupIn entries name) = change' (lookupIn entries name)) :
    changeIn name change entries = changeIn name change' entries := by
  induction entries with
  | nil => simpa [changeIn, lookupIn] using h
  | cons entry entries ih =>
    obtain ⟨other, value⟩ := entry
    by_cases hother : other = name
    · simpa [changeIn, lookupIn, hother] using h
    · have hrest : lookupIn ((other, value) :: entries) name = lookupIn entries name := by
        simp [lookupIn, hother]
      rw [hrest] at h
      rw [changeIn, changeIn, if_neg hother, if_neg hother, ih h]

/-! ## Places in a node -/

namespace FileNode

/-- The node that names lead to from a node, folder by folder. -/
def at? : FileNode → List String → Option FileNode
  | node, [] => some node
  | folder entries, name :: names => (Roster.lookupIn entries name).bind fun node => node.at? names
  | _, _ :: _ => none

/-- Put a node in the place that names lead to. -/
def put : FileNode → List String → FileNode → FileNode
  | _, [], new => new
  | folder entries, name :: names, new =>
    folder (Roster.changeIn name (fun old => (old.getD (folder [])).put names new) entries)
  | node, _ :: _, _ => node

/-- What there is to see of a node from outside. -/
inductive Look
  | folder
  | file (content : ByteArray)
  | link (target : String)

/-- What there is to see of a node from outside. -/
def look : FileNode → Look
  | folder _ => .folder
  | file content => .file content
  | link target => .link target

theorem exists_of_look_eq_folder {node : FileNode} (h : node.look = .folder) :
    ∃ entries, node = folder entries := by
  cases node with
  | folder entries => exact ⟨entries, rfl⟩
  | _ => cases h

theorem eq_file_of_look {node : FileNode} {content : ByteArray} (h : node.look = .file content) :
    node = file content := by
  cases node <;> cases h
  rfl

theorem eq_link_of_look {node : FileNode} {target : String} (h : node.look = .link target) :
    node = link target := by
  cases node <;> cases h
  rfl

variable {node : FileNode} {entries : Entries} {names : List String} {name : String}

@[simp] theorem at?_nil : node.at? [] = some node := by
  cases node <;> rfl

theorem at?_append (names others : List String) :
    node.at? (names ++ others) = (node.at? names).bind fun inner => inner.at? others := by
  induction names generalizing node with
  | nil => simp
  | cons name names ih =>
    cases node with
    | folder entries =>
      simp only [List.cons_append, at?, Option.bind_assoc, ih]
    | file content => rfl
    | link target => rfl

theorem at?_folder_singleton : (folder entries).at? [name] = Roster.lookupIn entries name := by
  simp [at?]

/-- If names lead further than to the node itself, it is a folder. -/
theorem exists_folder_of_at? {inner : FileNode} (h : node.at? (name :: names) = some inner) :
    ∃ entries next, node = folder entries ∧ Roster.lookupIn entries name = some next ∧
      next.at? names = some inner := by
  cases node with
  | folder entries =>
    obtain ⟨next, hnext, hinner⟩ := Option.bind_eq_some_iff.mp h
    exact ⟨entries, next, rfl, hnext, hinner⟩
  | file content => cases h
  | link target => cases h

/-- Putting a node into a folder is putting the changed folder in place of the folder. -/
theorem put_concat (h : node.at? names = some (folder entries)) (new : FileNode) :
    node.put (names ++ [name]) new =
      node.put names (folder (Roster.changeIn name (fun _ => new) entries)) := by
  induction names generalizing node with
  | nil =>
    obtain rfl : node = folder entries := by simpa using h
    simp [put]
  | cons first names ih =>
    obtain ⟨outer, next, rfl, hnext, hinner⟩ := exists_folder_of_at? h
    simp only [List.cons_append, put]
    -- the two changes of the outer folder agree on what it has under the name
    congr 1
    apply Roster.changeIn_congr
    rw [hnext, Option.getD_some, ih hinner]

/-- After a file was put in a place where there was a file or nothing, all other places look as
    they did. -/
theorem look_at?_put (h : node.at? names = some (folder entries))
    (hplace : ∀ old, Roster.lookupIn entries name = some old → ∃ content, old = file content)
    (content : ByteArray) (others : List String) :
    ((node.put (names ++ [name]) (file content)).at? others).map look =
      if others = names ++ [name] then some (.file content) else (node.at? others).map look := by
  induction names generalizing node others with
  | nil =>
    obtain rfl : node = folder entries := by simpa using h
    cases others with
    | nil => simp [put, look]
    | cons other others =>
      simp only [List.nil_append, put, at?, Roster.lookupIn_changeIn]
      by_cases hother : name = other
      · subst hother
        -- neither the file nor what it replaces has anything inside
        cases others with
        | nil => simp [look]
        | cons inner others =>
          cases hold : Roster.lookupIn entries name with
          | none => simp [at?]
          | some old =>
            obtain ⟨content', rfl⟩ := hplace old hold
            simp [at?]
      · simp [hother, Ne.symm hother]
  | cons first names ih =>
    obtain ⟨outer, next, rfl, hnext, hinner⟩ := exists_folder_of_at? h
    cases others with
    | nil => simp [put, look]
    | cons other others =>
      -- only the way through the first name comes near the place
      simp only [List.cons_append, put, at?, Roster.lookupIn_changeIn]
      by_cases hother : first = other
      · subst hother
        simp only [if_true, hnext, Option.getD_some, Option.bind_some, List.cons.injEq, true_and]
        exact ih hinner others
      · simp [hother, Ne.symm hother]

end FileNode

namespace FileTree

/-- The root of a tree as a node. -/
def root (tree : FileTree) : FileNode := .folder tree.entries

/-! ## Standing in a tree -/

/-- The names that lead from the root to a folder. -/
def Spot.place (spot : Spot) : List String := (spot.around.map Prod.fst).reverse

/-- A folder that was come to from the root of a tree. -/
inductive Stands (tree : FileTree) : Spot → Prop
  | top : Stands tree tree.top
  | enter {spot : Spot} {name : String} {entries : FileNode.Entries} (h : Stands tree spot)
      (hnode : spot.node? name = some (.folder entries)) : Stands tree (spot.enter name entries)

variable {tree tree' : FileTree} {spot spot' last : Spot} {name : String}

theorem Spot.place_enter (spot : Spot) (name : String) (entries : FileNode.Entries) :
    (spot.enter name entries).place = spot.place ++ [name] := by
  simp [place, enter]

theorem Spot.place_leave (spot : Spot) : spot.leave.place = spot.place.dropLast := by
  obtain ⟨entries, around⟩ := spot
  cases around <;> simp [place, leave]

theorem Spot.root_enter (spot : Spot) (name : String) (entries : FileNode.Entries) :
    (spot.enter name entries).root = spot.root := by
  obtain ⟨inner, around⟩ := spot
  cases around with
  | nil => rfl
  | cons first around =>
    -- the root is the last of the folders around, and there is one already
    simp only [root, enter, List.getLast?_cons_cons]
    rw [List.getLast?_eq_some_getLast (List.cons_ne_nil first around)]

namespace Stands

theorem at?_place (h : Stands tree spot) :
    tree.root.at? spot.place = some (.folder spot.entries) := by
  induction h with
  | top => rfl
  | enter h hnode ih =>
    rw [Spot.place_enter, FileNode.at?_append, ih, Option.bind_some, FileNode.at?_folder_singleton]
    exact hnode

/-- What stands under a name in a folder is what the tree has in that place. -/
theorem node?_eq (h : Stands tree spot) (name : String) :
    spot.node? name = tree.root.at? (spot.place ++ [name]) := by
  rw [FileNode.at?_append, h.at?_place, Option.bind_some, FileNode.at?_folder_singleton]
  rfl

/-- The folder around one that was come to was come to before, or is the root. -/
theorem leave (h : Stands tree spot) : Stands tree spot.leave := by
  cases h with
  | top => exact .top
  | enter h hnode => exact h

theorem root_eq (h : Stands tree spot) : spot.root = tree.top := by
  induction h with
  | top => rfl
  | enter h hnode ih => rw [Spot.root_enter, ih]

/-- Where the target of a link starts was come to before. -/
theorem start (h : Stands tree spot) (target : String) :
    Stands tree (if Path.isAbsolute target then spot.root else spot) := by
  split
  · rw [h.root_eq]
    exact .top
  · exact h

/-- With other entries in a folder the root is the one with these entries put there. -/
theorem folder_entriesAround (h : Stands tree spot) (entries : FileNode.Entries) :
    FileNode.folder (Spot.entriesAround entries spot.around) =
      tree.root.put spot.place (.folder entries) := by
  induction h generalizing entries with
  | top => rfl
  | @enter spot name inner h hnode ih =>
    rw [Spot.place_enter, FileNode.put_concat h.at?_place]
    exact ih _

theorem root_changedAt (h : Stands tree spot) (name : String) (node : FileNode) :
    (tree.changedAt (spot.put name node)).root = tree.root.put (spot.place ++ [name]) node := by
  rw [FileNode.put_concat h.at?_place]
  exact h.folder_entriesAround _

end Stands

/-! ## Ways to an entry -/

/-- A name that is looked for in a folder, in front of others. -/
def IsLookedFor (aim : Aim) (name : String) (rest : List String) : Prop :=
  ¬ (name = "" ∨ name = ".") ∧ name ≠ ".." ∧ ¬ (aim = .write ∧ rest = [""]) ∧
    ¬ maxNameSize < name.utf8ByteSize

/-- Names lead from a folder, through some links, to an entry of a folder that is a file or is
    not there yet. -/
inductive Leads (aim : Aim) : Nat → Spot → List String → Spot → String → Prop
  | stay {links : Nat} {spot last : Spot} {name final : String} {rest : List String}
      (hname : name = "" ∨ name = ".") (h : Leads aim links spot rest last final) :
      Leads aim links spot (name :: rest) last final
  | up {links : Nat} {spot last : Spot} {final : String} {rest : List String}
      (h : Leads aim links spot.leave rest last final) :
      Leads aim links spot (".." :: rest) last final
  | down {links : Nat} {spot last : Spot} {name final : String} {rest : List String}
      {entries : FileNode.Entries} (hname : IsLookedFor aim name rest)
      (hnode : spot.node? name = some (.folder entries))
      (h : Leads aim links (spot.enter name entries) rest last final) :
      Leads aim links spot (name :: rest) last final
  | link {links : Nat} {spot last : Spot} {name final target : String} {rest : List String}
      (hname : IsLookedFor aim name rest) (hnode : spot.node? name = some (.link target))
      (h : Leads aim links (if Path.isAbsolute target then spot.root else spot)
        (Path.steps target ++ rest) last final) :
      Leads aim (links + 1) spot (name :: rest) last final
  | here {links : Nat} {spot : Spot} {name : String} (hname : IsLookedFor aim name [])
      (hnode : ∀ node, spot.node? name = some node → ∃ content, node = .file content) :
      Leads aim links spot [name] spot name

/-- The entry at which a path ends, if it is a file or is not there yet. -/
def Found.last? : Found → Option (Spot × String)
  | file spot name _ | vacant spot name => some (spot, name)
  | _ => none

/-- What is written is put where the path leads. -/
theorem exists_last_of_write {path : String} {content : ByteArray}
    (h : tree.write path content = .ok tree') :
    ∃ spot name, (tree.resolve .write path).last? = some (spot, name) ∧
      tree' = tree.changedAt (spot.put name (.file content)) := by
  unfold write at h
  split at h
  · next spot name old hfound =>
    exact ⟨spot, name, by rw [hfound]; rfl, (Except.ok.inj h).symm⟩
  · next spot name hfound =>
    exact ⟨spot, name, by rw [hfound]; rfl, (Except.ok.inj h).symm⟩
  all_goals cases h

theorem leads_of_last? {aim : Aim} {links : Nat} {names : List String} {last : Spot}
    (h : (follow aim links spot names).last? = some (last, name)) :
    Leads aim links spot names last name := by
  fun_induction follow aim links spot names with
  | case1 | case4 | case5 | case7 | case10 | case11 => cases h
  | case2 _ _ _ _ hname ih => exact .stay hname (ih h)
  | case3 _ _ _ _ ih => exact .up (ih h)
  | case6 _ spot first rest hstay hup hend hsize hnode hrest =>
    cases h
    obtain rfl : rest = [] := List.isEmpty_iff.mp hrest
    exact .here ⟨hstay, hup, hend, hsize⟩ (by simp [hnode])
  | case8 _ _ _ _ hstay hup hend hsize _ hnode ih =>
    exact .down ⟨hstay, hup, hend, hsize⟩ hnode (ih h)
  | case9 _ spot first rest hstay hup hend hsize content hnode hrest =>
    cases h
    obtain rfl : rest = [] := List.isEmpty_iff.mp hrest
    exact .here ⟨hstay, hup, hend, hsize⟩ (by simp [hnode])
  | case12 _ _ _ hstay hup hend hsize _ hnode _ _ ih =>
    exact .link ⟨hstay, hup, hend, hsize⟩ hnode (ih h)

/-- A way to a file is one that is followed. -/
theorem Leads.follow_eq {links : Nat} {names : List String} {last : Spot} {content : ByteArray}
    (h : Leads .find links spot names last name)
    (hfile : last.node? name = some (.file content)) :
    follow .find links spot names = .file last name content := by
  induction h with
  | stay hname h ih => rw [follow, if_pos hname, ih hfile]
  | up h ih => simp [follow, ih hfile]
  | down hname hnode h ih =>
    rw [follow, if_neg hname.1, if_neg hname.2.1, if_neg hname.2.2.1, if_neg hname.2.2.2, hnode]
    exact ih hfile
  | link hname hnode h ih =>
    rw [follow, if_neg hname.1, if_neg hname.2.1, if_neg hname.2.2.1, if_neg hname.2.2.2, hnode]
    exact ih hfile
  | here hname hnode =>
    rw [follow, if_neg hname.1, if_neg hname.2.1, if_neg hname.2.2.1, if_neg hname.2.2.2, hfile]
    rfl

theorem Leads.stands {aim : Aim} {links : Nat} {names : List String} {last : Spot}
    (h : Leads aim links spot names last name) (hspot : Stands tree spot) :
    Stands tree last ∧
      ∀ node, last.node? name = some node → ∃ content, node = .file content := by
  induction h with
  | stay hname h ih => exact ih hspot
  | up h ih => exact ih hspot.leave
  | down hname hnode h ih => exact ih (hspot.enter hnode)
  | link hname hnode h ih => exact ih (hspot.start _)
  | here hname hnode => exact ⟨hspot, hnode⟩

/-! ## Reading what was written -/

theorem IsLookedFor.find {rest : List String} (h : IsLookedFor .write name rest) :
    IsLookedFor .find name rest :=
  ⟨h.1, h.2.1, fun hend => Aim.noConfusion hend.1, h.2.2.2⟩

/-- A tree looks like another, but for a file in one place. -/
def DiffersAt (place : List String) (content : ByteArray) (tree tree' : FileTree) : Prop :=
  ∀ other, (tree'.root.at? other).map FileNode.look =
    if other = place then some (.file content) else (tree.root.at? other).map FileNode.look

theorem Stands.differsAt_put (h : Stands tree spot)
    (hnode : ∀ node, spot.node? name = some node → ∃ content, node = .file content)
    (content : ByteArray) :
    DiffersAt (spot.place ++ [name]) content tree
      (tree.changedAt (spot.put name (.file content))) := by
  intro other
  rw [h.root_changedAt]
  exact FileNode.look_at?_put h.at?_place hnode content other

/-- Folders in the same place of two such trees look alike. -/
theorem DiffersAt.look_node? {place : List String} {content : ByteArray}
    (h : DiffersAt place content tree tree') (hspot : Stands tree spot)
    (hspot' : Stands tree' spot') (hplace : spot'.place = spot.place) (name : String) :
    (spot'.node? name).map FileNode.look =
      if spot.place ++ [name] = place then some (.file content)
      else (spot.node? name).map FileNode.look := by
  rw [hspot'.node?_eq, hplace, h, hspot.node?_eq]

/-- The folders and links on a way look after the writing as they did before. -/
theorem Leads.look_of_differsAt {links : Nat} {names : List String} {last : Spot} {final : String}
    {content : ByteArray} (h : Leads .write links spot names last final)
    (hspot : Stands tree spot) (hspot' : Stands tree' spot') (hplace : spot'.place = spot.place)
    (hdiffers : DiffersAt (last.place ++ [final]) content tree tree') {node : FileNode}
    (hnode : spot.node? name = some node) (hother : ∀ content, node ≠ .file content) :
    (spot'.node? name).map FileNode.look = some node.look := by
  obtain ⟨hlast, hfile⟩ := h.stands hspot
  rw [hdiffers.look_node? hspot hspot' hplace, hnode]
  refine if_neg fun hsame => ?_
  -- in the place that is written there is a file or nothing
  rw [hspot.node?_eq, hsame, ← hlast.node?_eq] at hnode
  obtain ⟨old, hold⟩ := hfile node hnode
  exact hother old hold

/-- The way to what is written leads to it afterwards. -/
theorem Leads.find_of_write {links : Nat} {names : List String} {last : Spot}
    {content : ByteArray} (h : Leads .write links spot names last name)
    (hspot : Stands tree spot) (hspot' : Stands tree' spot') (hplace : spot'.place = spot.place)
    (hdiffers : DiffersAt (last.place ++ [name]) content tree tree') :
    ∃ last', Leads .find links spot' names last' name ∧
      last'.node? name = some (.file content) := by
  induction h generalizing spot' with
  | stay hname h ih =>
    obtain ⟨last', hleads, hread⟩ := ih hspot hspot' hplace hdiffers
    exact ⟨last', .stay hname hleads, hread⟩
  | @up links spot last final rest h ih =>
    have houter : spot'.leave.place = spot.leave.place := by
      rw [Spot.place_leave, Spot.place_leave, hplace]
    obtain ⟨last', hleads, hread⟩ := ih hspot.leave hspot'.leave houter hdiffers
    exact ⟨last', .up hleads, hread⟩
  | @down links spot last first final rest entries hname hnode h ih =>
    obtain ⟨node', hnode', hlook⟩ := Option.map_eq_some_iff.mp
      ((Leads.down hname hnode h).look_of_differsAt hspot hspot' hplace hdiffers hnode (by simp))
    obtain ⟨entries', rfl⟩ := FileNode.exists_of_look_eq_folder hlook
    have hinner : (spot'.enter first entries').place = (spot.enter first entries).place := by
      rw [Spot.place_enter, Spot.place_enter, hplace]
    obtain ⟨last', hleads, hread⟩ := ih (hspot.enter hnode) (hspot'.enter hnode') hinner hdiffers
    exact ⟨last', .down hname.find hnode' hleads, hread⟩
  | @link links spot last first final target rest hname hnode h ih =>
    obtain ⟨node', hnode', hlook⟩ := Option.map_eq_some_iff.mp
      ((Leads.link hname hnode h).look_of_differsAt hspot hspot' hplace hdiffers hnode (by simp))
    obtain rfl := FileNode.eq_link_of_look hlook
    -- both targets start at the root, or in folders in the same place
    have hstart : (if Path.isAbsolute target then spot'.root else spot').place =
        (if Path.isAbsolute target then spot.root else spot).place := by
      split
      · rw [hspot.root_eq, hspot'.root_eq]
        rfl
      · exact hplace
    obtain ⟨last', hleads, hread⟩ := ih (hspot.start _) (hspot'.start _) hstart hdiffers
    exact ⟨last', .link hname.find hnode' hleads, hread⟩
  | @here links spot name hname hnode =>
    -- this is the place that is written
    have hlook := hdiffers.look_node? hspot hspot' hplace name
    rw [if_pos rfl] at hlook
    obtain ⟨node', hnode', hfile⟩ := Option.map_eq_some_iff.mp hlook
    obtain rfl := FileNode.eq_file_of_look hfile
    exact ⟨spot', .here hname.find (by simp [hnode']), hnode'⟩

/-- A path that has an entry is none that leads nowhere in every tree. -/
theorem flaw?_of_last? {aim : Aim} {path : String} {last : Spot}
    (h : (tree.resolve aim path).last? = some (last, name)) : flaw? path = none := by
  unfold resolve at h
  split at h
  · cases h
  · next hflaw => exact hflaw

theorem fromUTF8?_toUTF8 (text : String) : String.fromUTF8? text.toUTF8 = some text := by
  have hvalid : text.toUTF8.IsValidUTF8 := text.isValidUTF8
  rw [String.fromUTF8?, dif_pos hvalid]
  rfl

/-- What is read at a path to which a text was written is this text. -/
theorem readText_of_writeText {path text : String} (h : tree.writeText path text = .ok tree') :
    tree'.readText path = .ok text := by
  obtain ⟨spot, name, hlast, rfl⟩ := exists_last_of_write h
  have hflaw := flaw?_of_last? hlast
  have hleads :
      Leads .write maxLinks tree.top (tree.startOf path ++ Path.steps path) spot name := by
    rw [resolve, hflaw] at hlast
    exact leads_of_last? hlast
  obtain ⟨hspot, hnode⟩ := hleads.stands .top
  have hdiffers := hspot.differsAt_put hnode text.toUTF8
  have htop : Stands (tree.changedAt (spot.put name (.file text.toUTF8))) _ := .top
  obtain ⟨last, hfind, hfile⟩ := hleads.find_of_write .top htop rfl hdiffers
  -- paths start in the same folder as before
  have hresolve : (tree.changedAt (spot.put name (.file text.toUTF8))).find path =
      .file last name text.toUTF8 := by
    rw [find, resolve, hflaw]
    exact hfind.follow_eq hfile
  rw [readText, hresolve]
  simp only [fromUTF8?_toUTF8]

end FileTree

end Rulebook
