/-
  Rulebook.Proofs.Registrations

  How a registry follows from the calls that register its kinds.  A call accepts its
  kinds up to the first that has a flaw, and leaves nothing of the others
  (`perform_eq`).  So after any calls the names stand in the order in which they were
  first accepted, each with the kind that was accepted last under it, and a registry kept
  in two parts, a map of kinds and a list of names, is the same at all times
  (`ofCalls_accounts`).
-/
import Rulebook.NameMap
import Rulebook.Proofs.RegisteredKinds

namespace Rulebook

variable [Plugins]

/-! ## Calls that register kinds -/

/-- A call that registers one kind, or several up to the first that has a flaw. -/
inductive Registration
  | one (kind : RuleKind)
  | several (kinds : List RuleKind)

namespace Registration

/-- The kinds that a call offers. -/
def offered : Registration → List RuleKind
  | one kind => [kind]
  | several kinds => kinds

/-- The kinds that it registers: those in front of the first that has a flaw. -/
def accepted (call : Registration) : List RuleKind :=
  call.offered.takeWhile (·.flaw?.isNone)

/-- The error that ends it: that of the first kind that has a flaw. -/
def error? (call : Registration) : Option RegistryError :=
  call.offered.findSome? fun kind => kind.flaw?.map fun flaw => ⟨kind.name, flaw⟩

end Registration

namespace Registry

/-- Carry out a call.  If it fails, the registry holds what it had registered by then. -/
def perform (registry : Registry) : Registration → Registry × Option RegistryError
  | .one kind =>
    match registry.register kind with
    | .ok registry' => (registry', none)
    | .error e => (registry, some e)
  | .several kinds => registry.registerAll kinds

/-- The registry after some calls, each of which may fail. -/
def ofCalls (calls : List Registration) : Registry :=
  calls.foldl (fun registry call => (registry.perform call).1) ∅

/-! ## What a call registers -/

/-- Give each of some kinds its name, whether it has a flaw or not. -/
def putAll (registry : Registry) (kinds : List RuleKind) : Registry :=
  ⟨kinds.foldl (fun roster kind => roster.set kind.name kind) registry.kinds⟩

@[simp] theorem putAll_nil (registry : Registry) : registry.putAll [] = registry := rfl

theorem putAll_append (registry : Registry) (kinds later : List RuleKind) :
    registry.putAll (kinds ++ later) = (registry.putAll kinds).putAll later := by
  simp [putAll]

theorem registerAll_eq (registry : Registry) (kinds : List RuleKind) :
    registry.registerAll kinds =
      (registry.putAll (Registration.several kinds).accepted,
        (Registration.several kinds).error?) := by
  simp only [Registration.accepted, Registration.error?, Registration.offered]
  induction kinds generalizing registry with
  | nil => rfl
  | cons kind kinds ih =>
    rw [registerAll, register]
    cases hflaw : kind.flaw? with
    | some flaw => simp [hflaw]
    | none =>
      simp only [ih, hflaw, List.takeWhile_cons, List.findSome?_cons, Option.isNone_none, if_true,
        Option.map_none]
      rfl

/-- A call registers the kinds in front of the first that has a flaw, and no others. -/
theorem perform_eq (registry : Registry) (call : Registration) :
    registry.perform call = (registry.putAll call.accepted, call.error?) := by
  cases call with
  | several kinds => exact registry.registerAll_eq kinds
  | one kind =>
    simp only [perform, register, Registration.accepted, Registration.error?,
      Registration.offered]
    cases hflaw : kind.flaw? with
    | some flaw => simp [hflaw]
    | none => simp [hflaw, putAll]

theorem foldl_perform (registry : Registry) (calls : List Registration) :
    calls.foldl (fun registry call => (registry.perform call).1) registry =
      registry.putAll (calls.flatMap (·.accepted)) := by
  induction calls generalizing registry with
  | nil => rfl
  | cons call calls ih => rw [List.foldl_cons, ih, perform_eq, List.flatMap_cons, putAll_append]

/-- After some calls, those kinds are registered that they have accepted. -/
theorem ofCalls_eq (calls : List Registration) :
    ofCalls calls = (∅ : Registry).putAll (calls.flatMap (·.accepted)) :=
  foldl_perform ∅ calls

theorem Reached.perform {registry : Registry} (h : registry.Reached) (call : Registration) :
    (registry.perform call).1.Reached := by
  cases call with
  | several kinds => exact h.registerAll kinds
  | one kind =>
    cases hkind : registry.register kind with
    | ok registry' =>
      simp only [Registry.perform, hkind]
      exact .register h hkind
    | error e =>
      simp only [Registry.perform, hkind]
      exact h

theorem reached_ofCalls (calls : List Registration) : (ofCalls calls).Reached := by
  have hstep : ∀ registry : Registry, registry.Reached → ∀ call ∈ calls,
      (registry.perform call).1.Reached := fun _ h call _ => h.perform call
  exact List.foldlRecOn calls _ .empty hstep

/-- Names are in the order of the first kind that was accepted under them. -/
theorem names_ofCalls (calls : List Registration) :
    (ofCalls calls).names = ((calls.flatMap (·.accepted)).map (·.name)).eraseDups := by
  rw [ofCalls_eq, names, putAll]
  exact Roster.names_foldl_change_empty RuleKind.name (fun kind _ => kind) _

/-- Under a name stands the kind that was last accepted under it. -/
theorem get?_ofCalls (calls : List Registration) (name : String) :
    (ofCalls calls).get? name =
      ((calls.flatMap (·.accepted)).filter (·.name == name)).getLast? := by
  have hempty : (∅ : Registry).kinds.get? name = none := rfl
  rw [ofCalls_eq, get?, putAll, Roster.get?_foldl_set, hempty, Option.or_none, Option.map_id']

/-! ## A registry kept in two parts -/

/-- A registry whose kinds are in a map, apart from their names in the order in which these
    were first accepted. -/
structure Index where
  kinds : NameMap RuleKind := ∅
  order : List String := []

namespace Index

/-- Give a kind its name.  A name without a kind is new, and goes to the end. -/
def put (index : Index) (kind : RuleKind) : Index where
  kinds := index.kinds.insert kind.name kind
  order := if index.kinds.contains kind.name then index.order else index.order ++ [kind.name]

/-- Add a kind if it has no flaw. -/
def register (index : Index) (kind : RuleKind) : Index × Option RegistryError :=
  match kind.flaw? with
  | some flaw => (index, some ⟨kind.name, flaw⟩)
  | none => (index.put kind, none)

/-- Add kinds up to the first error. -/
def registerAll (index : Index) : List RuleKind → Index × Option RegistryError
  | [] => (index, none)
  | kind :: rest =>
    match index.register kind with
    | (index', none) => index'.registerAll rest
    | stopped => stopped

/-- Carry out a call. -/
def perform (index : Index) : Registration → Index × Option RegistryError
  | .one kind => index.register kind
  | .several kinds => index.registerAll kinds

/-- The index after some calls, each of which may fail. -/
def ofCalls (calls : List Registration) : Index :=
  calls.foldl (fun index call => (index.perform call).1) {}

/-- The kinds of the names in order, as far as these have one. -/
def toList (index : Index) : List RuleKind := index.order.filterMap fun name => index.kinds[name]?

/-- The reference of all kinds. -/
def documentation (index : Index) : String :=
  String.join (index.toList.map RuleKind.documentation)

/-- The parts of an index are those of a registry: its names in order, and for each name the
    kind that it has. -/
structure Represents (index : Index) (registry : Registry) : Prop where
  order_eq : index.order = registry.names
  kinds_eq : ∀ name : String, index.kinds[name]? = registry.get? name

namespace Represents

variable {index : Index} {registry : Registry}

theorem contains_iff (h : index.Represents registry) (name : String) :
    index.kinds.contains name = true ↔ name ∈ index.order := by
  rw [h.order_eq, names, Roster.mem_names_iff, ← Option.isSome_iff_exists]
  have hkind := h.kinds_eq name
  rw [get?] at hkind
  rw [← hkind, Std.ExtTreeMap.contains_eq_isSome_getElem?]

/-- One more kind keeps the parts together. -/
theorem put (h : index.Represents registry) (kind : RuleKind) :
    (index.put kind).Represents (registry.putAll [kind]) := by
  constructor
  · have hnames : (registry.putAll [kind]).names =
        if kind.name ∈ registry.names then registry.names else registry.names ++ [kind.name] :=
      registry.kinds.names_change kind.name _
    rw [hnames, ← h.order_eq]
    simp only [Index.put, h.contains_iff]
  · intro name
    have hget : (registry.putAll [kind]).get? name =
        if kind.name = name then some kind else registry.get? name :=
      registry.kinds.get?_change kind.name name _
    rw [hget, ← h.kinds_eq]
    exact NameMap.getElem?_insert_name _ _ _ _

theorem registerAll (h : index.Represents registry) (kinds : List RuleKind) :
    (index.registerAll kinds).1.Represents (registry.registerAll kinds).1 ∧
      (index.registerAll kinds).2 = (registry.registerAll kinds).2 := by
  induction kinds generalizing index registry with
  | nil => exact ⟨h, rfl⟩
  | cons kind kinds ih =>
    cases hflaw : kind.flaw? with
    | some flaw =>
      simp only [Index.registerAll, Index.register, Registry.registerAll, Registry.register, hflaw]
      exact ⟨h, trivial⟩
    | none =>
      simp only [Index.registerAll, Index.register, Registry.registerAll, Registry.register, hflaw]
      exact ih (h.put kind)

/-- A call does the same to both, and fails alike. -/
theorem perform (h : index.Represents registry) (call : Registration) :
    (index.perform call).1.Represents (registry.perform call).1 ∧
      (index.perform call).2 = (registry.perform call).2 := by
  cases call with
  | several kinds => exact h.registerAll kinds
  | one kind =>
    cases hflaw : kind.flaw? with
    | some flaw =>
      simp only [Index.perform, Index.register, Registry.perform, Registry.register, hflaw]
      exact ⟨h, trivial⟩
    | none =>
      simp only [Index.perform, Index.register, Registry.perform, Registry.register, hflaw]
      exact ⟨h.put kind, trivial⟩

/-- No name of the order is passed over, so the kinds are those of the registry. -/
theorem toList_eq (h : index.Represents registry) : index.toList = registry.toList := by
  have hkinds : (fun name : String => index.kinds[name]?) = registry.get? := funext h.kinds_eq
  have hvalues : registry.toList.map some = registry.names.map registry.get? :=
    registry.kinds.map_some_values
  calc index.toList
      = (registry.names.map registry.get?).filterMap id := by
        rw [toList, h.order_eq, hkinds, List.filterMap_map, Function.id_comp]
    _ = registry.toList := by
        rw [← hvalues, List.filterMap_map, Function.id_comp, List.filterMap_some]

end Represents

theorem represents_empty : ({} : Index).Represents ∅ :=
  ⟨rfl, fun _ => Std.ExtTreeMap.getElem?_empty⟩

/-- The index of some calls is at all times that of the registry. -/
theorem represents_ofCalls (calls : List Registration) :
    (ofCalls calls).Represents (Registry.ofCalls calls) := by
  refine List.foldl_rel represents_empty fun call _ index registry h => ?_
  exact (h.perform call).1

end Index

/-! ## All that is accepted is kept -/

/-- What a registry holds after some calls, and what a further call does to it.  The index is
    the registry in its parts. -/
structure CallAccount (calls : List Registration) (registry : Registry) (index : Index) :
    Prop where
  /-- No name is in the order twice. -/
  nodup_order : index.order.Nodup
  /-- The order holds the names that are in the map. -/
  mem_order_iff (name : String) : name ∈ index.order ↔ index.kinds.contains name = true
  order_eq : index.order = registry.names
  kinds_eq (name : String) : index.kinds[name]? = registry.get? name
  /-- The names are in the order in which they were first accepted. -/
  names_eq : registry.names = ((calls.flatMap (·.accepted)).map (·.name)).eraseDups
  /-- Under a name stands the kind that was last accepted under it. -/
  get?_eq (name : String) : registry.get? name =
    ((calls.flatMap (·.accepted)).filter (·.name == name)).getLast?
  /-- Every kind stands under its own name and has no flaw. -/
  get?_flawless (name : String) (kind : RuleKind) : registry.get? name = some kind →
    kind.name = name ∧ kind.flaw? = none
  /-- The kinds are those of the names in order, each name once and none left out. -/
  map_some_toList : registry.toList.map some = registry.names.map registry.get?
  toList_index : index.toList = registry.toList
  size_eq : registry.size = index.order.length
  documentation_eq : registry.documentation = String.join (registry.toList.map (·.documentation))
  documentation_index : index.documentation = registry.documentation
  /-- A kind that is refused changes nothing. -/
  perform_refused (kind : RuleKind) (flaw : RuleKind.Flaw) : kind.flaw? = some flaw →
    registry.perform (.one kind) = (registry, some ⟨kind.name, flaw⟩) ∧
      index.perform (.one kind) = (index, some ⟨kind.name, flaw⟩)
  /-- A call registers, one by one, the kinds that stand in front of the first that has a flaw,
      and this one gives its error. -/
  perform_eq (call : Registration) : registry.perform call =
    (ofCalls (calls ++ call.accepted.map .one), call.error?)
  /-- A further call is carried out on the index as on the registry. -/
  perform_index (call : Registration) :
    (index.perform call).1.Represents (registry.perform call).1 ∧
      (index.perform call).2 = (registry.perform call).2

theorem flatMap_accepted_one {kinds : List RuleKind} (h : ∀ kind ∈ kinds, kind.flaw? = none) :
    (kinds.map Registration.one).flatMap (·.accepted) = kinds := by
  induction kinds with
  | nil => rfl
  | cons kind kinds ih =>
    have hfirst : (Registration.one kind).accepted = [kind] := by
      simp [Registration.accepted, Registration.offered, h kind (by simp)]
    rw [List.map_cons, List.flatMap_cons, hfirst,
      ih fun other hother => h other (List.mem_cons_of_mem _ hother), List.singleton_append]

/-- After any calls on an empty registry, failed ones among them, it holds each name once, in the
    order of the first kind that was accepted under it, with the last one.  What was refused
    has left nothing. -/
theorem ofCalls_accounts (calls : List Registration) :
    CallAccount calls (ofCalls calls) (Index.ofCalls calls) where
  nodup_order := by
    rw [(Index.represents_ofCalls calls).order_eq]
    exact (ofCalls calls).kinds.nodup
  mem_order_iff name := ((Index.represents_ofCalls calls).contains_iff name).symm
  order_eq := (Index.represents_ofCalls calls).order_eq
  kinds_eq := (Index.represents_ofCalls calls).kinds_eq
  names_eq := names_ofCalls calls
  get?_eq := get?_ofCalls calls
  get?_flawless name kind := (reached_ofCalls calls).get?_flawless
  map_some_toList := (ofCalls calls).kinds.map_some_values
  toList_index := (Index.represents_ofCalls calls).toList_eq
  size_eq := by
    rw [(Index.represents_ofCalls calls).order_eq, names, Roster.names, List.length_map]
    rfl
  documentation_eq := rfl
  documentation_index := by
    rw [Index.documentation, (Index.represents_ofCalls calls).toList_eq]
    rfl
  perform_refused kind flaw hflaw := by
    simp [perform, register, Index.perform, Index.register, hflaw]
  perform_eq call := by
    have hvalid : ∀ kind ∈ call.accepted, kind.flaw? = none := by
      intro kind hkind
      simpa using List.all_eq_true.mp List.all_takeWhile kind hkind
    rw [Registry.perform_eq, ofCalls_eq, ofCalls_eq, List.flatMap_append,
      flatMap_accepted_one hvalid, putAll_append]
  perform_index := (Index.represents_ofCalls calls).perform

end Registry

end Rulebook
