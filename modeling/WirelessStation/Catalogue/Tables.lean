import WirelessStation.Catalogue.Ingest

/-! # The tables of a catalogue

A catalogue is kept in three tables: the networks by their paths, the paths in the order in which
their networks were made, and the paths by descending rank.  A scan is taken in by changing the
first two one observation at a time; when networks without access points have left, the third is
made anew.

The networks in the order of the second table, with the observations, are a `Catalogue`
(`Tables.view`). -/

namespace WirelessStation.Catalogue

/-! ### Values by path -/

/-- Values by path, with no path twice. -/
structure PathMap (α : Type) where
  entries : List (String × α)
  distinct : (entries.map (·.1)).Nodup
deriving DecidableEq, Repr

namespace PathMap

variable {α : Type}

instance : EmptyCollection (PathMap α) :=
  ⟨⟨[], .nil⟩⟩

def paths (m : PathMap α) : List String :=
  m.entries.map (·.1)

def values (m : PathMap α) : List α :=
  m.entries.map (·.2)

def get? (m : PathMap α) (path : String) : Option α :=
  m.entries.lookup path

def contains (m : PathMap α) (path : String) : Bool :=
  (m.get? path).isSome

/-- Changes every value. -/
def map (change : α → α) (m : PathMap α) : PathMap α where
  entries := m.entries.map fun e => (e.1, change e.2)
  distinct := by simpa [Function.comp_def] using m.distinct

/-- Changes the value at a path, if there is one. -/
def modify (path : String) (change : α → α) (m : PathMap α) : PathMap α where
  entries := m.entries.map fun e => (e.1, if e.1 = path then change e.2 else e.2)
  distinct := by simpa [Function.comp_def] using m.distinct

/-- Takes the value at a path away. -/
def erase (path : String) (m : PathMap α) : PathMap α where
  entries := m.entries.filter fun e => e.1 ≠ path
  distinct := m.distinct.sublist (List.filter_sublist.map _)

/-- Puts a value at a path, in the place of the one that was there. -/
def insert (path : String) (value : α) (m : PathMap α) : PathMap α where
  entries := (path, value) :: (m.erase path).entries
  distinct := by
    refine List.nodup_cons.2 ⟨fun there => ?_, (m.erase path).distinct⟩
    obtain ⟨e, kept, here⟩ := List.mem_map.1 there
    have other := (List.mem_filter.1 kept).2
    exact of_decide_eq_true other here

/-! What is found afterwards. -/

theorem lookup_map_value (change : String → α → α) (l : List (String × α)) (path : String) :
    (l.map fun e => (e.1, change e.1 e.2)).lookup path = (l.lookup path).map (change path) := by
  induction l with
  | nil => rfl
  | cons e rest ih =>
    obtain ⟨key, value⟩ := e
    simp only [List.map_cons, List.lookup_cons, ih]
    split
    next here => rw [eq_of_beq here]; rfl
    next => rfl

theorem lookup_filter_ne (l : List (String × α)) (path path' : String) :
    (l.filter fun e => e.1 ≠ path).lookup path' =
      if path' = path then none else l.lookup path' := by
  induction l with
  | nil => simp
  | cons e rest ih =>
    obtain ⟨key, value⟩ := e
    by_cases kept : key = path
    · subst kept
      rw [List.filter_cons_of_neg (by simp), ih]
      split
      next => rfl
      next other => rw [List.lookup_cons, beq_false_of_ne other]
    · rw [List.filter_cons_of_pos (by simpa using kept), List.lookup_cons, List.lookup_cons, ih]
      split
      next here => rw [if_neg fun same => kept ((eq_of_beq here).symm.trans same)]
      next => rfl

@[simp] theorem get?_empty (path : String) : get? (∅ : PathMap α) path = none := rfl

@[simp] theorem get?_map (change : α → α) (m : PathMap α) (path : String) :
    (m.map change).get? path = (m.get? path).map change :=
  lookup_map_value (fun _ => change) m.entries path

@[simp] theorem get?_modify (path : String) (change : α → α) (m : PathMap α) (path' : String) :
    (m.modify path change).get? path' =
      (m.get? path').map fun a => if path' = path then change a else a :=
  lookup_map_value (fun key a => if key = path then change a else a) m.entries path'

@[simp] theorem get?_erase (path : String) (m : PathMap α) (path' : String) :
    (m.erase path).get? path' = if path' = path then none else m.get? path' :=
  lookup_filter_ne m.entries path path'

@[simp] theorem get?_insert (path : String) (value : α) (m : PathMap α) (path' : String) :
    (m.insert path value).get? path' = if path' = path then some value else m.get? path' := by
  have found : (m.insert path value).get? path' =
      if path' == path then some value else (m.erase path).get? path' := by
    rw [get?, insert, List.lookup_cons]
    cases path' == path <;> rfl
  rw [found, get?_erase]
  by_cases here : path' = path <;> simp [here]

theorem mem_paths_iff {m : PathMap α} {path : String} :
    path ∈ m.paths ↔ (m.get? path).isSome = true := by
  rw [paths, get?]
  induction m.entries with
  | nil => simp
  | cons e rest ih =>
    obtain ⟨key, value⟩ := e
    rw [List.map_cons, List.mem_cons, ih, List.lookup_cons]
    cases here : path == key with
    | true => simpa using .inl (eq_of_beq here)
    | false => simpa using fun same : path = key => absurd same (ne_of_beq_false here)

end PathMap

/-! ### Tables -/

structure Tables where
  /-- The name of the interface. -/
  device : String
  observations : List Observation := []
  /-- The networks by their paths. -/
  table : PathMap Network := ∅
  /-- The paths in the order in which their networks were made. -/
  created : List String := []
  /-- The paths by descending rank. -/
  ranking : List String := []
deriving DecidableEq, Repr

namespace Tables

/-- The current observation of an access point. -/
def observation? (t : Tables) (a : Address) : Option Observation :=
  t.observations.find? fun o => o.address == a

def network? (t : Tables) (path : String) : Option Network :=
  t.table.get? path

def hasNetwork (t : Tables) (path : String) : Bool :=
  t.table.contains path

/-- All networks, in no order. -/
def networks (t : Tables) : List Network :=
  t.table.values

/-- The networks by descending rank. -/
def ranked (t : Tables) : List Network :=
  t.ranking.filterMap t.network?

/-- The network with an SSID and a security type. -/
def find? (t : Tables) (ssid : String) (security : Security) : Option Network :=
  t.network? (networkPath t.device ssid security)

/-- Changes the network with a path. -/
def modify (t : Tables) (path : String) (change : Network → Network) : Tables :=
  { t with table := t.table.modify path change }

/-- The catalogue that the tables hold. -/
def view (t : Tables) : Catalogue where
  device := t.device
  observations := t.observations
  networks := t.created.filterMap t.network?

/-! ### Taking in a scan -/

/-- A scan that is being taken in. -/
structure Intake where
  tables : Tables
  changes : List Change := []
  report : Report := {}
deriving DecidableEq, Repr

/-- Makes sure that a network is there. -/
def ensure (path ssid : String) (security : Security) (now : Moment) (t : Tables) :
    Tables × List Change :=
  if t.hasNetwork path then (t, [])
  else
    ({ t with table := t.table.insert path (.new path ssid security now)
              created := t.created ++ [path] }, [.added path])

/-- Counts an observation as rejected. -/
def Intake.reject (i : Intake) : Intake :=
  { i with report := { i.report with rejected := i.report.rejected + 1 } }

/-- Places one observation, or counts it as rejected. -/
def place (now : Moment) (i : Intake) (o : Observation) : Intake :=
  match placement? o with
  | none => i.reject
  | some (ssid, security, marked) =>
    let path := networkPath i.tables.device ssid security
    let (t, changes) := i.tables.ensure path ssid security now
    let i := { i with tables := t, changes := i.changes ++ changes }
    if t.hasNetwork path then
      let t := t.modify path (attachSeen now marked)
      { i with
        tables := { t with observations := t.observations ++ [marked] }
        report := { i.report with accepted := i.report.accepted + 1 } }
    else i.reject

/-- Puts the access point in use back onto its network.  Says whether its observation had to be
taken from before the scan. -/
def keepPinned (pin : Pin) (previous : List Observation) (t : Tables) : Tables × Bool :=
  match t.network? pin.network with
  | none => (t, false)
  | some network =>
    match t.observation? pin.address with
    | some o =>
      if network.hasAccessPoint pin.address then (t, false)
      else (t.modify pin.network (Network.attach o), false)
    | none =>
      match previous.find? fun o => o.address == pin.address with
      | none => (t, false)
      | some o =>
        let t := t.modify pin.network (Network.attach o)
        ({ t with observations := t.observations ++ [o] }, true)

/-- The table of networks while the paths are gone through, and what is to be taken out of it. -/
structure Sweep where
  table : PathMap Network
  changes : List Change := []
  removed : List String := []

/-- A network without access points is announced as gone and to be taken out; any other one gets its
rank. -/
def Sweep.visit (source : CredentialSource) (s : Sweep) (path : String) : Sweep :=
  match s.table.get? path with
  | none => s
  | some n =>
    if n.accessPoints.isEmpty then
      { s with changes := s.changes ++ [.removed path .outOfRange], removed := s.removed ++ [path] }
    else { s with table := s.table.modify path fun n => n.updateRank (n.modifierFrom source) }

/-- Ranks the paths anew; equal ranks stay in the order in which their networks were made. -/
def rebuildRanking (t : Tables) : Tables :=
  let ranks := t.created.filterMap fun path => (t.network? path).map fun n => (n.rank, path)
  { t with ranking := (ranks.mergeSort fun a b => b.1 ≤ a.1).map (·.2) }

/-- Networks without access points leave, the others get their ranks, and the paths are ranked. -/
def settle (source : CredentialSource) (t : Tables) : Tables × List Change :=
  let swept := t.created.foldl (Sweep.visit source) { table := t.table }
  let table := swept.removed.foldl (fun table path => table.erase path) swept.table
  let kept := { t with table, created := t.created.filter table.contains }
  (kept.rebuildRanking, swept.changes)

/-- The tables when a scan begins: every network is without access points. -/
def emptied (t : Tables) : Tables :=
  { t with observations := [], table := t.table.map Network.clearAccessPoints }

/-- Replaces the observations by those of a new scan. -/
def ingest (observations : List Observation) (pin : Option Pin) (source : CredentialSource)
    (now : Moment) (t : Tables) : Intake :=
  let placed := (dedup observations).foldl (place now) { tables := t.emptied }
  let (held, pinned) := match pin with
    | none => (placed.tables, false)
    | some p => keepPinned p t.observations placed.tables
  let (settled, removed) := held.settle source
  { tables := settled
    changes := placed.changes ++ removed
    report := { placed.report with pinned } }

/-- Drops every network and observation. -/
def clear (t : Tables) (reason : RemovalReason) : Tables × List Change :=
  ({ t with observations := [], table := ∅, created := [], ranking := [] },
    t.created.map fun path => .removed path reason)

end Tables

end WirelessStation.Catalogue
