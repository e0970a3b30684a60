import WirelessStation.Catalogue.Tables
import WirelessStation.Proofs.Orderly

/-! # The tables hold a catalogue

Tables are *aligned* if the paths in the order of creation are those of the stored networks, without
repetition, and each network is stored under its own path (`Aligned`).  Each part of taking in a
scan keeps them aligned, and what it does to them is what it does to the catalogue that they hold
(`view_place`, `view_keepPinned`, `view_settle`).  In the end the paths by rank are those of that
catalogue as it is ranked (`ranking_rebuildRanking`).

So the tables hold a catalogue (`Holds`) after any scans and after clearing them, with the same
changes and the same reports (`Holds.ingest`, `Holds.clear`), and what is known of catalogues is
known of them.  After any scans everything in them is in its place (`orderly_after`). -/

namespace WirelessStation.Catalogue.Tables

/-! ### Aligned tables -/

/-- The paths of the second table are those of the first one, each of them once, and a network is
stored under its own path. -/
structure Aligned (t : Tables) : Prop where
  created_nodup : t.created.Nodup
  mem_created_iff : ∀ path, path ∈ t.created ↔ (t.network? path).isSome = true
  path_eq : ∀ path n, t.network? path = some n → n.path = path

namespace Aligned

variable {t : Tables} (h : t.Aligned)

theorem new (device : String) : Aligned { device } :=
  ⟨.nil, by simp [network?], by simp [network?]⟩

include h

theorem mem_view_iff {n : Network} : n ∈ t.view.networks ↔ t.network? n.path = some n := by
  rw [view, List.mem_filterMap]
  constructor
  · rintro ⟨path, _, found⟩
    rwa [h.path_eq path n found]
  · intro found
    exact ⟨n.path, (h.mem_created_iff n.path).2 (Option.isSome_of_eq_some found), found⟩

/-- The networks of the view are in the order of their creation. -/
theorem paths_view : t.view.networks.map (·.path) = t.created := by
  have named (path : String) (there : path ∈ t.created) :
      (t.network? path).map (·.path) = some path := by
    obtain ⟨n, found⟩ := Option.isSome_iff_exists.1 ((h.mem_created_iff path).1 there)
    rw [found, Option.map_some, h.path_eq path n found]
  rw [view, List.map_filterMap, List.filterMap_congr named, List.filterMap_some]

theorem network?_view (path : String) : t.view.network? path = t.network? path := by
  refine Option.ext fun n => ?_
  constructor
  · intro found
    have there := h.mem_view_iff.1 (List.mem_of_find?_eq_some found)
    rwa [path_of_network? found] at there
  · intro found
    have named := h.path_eq path n found
    have there : n ∈ t.view.networks := h.mem_view_iff.2 (named ▸ found)
    have distinct : (t.view.networks.map (·.path)).Nodup := h.paths_view ▸ h.created_nodup
    exact named ▸ find?_key_of_mem distinct there

theorem hasNetwork_view (path : String) : t.view.hasNetwork path = t.hasNetwork path := by
  have found : t.hasNetwork path = (t.view.network? path).isSome := by
    rw [h.network?_view]
    rfl
  rw [found, Bool.eq_iff_iff, Catalogue.network?, List.find?_isSome, Catalogue.hasNetwork,
    List.any_eq_true]

/-- A network may change under its path. -/
theorem modify {path : String} {change : Network → Network}
    (keeps : ∀ n, n.path = path → (change n).path = path) : (t.modify path change).Aligned where
  created_nodup := h.created_nodup
  mem_created_iff path' := by
    rw [network?, Tables.modify, PathMap.get?_modify, Option.isSome_map]
    exact h.mem_created_iff path'
  path_eq path' n' found := by
    rw [network?, Tables.modify, PathMap.get?_modify] at found
    obtain ⟨n, before, rfl⟩ := Option.map_eq_some_iff.1 found
    have named := h.path_eq path' n before
    split
    next here =>
      rw [here] at named ⊢
      exact keeps n named
    next => exact named

theorem view_modify (path : String) (change : Network → Network) :
    (t.modify path change).view = t.view.modify path change := by
  have networks : t.created.filterMap (t.modify path change).network? =
      (t.created.filterMap t.network?).map fun n => if n.path = path then change n else n := by
    rw [List.map_filterMap]
    refine List.filterMap_congr fun path' _ => ?_
    rw [network?, Tables.modify, PathMap.get?_modify]
    refine Option.map_congr fun n found => ?_
    rw [h.path_eq path' n found]
  exact congrArg (Catalogue.mk t.device t.observations) networks

end Aligned

/-! ### Taking in a scan -/

section ensure

variable {t : Tables} (path ssid : String) (security : Security) (now : Moment)

theorem hasNetwork_ensure : (t.ensure path ssid security now).1.hasNetwork path = true := by
  unfold ensure
  split
  next there => exact there
  next => simp [hasNetwork, PathMap.contains]

theorem Aligned.ensure (h : t.Aligned) : (t.ensure path ssid security now).1.Aligned := by
  unfold Tables.ensure
  split
  next => exact h
  next free =>
    have new : path ∉ t.created := fun there => free ((h.mem_created_iff path).1 there)
    refine ⟨?_, fun path' => ?_, fun path' n found => ?_⟩
    · refine h.created_nodup.append (List.nodup_singleton path) ?_
      simpa using new
    · rw [List.mem_append, List.mem_singleton, h.mem_created_iff]
      by_cases here : path' = path <;> simp [network?, here]
    · simp only [network?, PathMap.get?_insert] at found
      split at found
      next here =>
        cases found
        exact here.symm
      next => exact h.path_eq path' n found

theorem Aligned.view_ensure (h : t.Aligned) :
    (t.ensure path ssid security now).1.view = (t.view.ensure path ssid security now).1 ∧
      (t.ensure path ssid security now).2 = (t.view.ensure path ssid security now).2 := by
  unfold Tables.ensure Catalogue.ensure
  rw [h.hasNetwork_view]
  split
  next => exact ⟨rfl, rfl⟩
  next free =>
    refine ⟨?_, rfl⟩
    have new : path ∉ t.created := fun there => free ((h.mem_created_iff path).1 there)
    let table := t.table.insert path (.new path ssid security now)
    have old : t.created.filterMap table.get? = t.created.filterMap t.network? := by
      refine List.filterMap_congr fun path' there => ?_
      have other : path' ≠ path := ne_of_mem_of_not_mem there new
      rw [PathMap.get?_insert, if_neg other]
      rfl
    have last : table.get? path = some (.new path ssid security now) := by
      rw [PathMap.get?_insert, if_pos rfl]
    have networks : (t.created ++ [path]).filterMap table.get? =
        t.created.filterMap t.network? ++ [.new path ssid security now] := by
      rw [List.filterMap_append, old, List.filterMap_cons_some last, List.filterMap_nil]
    exact congrArg (Catalogue.mk t.device t.observations) networks

end ensure

/-- What has been taken in, as it is seen. -/
def Intake.view (i : Intake) : Catalogue.Intake :=
  ⟨i.tables.view, i.changes, i.report⟩

theorem path_attachSeen (now : Moment) (o : Observation) {path : String} (n : Network)
    (named : n.path = path) : (attachSeen now o n).path = path :=
  (attached_attachSeen now o n).path.trans named

theorem view_place (now : Moment) (i : Intake) (o : Observation) (h : i.tables.Aligned) :
    (place now i o).tables.Aligned ∧ (place now i o).view = Catalogue.place now i.view o := by
  unfold place Catalogue.place
  cases placement? o with
  | none => exact ⟨h, rfl⟩
  | some spot =>
    obtain ⟨ssid, security, marked⟩ := spot
    let path := networkPath i.tables.device ssid security
    obtain ⟨view, changes⟩ := h.view_ensure path ssid security now
    have ensured := h.ensure path ssid security now
    have there := hasNetwork_ensure (t := i.tables) path ssid security now
    have kept := ensured.modify fun n (named : n.path = path) => path_attachSeen now marked n named
    have modified := ensured.view_modify path (attachSeen now marked)
    rw [view] at modified
    simp only
    rw [if_pos there]
    refine ⟨⟨kept.created_nodup, kept.mem_created_iff, kept.path_eq⟩, ?_⟩
    rw [changes]
    exact congrArg (fun c : Catalogue =>
      (⟨{ c with observations := c.observations ++ [marked] },
        i.changes ++ (i.tables.view.ensure path ssid security now).2,
        { i.report with accepted := i.report.accepted + 1 }⟩ : Catalogue.Intake)) modified

theorem view_foldl_place (now : Moment) (l : List Observation) (i : Intake) (h : i.tables.Aligned) :
    (l.foldl (place now) i).tables.Aligned ∧
      (l.foldl (place now) i).view = l.foldl (Catalogue.place now) i.view := by
  induction l generalizing i with
  | nil => exact ⟨h, rfl⟩
  | cons o rest ih =>
    obtain ⟨placed, view⟩ := view_place now i o h
    obtain ⟨aligned, same⟩ := ih (place now i o) placed
    refine ⟨aligned, ?_⟩
    rw [List.foldl_cons, List.foldl_cons, ← view]
    exact same

theorem view_keepPinned {t : Tables} (h : t.Aligned) (pin : Pin) (previous : List Observation) :
    (keepPinned pin previous t).1.Aligned ∧
      (keepPinned pin previous t).1.view = (Catalogue.keepPinned pin previous t.view).1 ∧
      (keepPinned pin previous t).2 = (Catalogue.keepPinned pin previous t.view).2 := by
  have attached (o : Observation) : (t.modify pin.network (Network.attach o)).Aligned :=
    h.modify fun n named => (Network.attached_attach o n).path.trans named
  have observed : t.view.observation? pin.address = t.observation? pin.address := rfl
  unfold keepPinned Catalogue.keepPinned
  rw [h.network?_view, observed]
  cases t.network? pin.network with
  | none => exact ⟨h, rfl, rfl⟩
  | some network =>
    cases t.observation? pin.address with
    | some o =>
      simp only
      split
      next => exact ⟨h, rfl, rfl⟩
      next => exact ⟨attached o, h.view_modify pin.network (Network.attach o), rfl⟩
    | none =>
      cases previous.find? fun o => o.address == pin.address with
      | none => exact ⟨h, rfl, rfl⟩
      | some o =>
        have kept := attached o
        refine ⟨⟨kept.created_nodup, kept.mem_created_iff, kept.path_eq⟩, ?_, rfl⟩
        exact congrArg (fun c : Catalogue => { c with observations := c.observations ++ [o] })
          (h.view_modify pin.network (Network.attach o))

/-! ### Settling -/

/-- A network once its path has been visited. -/
def visited (source : CredentialSource) (n : Network) : Network :=
  if n.accessPoints.isEmpty then n else n.updateRank (n.modifierFrom source)

/-- A network once all paths have been visited, if it stays. -/
def kept? (source : CredentialSource) (n : Network) : Option Network :=
  if n.accessPoints.isEmpty then none else some (n.updateRank (n.modifierFrom source))

/-- Whether there is a network without access points at a path. -/
def isGone (table : PathMap Network) (path : String) : Bool :=
  (table.get? path).any fun n => n.accessPoints.isEmpty

section settle

variable (source : CredentialSource)

theorem get?_visit (s : Sweep) (path path' : String) :
    (s.visit source path).table.get? path' =
      (s.table.get? path').map fun n => if path' = path then visited source n else n := by
  have same (still : ∀ n, s.table.get? path = some n → visited source n = n) :
      s.table.get? path' =
        (s.table.get? path').map fun n => if path' = path then visited source n else n := by
    cases found : s.table.get? path' with
    | none => rfl
    | some n =>
      rw [Option.map_some]
      split
      next here => rw [still n (here ▸ found)]
      next => rfl
  unfold Sweep.visit
  cases found : s.table.get? path with
  | none => exact same fun n there => absurd (found.symm.trans there) (by simp)
  | some n =>
    simp only
    split
    next empty =>
      refine same fun m there => ?_
      obtain rfl : n = m := Option.some.inj (found.symm.trans there)
      rw [visited, if_pos empty]
    next heard =>
      rw [PathMap.get?_modify]
      refine Option.map_congr fun m there => ?_
      split
      next here =>
        obtain rfl : n = m := Option.some.inj (found.symm.trans (here ▸ there))
        rw [visited, if_neg heard]
      next => rfl

theorem gone_visit (s : Sweep) (path : String) :
    (s.visit source path).removed = s.removed ++ [path].filter (isGone s.table) ∧
      (s.visit source path).changes =
        s.changes ++ ([path].filter (isGone s.table)).map (.removed · .outOfRange) := by
  unfold Sweep.visit
  cases found : s.table.get? path with
  | none => simp [isGone, found]
  | some n =>
    simp only
    split
    next empty => simp [isGone, found, empty]
    next heard => simp [isGone, found, heard]

/-- Going through paths changes what is at them, and finds those without access points. -/
theorem foldl_visit (l : List String) (distinct : l.Nodup) (s : Sweep) :
    (∀ path, (l.foldl (Sweep.visit source) s).table.get? path =
        (s.table.get? path).map fun n => if path ∈ l then visited source n else n) ∧
      (l.foldl (Sweep.visit source) s).removed = s.removed ++ l.filter (isGone s.table) ∧
      (l.foldl (Sweep.visit source) s).changes =
        s.changes ++ (l.filter (isGone s.table)).map (.removed · .outOfRange) := by
  induction l generalizing s with
  | nil => simp
  | cons path rest ih =>
    obtain ⟨fresh, distinct⟩ := List.nodup_cons.1 distinct
    obtain ⟨table, removed, changes⟩ := ih distinct (s.visit source path)
    obtain ⟨first, told⟩ := gone_visit source s path
    -- The rest is as it was before the first path was visited.
    have later : rest.filter (isGone (s.visit source path).table) =
        rest.filter (isGone s.table) := by
      refine List.filter_congr fun path' there => ?_
      have other : path' ≠ path := ne_of_mem_of_not_mem there fresh
      simp [isGone, get?_visit, other]
    have split : (path :: rest).filter (isGone s.table) =
        [path].filter (isGone s.table) ++ rest.filter (isGone s.table) :=
      List.filter_append (p := isGone s.table) [path] rest
    rw [List.foldl_cons, removed, changes, first, told, later, split]
    refine ⟨fun path' => ?_, List.append_assoc .., ?_⟩
    · rw [table, get?_visit, Option.map_map]
      refine Option.map_congr fun n _ => ?_
      by_cases here : path' = path
      · subst here
        simp [fresh]
      · simp [here]
    · rw [List.map_append, List.append_assoc]

theorem get?_foldl_erase (l : List String) (table : PathMap Network) (path : String) :
    (l.foldl (fun table path => table.erase path) table).get? path =
      if path ∈ l then none else table.get? path := by
  induction l generalizing table with
  | nil => simp
  | cons first rest ih =>
    rw [List.foldl_cons, ih, PathMap.get?_erase]
    by_cases here : path = first <;> simp [here]

variable {t : Tables}

theorem created_settle :
    (t.settle source).1.created =
      t.created.filter fun path => ((t.settle source).1.network? path).isSome := rfl

variable (h : t.Aligned)

include h

/-- Settling keeps the networks with access points, and gives them their ranks. -/
theorem network?_settle (path : String) :
    (t.settle source).1.network? path = (t.network? path).bind (kept? source) := by
  obtain ⟨table, removed, _⟩ := foldl_visit source t.created h.created_nodup { table := t.table }
  have swept : (t.settle source).1.network? path =
      if path ∈ t.created.filter (isGone t.table) then none
      else (t.network? path).map fun n => if path ∈ t.created then visited source n else n := by
    refine (get?_foldl_erase _ _ path).trans ?_
    rw [removed, table, List.nil_append]
    rfl
  rw [swept]
  cases found : t.network? path with
  | none => split <;> rfl
  | some n =>
    have there : path ∈ t.created := (h.mem_created_iff path).2 (Option.isSome_of_eq_some found)
    have gone : isGone t.table path = n.accessPoints.isEmpty := by
      rw [network?] at found
      simp [isGone, found]
    simp only [List.mem_filter, gone, there, true_and, Option.map_some, Option.bind_some, if_true,
      visited, kept?]
    cases n.accessPoints.isEmpty <;> rfl

theorem aligned_settle : (t.settle source).1.Aligned where
  created_nodup := h.created_nodup.filter _
  mem_created_iff path := by
    rw [created_settle source, List.mem_filter]
    refine and_iff_right_of_imp fun still => ?_
    rw [network?_settle source h] at still
    obtain ⟨n, found⟩ := Option.isSome_iff_exists.1 still
    obtain ⟨before, found, _⟩ := Option.bind_eq_some_iff.1 found
    exact (h.mem_created_iff path).2 (Option.isSome_of_eq_some found)
  path_eq path n' found := by
    rw [network?_settle source h] at found
    obtain ⟨n, before, kept⟩ := Option.bind_eq_some_iff.1 found
    unfold kept? at kept
    split at kept
    next => cases kept
    next =>
      cases kept
      exact h.path_eq path n before

theorem view_settle :
    (t.settle source).1.view = (t.view.settle source).1 ∧
      (t.settle source).2 = (t.view.settle source).2 := by
  constructor
  · have networks : (t.settle source).1.view.networks =
        (t.view.networks.filter fun n => !n.accessPoints.isEmpty).map
          fun n => n.updateRank (n.modifierFrom source) := by
      have present : (t.settle source).1.view.networks =
          t.created.filterMap (t.settle source).1.network? := by
        rw [view, created_settle source, List.filterMap_filter]
        refine List.filterMap_congr fun path _ => ?_
        cases (t.settle source).1.network? path <;> rfl
      rw [present, ← List.filterMap_eq_map, ← List.filterMap_eq_filter, List.filterMap_filterMap,
        view, List.filterMap_filterMap]
      refine List.filterMap_congr fun path _ => ?_
      rw [network?_settle source h]
      refine Option.bind_congr fun n _ => ?_
      unfold kept?
      cases empty : n.accessPoints.isEmpty <;> simp [Option.guard, empty]
    exact congrArg (Catalogue.mk t.device t.observations) networks
  · obtain ⟨_, _, changes⟩ := foldl_visit source t.created h.created_nodup { table := t.table }
    have told : (t.settle source).2 =
        (t.created.filter (isGone t.table)).map (.removed · .outOfRange) := changes
    rw [told, ← h.paths_view, List.filter_map, List.map_map]
    have gone (n : Network) (there : n ∈ t.view.networks) :
        (isGone t.table ∘ Network.path) n = n.accessPoints.isEmpty := by
      have found : t.table.get? n.path = some n := h.mem_view_iff.1 there
      simp [isGone, found]
    rw [List.filter_congr gone]
    rfl

end settle

/-- The paths are ranked as the networks are. -/
theorem ranking_rebuildRanking {t : Tables} (h : t.rebuildRanking.Aligned) :
    t.rebuildRanking.ranking = t.rebuildRanking.view.ranked.map (·.path) := by
  let key (n : Network) : UInt32 × String := (n.rank, n.path)
  have ranks : (t.created.filterMap fun path => (t.network? path).map fun n => (n.rank, path)) =
      t.rebuildRanking.view.networks.map key := by
    rw [view, List.map_filterMap]
    refine List.filterMap_congr fun path _ => ?_
    refine Option.map_congr fun n found => ?_
    rw [← h.path_eq path n found]
  have sorted : (t.rebuildRanking.view.networks.mergeSort fun a b => b.rank ≤ a.rank).map key =
      (t.rebuildRanking.view.networks.map key).mergeSort fun a b => b.1 ≤ a.1 :=
    List.map_mergeSort fun _ _ _ _ => rfl
  have ranking : t.rebuildRanking.ranking =
      ((t.rebuildRanking.view.networks.map key).mergeSort fun a b => b.1 ≤ a.1).map (·.2) := by
    rw [← ranks]
    rfl
  rw [ranking, ← sorted, List.map_map]
  rfl

/-! ### The catalogue that tables hold -/

/-- The tables are aligned, they show a catalogue, and their third one is its ranked view. -/
structure Holds (t : Tables) (c : Catalogue) : Prop extends Aligned t where
  view_eq : t.view = c
  ranking_eq : t.ranking = c.ranked.map (·.path)

theorem Aligned.holds_settle {t : Tables} (h : t.Aligned) (source : CredentialSource) :
    (t.settle source).1.Holds (t.view.settle source).1 := by
  have aligned := aligned_settle source h
  obtain ⟨view, _⟩ := view_settle source h
  refine ⟨aligned, view, ?_⟩
  rw [← view]
  exact ranking_rebuildRanking aligned

/-- Nothing of a scan is left once every access point is taken away. -/
theorem Aligned.emptied {t : Tables} (h : t.Aligned) :
    t.emptied.Aligned ∧ t.emptied.view =
      { t.view with
        observations := [], networks := t.view.networks.map Network.clearAccessPoints } := by
  have found (path : String) :
      t.emptied.network? path = (t.network? path).map Network.clearAccessPoints :=
    PathMap.get?_map ..
  constructor
  · refine ⟨h.created_nodup, fun path => ?_, fun path n' there => ?_⟩
    · rw [found, Option.isSome_map]
      exact h.mem_created_iff path
    · rw [found] at there
      obtain ⟨n, before, rfl⟩ := Option.map_eq_some_iff.1 there
      exact h.path_eq path n before
  · have networks : t.created.filterMap t.emptied.network? =
        (t.created.filterMap t.network?).map Network.clearAccessPoints := by
      rw [List.map_filterMap]
      exact List.filterMap_congr fun path _ => found path
    exact congrArg (Catalogue.mk t.device []) networks

namespace Holds

variable {t : Tables} {c : Catalogue}

theorem new (device : String) : Holds { device } { device } :=
  ⟨.new device, rfl, by simp [Catalogue.ranked]⟩

/-- Taking in a scan makes the same of the tables and of the catalogue that they hold. -/
theorem ingest (h : t.Holds c) (observations : List Observation) (pin : Option Pin)
    (source : CredentialSource) (now : Moment) :
    (t.ingest observations pin source now).tables.Holds
        (c.ingest observations pin source now).catalogue ∧
      (t.ingest observations pin source now).changes =
        (c.ingest observations pin source now).changes ∧
      (t.ingest observations pin source now).report =
        (c.ingest observations pin source now).report := by
  obtain rfl := h.view_eq
  obtain ⟨aligned, emptied⟩ := h.toAligned.emptied
  obtain ⟨placed, same⟩ :=
    view_foldl_place now (dedup observations) { tables := t.emptied } aligned
  have start : Intake.view { tables := t.emptied } = { catalogue := t.emptied.view } := rfl
  rw [start, emptied] at same
  unfold Tables.ingest Catalogue.ingest
  simp only
  rw [← same]
  generalize (dedup observations).foldl (place now) _ = i at placed
  cases pin with
  | none =>
    obtain ⟨_, removed⟩ := view_settle source placed
    exact ⟨placed.holds_settle source, congrArg (i.changes ++ ·) removed, rfl⟩
  | some p =>
    obtain ⟨kept, view, carried⟩ := view_keepPinned placed p t.observations
    obtain ⟨_, removed⟩ := view_settle source kept
    have held := kept.holds_settle source
    rw [view] at removed held
    refine ⟨held, congrArg (i.changes ++ ·) removed, ?_⟩
    exact congrArg (fun pinned => { i.report with pinned }) carried

/-- So does clearing. -/
theorem clear (h : t.Holds c) (reason : RemovalReason) :
    (t.clear reason).1.Holds (c.clear reason).1 ∧
      (t.clear reason).2 = (c.clear reason).2 := by
  obtain rfl := h.view_eq
  refine ⟨⟨⟨.nil, ?_, ?_⟩, rfl, ?_⟩, ?_⟩
  · simp [Tables.clear, network?]
  · simp [Tables.clear, network?]
  · simp [Tables.clear, Catalogue.clear, Catalogue.ranked]
  · have paths := h.paths_view
    simp only [Tables.clear, Catalogue.clear, ← paths, List.map_map]
    rfl

/-- So does changing a network that keeps its path and its rank. -/
theorem modify (h : t.Holds c) {path : String} {change : Network → Network}
    (keeps : ∀ n, n.path = path → (change n).path = path)
    (level : ∀ n, (change n).rank = n.rank) :
    (t.modify path change).Holds (c.modify path change) := by
  obtain rfl := h.view_eq
  refine ⟨h.toAligned.modify keeps, h.view_modify path change, ?_⟩
  let changed (n : Network) : Network := if n.path = path then change n else n
  have ranks (n : Network) : (changed n).rank = n.rank := by
    unfold changed
    split
    next => exact level n
    next => rfl
  have paths (n : Network) : (changed n).path = n.path := by
    unfold changed
    split
    next here => exact (keeps n here).trans here.symm
    next => rfl
  have sorted : (t.view.networks.mergeSort fun a b => b.rank ≤ a.rank).map changed =
      (t.view.networks.map changed).mergeSort fun a b => b.rank ≤ a.rank :=
    List.map_mergeSort fun a _ b _ => by rw [ranks, ranks]
  have ranked : (t.view.modify path change).ranked = t.view.ranked.map changed := sorted.symm
  rw [ranked, List.map_map]
  refine h.ranking_eq.trans (List.map_congr_left fun n _ => (paths n).symm)

theorem network?_eq (h : t.Holds c) (path : String) : t.network? path = c.network? path := by
  obtain rfl := h.view_eq
  exact (h.network?_view path).symm

/-- The ranked view of the tables is that of the catalogue. -/
theorem ranked_eq (h : t.Holds c) : t.ranked = c.ranked := by
  obtain rfl := h.view_eq
  have found (n : Network) (there : n ∈ t.view.ranked) : t.network? n.path = some n :=
    h.mem_view_iff.1 (List.mem_mergeSort.1 there)
  rw [ranked, h.ranking_eq, List.filterMap_map]
  exact (List.filterMap_congr found).trans List.filterMap_some

end Holds

/-! ### Order after any scans -/

/-- Everything in the tables is in its place. -/
structure Orderly (t : Tables) : Prop where
  /-- The networks are stored under the paths in the order of creation, -/
  paths_perm : t.table.paths.Perm t.created
  /-- of which there is none twice, -/
  created_nodup : t.created.Nodup
  /-- and these are ranked. -/
  ranking_perm : t.ranking.Perm t.created
  /-- A network has the path under which it is stored, and the path is made of the interface, the
  SSID and the security type. -/
  stored : ∀ path n, t.network? path = some n →
    n.path = path ∧ path = networkPath t.device n.ssid n.security
  /-- Every network has an access point. -/
  heard : ∀ path n, t.network? path = some n → n.accessPoints ≠ []
  /-- The access points of a network come by descending rank. -/
  descending : ∀ path n, t.network? path = some n →
    n.accessPoints.Pairwise fun p q => q.rank ≤ p.rank
  /-- No network lists an address twice. -/
  distinct : ∀ path n, t.network? path = some n → (n.accessPoints.map (·.address)).Nodup
  /-- An access point is as it was last observed. -/
  current : ∀ path n, t.network? path = some n → ∀ p ∈ n.accessPoints,
    (t.observation? p.address).map Observation.accessPoint = some p
  /-- No address is observed twice. -/
  addresses_nodup : (t.observations.map (·.address)).Nodup
  /-- Every observation is listed by a network. -/
  listed : ∀ o ∈ t.observations, ∃ path n, t.network? path = some n ∧
    o.accessPoint ∈ n.accessPoints
  /-- The networks of the ranked paths are all there; -/
  ranked_paths : t.ranked.map (·.path) = t.ranking
  /-- they come by descending rank, -/
  ranked_descending : t.ranked.Pairwise fun m n => n.rank ≤ m.rank
  /-- and those of one rank in the order of their creation. -/
  ranked_stable : ∀ rank, (t.ranked.filter fun n => n.rank = rank) =
    (t.created.filterMap t.network?).filter fun n => n.rank = rank

theorem Aligned.paths_perm {t : Tables} (h : t.Aligned) : t.table.paths.Perm t.created := by
  refine (List.perm_ext_iff_of_nodup t.table.distinct h.created_nodup).2 fun path => ?_
  exact PathMap.mem_paths_iff.trans (h.mem_created_iff path).symm

theorem Holds.orderly {t : Tables} {c : Catalogue} (h : t.Holds c) (settled : c.Settled) :
    t.Orderly := by
  have ranked := h.ranked_eq
  obtain rfl := h.view_eq
  have file (path : String) (n : Network) (found : t.network? path = some n) :
      n ∈ t.view.networks ∧ n.OnFile t.view := by
    have named := h.path_eq path n found
    have there : n ∈ t.view.networks := h.mem_view_iff.2 (named ▸ found)
    exact ⟨there, settled.networks n there⟩
  have paths := h.paths_view
  exact {
    paths_perm := h.paths_perm
    created_nodup := h.created_nodup
    ranking_perm := by
      rw [h.ranking_eq, ← paths]
      exact (List.mergeSort_perm t.view.networks _).map _
    stored path n found := by
      have named := h.path_eq path n found
      exact ⟨named, named ▸ (file path n found).2.path_eq⟩
    heard path n found := settled.heard n (file path n found).1
    descending path n found := (file path n found).2.descending
    distinct path n found := (file path n found).2.distinct
    current path n found p listed := by
      obtain ⟨o, there, rfl⟩ := (file path n found).2.current p listed
      have found : t.observation? o.accessPoint.address = some o :=
        settled.observation?_of_mem there
      rw [found, Option.map_some]
    addresses_nodup := settled.addresses
    listed o there := by
      obtain ⟨n, held, lists⟩ := settled.listed o there
      exact ⟨n.path, n, h.mem_view_iff.1 held, lists⟩
    ranked_paths := by rw [ranked, h.ranking_eq]
    ranked_descending := by
      rw [ranked]
      exact pairwise_mergeSort_key Network.rank t.view.networks
    ranked_stable rank := by
      rw [ranked]
      exact filter_mergeSort_key Network.rank t.view.networks rank }

/-- The tables after a renewal. -/
def renew (t : Tables) : Renewal → Tables
  | .ingest observations pin source now => (t.ingest observations pin source now).tables
  | .clear reason => (t.clear reason).1

/-- The tables of an interface after some renewals. -/
def after (device : String) (renewals : List Renewal) : Tables :=
  renewals.foldl renew { device }

theorem Holds.renew {t : Tables} {c : Catalogue} (h : t.Holds c) (r : Renewal) :
    (t.renew r).Holds (c.renew r) := by
  cases r with
  | ingest observations pin source now => exact (h.ingest observations pin source now).1
  | clear reason => exact (h.clear reason).1

/-- After any scans, whatever they heard, whatever was pinned and whatever the store said, and after
clearing them any number of times, the tables of an interface are in order, and they hold what a
catalogue is after the same. -/
theorem orderly_after (device : String) (renewals : List Renewal) :
    (after device renewals).Orderly ∧ (after device renewals).device = device ∧
      (after device renewals).Holds (renewals.foldl Catalogue.renew { device }) := by
  have kept : ∀ (l : List Renewal) (t : Tables) (c : Catalogue), t.Holds c → c.Settled →
      c.device = device → (l.foldl renew t).Orderly ∧ (l.foldl renew t).device = device ∧
        (l.foldl renew t).Holds (l.foldl Catalogue.renew c) := by
    intro l
    induction l with
    | nil =>
      intro t c holds settled named
      have device : t.view.device = device := holds.view_eq ▸ named
      exact ⟨holds.orderly settled, device, holds⟩
    | cons r rest ih =>
      intro t c holds settled named
      exact ih _ _ (holds.renew r) (settled.renew r) ((c.device_renew r).trans named)
  exact kept renewals { device } { device } (.new device) (.new device) rfl

end WirelessStation.Catalogue.Tables
