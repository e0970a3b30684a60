import WirelessStation.Proofs.Intake
import WirelessStation.Proofs.Sorting

/-! # A catalogue is in order

A catalogue is *filed* if its networks have names of their own, which say their SSID and security
type, if the access points of each network are current, in order and not repeated, and if every
observation has a network (`Filed`).  Each part of taking in a scan keeps that (`Filed.receive`,
`Filed.keepPinned`), and once networks without access points have left, every network has one
(`Settled`).  A catalogue stays so, whatever it takes in and however often it is cleared
(`Settled.renew`). -/

namespace WirelessStation

/-! ### Access points by rank -/

namespace AccessPoint

theorem insertRanked_perm (a : AccessPoint) (l : List AccessPoint) :
    (a.insertRanked l).Perm (a :: l) := by
  induction l with
  | nil => exact .refl _
  | cons b rest ih =>
    unfold insertRanked
    split
    · exact .refl _
    · exact (ih.cons b).trans (.swap a b rest)

@[simp] theorem mem_insertRanked_iff {a p : AccessPoint} {l : List AccessPoint} :
    p ∈ a.insertRanked l ↔ p = a ∨ p ∈ l := by
  rw [(a.insertRanked_perm l).mem_iff, List.mem_cons]

/-- Insertion keeps the order by rank. -/
theorem pairwise_insertRanked (a : AccessPoint) {l : List AccessPoint}
    (h : l.Pairwise fun p q => q.rank ≤ p.rank) :
    (a.insertRanked l).Pairwise fun p q => q.rank ≤ p.rank := by
  induction l with
  | nil => exact List.pairwise_singleton _ a
  | cons b rest ih =>
    obtain ⟨first, others⟩ := List.pairwise_cons.1 h
    unfold insertRanked
    split
    next lower =>
      have below : b.rank ≤ a.rank := UInt16.le_of_lt lower
      refine List.pairwise_cons.2 ⟨fun q hq => ?_, h⟩
      rcases List.mem_cons.1 hq with rfl | hq
      · exact below
      · exact UInt16.le_trans (first q hq) below
    next notLower =>
      refine List.pairwise_cons.2 ⟨fun q hq => ?_, ih others⟩
      rcases mem_insertRanked_iff.1 hq with rfl | hq
      · exact UInt16.not_lt.1 notLower
      · exact first q hq

end AccessPoint

/-- A network whose access points come by descending rank has a best one, and it outranks all others
or draws with them. -/
theorem Network.exists_best?_eq_some {n : Network} (ne : n.accessPoints ≠ [])
    (descending : n.accessPoints.Pairwise fun p q => q.rank ≤ p.rank) :
    ∃ best, n.best? = some best ∧ best ∈ n.accessPoints ∧
      ∀ p ∈ n.accessPoints, p.rank ≤ best.rank := by
  cases list : n.accessPoints with
  | nil => exact absurd list ne
  | cons best rest =>
    rw [list, List.pairwise_cons] at descending
    refine ⟨best, by simp [best?, list], List.mem_cons_self .., fun p hp => ?_⟩
    rcases List.mem_cons.1 hp with rfl | hp
    · exact UInt16.le_refl _
    · exact descending.1 p hp

/-! ### Networks on file -/

/-- A network has the name that its SSID and its security type give it, and its access points are
current, by descending rank and not repeated. -/
structure Network.OnFile (c : Catalogue) (n : Network) : Prop where
  path_eq : n.path = networkPath c.device n.ssid n.security
  descending : n.accessPoints.Pairwise fun p q => q.rank ≤ p.rank
  distinct : (n.accessPoints.map (·.address)).Nodup
  current : ∀ p ∈ n.accessPoints, ∃ o ∈ c.observations, o.accessPoint = p

/-- A network with an observation attached to it. -/
structure Network.Attached (o : Observation) (n n' : Network) : Prop where
  path : n'.path = n.path
  ssid : n'.ssid = n.ssid
  security : n'.security = n.security
  accessPoints : n'.accessPoints = o.accessPoint.insertRanked n.accessPoints

theorem Network.attached_attach (o : Observation) (n : Network) : Attached o n (n.attach o) :=
  ⟨rfl, rfl, rfl, rfl⟩

theorem Catalogue.attached_attachSeen (now : Moment) (o : Observation) (n : Network) :
    Network.Attached o n (attachSeen now o n) := by
  unfold attachSeen
  split <;> exact ⟨rfl, rfl, rfl, rfl⟩

namespace Network.OnFile

variable {c d : Catalogue} {n n' : Network}

theorem more (h : n.OnFile c) (device : d.device = c.device)
    (kept : ∀ o ∈ c.observations, o ∈ d.observations) : n.OnFile d := by
  refine ⟨?_, h.descending, h.distinct, fun p hp => ?_⟩
  · rw [device]
    exact h.path_eq
  · obtain ⟨o, there, same⟩ := h.current p hp
    exact ⟨o, kept o there, same⟩

theorem attached {o : Observation} (h : n.OnFile c) (att : Attached o n n')
    (there : o ∈ c.observations) (apart : o.address ∉ n.accessPoints.map (·.address)) :
    n'.OnFile c := by
  have order := o.accessPoint.insertRanked_perm n.accessPoints
  refine ⟨?_, ?_, ?_, ?_⟩
  · rw [att.path, att.ssid, att.security]
    exact h.path_eq
  · rw [att.accessPoints]
    exact o.accessPoint.pairwise_insertRanked h.descending
  · rw [att.accessPoints, (order.map (·.address)).nodup_iff, List.map_cons]
    exact List.nodup_cons.2 ⟨apart, h.distinct⟩
  · rw [att.accessPoints]
    intro p hp
    rcases AccessPoint.mem_insertRanked_iff.1 hp with rfl | hp
    · exact ⟨o, there, rfl⟩
    · exact h.current p hp

/-- The access points of a network have addresses that were observed. -/
theorem observed (h : n.OnFile c) {a : Address} (ha : a ∈ n.accessPoints.map (·.address)) :
    a ∈ c.observations.map (·.address) := by
  obtain ⟨p, hp, rfl⟩ := List.mem_map.1 ha
  obtain ⟨o, there, rfl⟩ := h.current p hp
  exact List.mem_map.2 ⟨o, there, rfl⟩

end Network.OnFile

namespace Catalogue

/-- The networks have names of their own and are on file, and each address is observed once and has
a network. -/
structure Filed (c : Catalogue) : Prop where
  paths : (c.networks.map (·.path)).Nodup
  networks : ∀ n ∈ c.networks, n.OnFile c
  addresses : (c.observations.map (·.address)).Nodup
  listed : ∀ o ∈ c.observations, ∃ n ∈ c.networks, o.accessPoint ∈ n.accessPoints

theorem mem_networks_modify {c : Catalogue} {path : String} {change : Network → Network}
    {n' : Network} :
    n' ∈ (c.modify path change).networks ↔
      ∃ n ∈ c.networks, (if n.path = path then change n else n) = n' :=
  List.mem_map

theorem paths_modify {c : Catalogue} {path : String} {change : Network → Network}
    (keeps : ∀ n, n.path = path → (change n).path = path) :
    (c.modify path change).networks.map (·.path) = c.networks.map (·.path) := by
  simp only [modify, List.map_map]
  refine List.map_congr_left fun n _ => ?_
  by_cases h : n.path = path
  · simp [h, keeps n h]
  · simp [h]

/-- What is looked up by a key that no other entry has is found. -/
theorem find?_key_of_mem {α β : Type} [BEq β] [LawfulBEq β] {key : α → β} {l : List α} {x : α}
    (distinct : (l.map key).Nodup) (there : x ∈ l) :
    (l.find? fun y => key y == key x) = some x := by
  obtain ⟨before, after, rfl⟩ := List.append_of_mem there
  rw [List.find?_eq_some_iff_append]
  refine ⟨beq_self_eq_true _, before, after, rfl, fun y hy => ?_⟩
  rw [List.map_append, List.map_cons, List.nodup_append] at distinct
  have other : key y ≠ key x := distinct.2.2 _ (List.mem_map_of_mem hy) _ (by simp)
  simpa using other

namespace Filed

variable {c : Catalogue}

/-- An observation is found under its address. -/
theorem observation?_of_mem (h : c.Filed) {o : Observation} (there : o ∈ c.observations) :
    c.observation? o.address = some o :=
  find?_key_of_mem h.addresses there

/-- A network is found under its path. -/
theorem network?_of_mem (h : c.Filed) {n : Network} (there : n ∈ c.networks) :
    c.network? n.path = some n :=
  find?_key_of_mem h.paths there

/-- No two networks have one path. -/
theorem eq_of_path (h : c.Filed) {n n' : Network} (hn : n ∈ c.networks) (hn' : n' ∈ c.networks)
    (same : n.path = n'.path) : n = n' :=
  List.inj_on_of_nodup_map h.paths hn hn' same

/-- The network that is found under a path is the one that has it. -/
theorem eq_of_network? (h : c.Filed) {path : String} {n n' : Network}
    (found : c.network? path = some n) (there : n' ∈ c.networks) (home : n'.path = path) : n' = n :=
  h.eq_of_path there (List.mem_of_find?_eq_some found) (home.trans (path_of_network? found).symm)

/-- An observation may be attached to a network that does not list its address, and if its address
is new it may become current with that. -/
theorem attach (h : c.Filed) {o : Observation} (path : String) {change : Network → Network}
    (attaches : ∀ n, Network.Attached o n (change n)) (new : List Observation)
    (only : ∀ q ∈ new, q = o) (current : o ∈ c.observations ++ new)
    (distinct : ((c.observations ++ new).map (·.address)).Nodup)
    (there : path ∈ c.networks.map (·.path))
    (apart : ∀ n ∈ c.networks, n.path = path → o.address ∉ n.accessPoints.map (·.address)) :
    ({ c with observations := c.observations ++ new }.modify path change).Filed := by
  let d : Catalogue := { c with observations := c.observations ++ new }
  have grown (n : Network) (hn : n ∈ c.networks) : n.OnFile (d.modify path change) :=
    (h.networks n hn).more rfl fun q hq => List.mem_append_left new hq
  refine ⟨?_, ?_, distinct, ?_⟩
  · rw [paths_modify fun n hn => (attaches n).path.trans hn]
    exact h.paths
  · intro n' hn'
    obtain ⟨n, hn, rfl⟩ := mem_networks_modify.1 hn'
    split
    next here => exact (grown n hn).attached (attaches n) current (apart n hn here)
    next => exact grown n hn
  · -- An observation is listed where it was before, and the new one where it is attached.
    intro q hq
    have kept : (∃ n ∈ c.networks, q.accessPoint ∈ n.accessPoints) ∨ q = o := by
      rcases List.mem_append.1 hq with old | fresh
      · exact .inl (h.listed q old)
      · exact .inr (only q fresh)
    rcases kept with ⟨n, hn, lists⟩ | rfl
    · refine ⟨_, mem_networks_modify.2 ⟨n, hn, rfl⟩, ?_⟩
      split
      · rw [(attaches n).accessPoints]
        exact AccessPoint.mem_insertRanked_iff.2 (.inr lists)
      · exact lists
    · obtain ⟨n, hn, here⟩ := List.mem_map.1 there
      refine ⟨_, mem_networks_modify.2 ⟨n, hn, rfl⟩, ?_⟩
      rw [if_pos here, (attaches n).accessPoints]
      exact AccessPoint.mem_insertRanked_iff.2 (.inl rfl)

/-- A network without access points may be added under a path that is free. -/
theorem ensure (h : c.Filed) (ssid : String) (security : Security) (now : Moment) :
    (c.ensure (networkPath c.device ssid security) ssid security now).1.Filed := by
  unfold Catalogue.ensure
  split
  next => exact h
  next free =>
    have free : ∀ n ∈ c.networks, n.path ≠ networkPath c.device ssid security := by
      simpa [hasNetwork] using free
    refine ⟨?_, ?_, h.addresses, ?_⟩
    · rw [List.map_append]
      refine h.paths.append (List.nodup_singleton _) ?_
      simpa [Network.new] using free
    · intro n hn
      rcases List.mem_append.1 hn with hn | hn
      · exact (h.networks n hn).more rfl fun _ hq => hq
      · obtain rfl := List.mem_singleton.1 hn
        exact ⟨rfl, .nil, .nil, by simp [Network.new]⟩
    · intro o ho
      obtain ⟨n, hn, lists⟩ := h.listed o ho
      exact ⟨n, List.mem_append_left _ hn, lists⟩

end Filed

theorem mem_paths_ensure (c : Catalogue) (path ssid : String) (security : Security) (now : Moment) :
    path ∈ (c.ensure path ssid security now).1.networks.map (·.path) := by
  unfold ensure
  split
  next there =>
    simp only [hasNetwork, List.any_eq_true, beq_iff_eq] at there
    exact List.mem_map.2 there
  next => simp [Network.new]

namespace Filed

variable {c : Catalogue} {now : Moment}

/-- A network whose access points are current does not list an address that is not. -/
theorem apart (h : c.Filed) {a : Address} (fresh : a ∉ c.observations.map (·.address))
    {n : Network} (hn : n ∈ c.networks) : a ∉ n.accessPoints.map (·.address) :=
  fun ha => fresh ((h.networks n hn).observed ha)

/-- An observation with an address that is new may become current with a network to list it. -/
theorem append (h : c.Filed) {o : Observation} {path : String} {change : Network → Network}
    (attaches : ∀ n, Network.Attached o n (change n))
    (fresh : o.address ∉ c.observations.map (·.address))
    (there : path ∈ c.networks.map (·.path)) :
    ({ c with observations := c.observations ++ [o] }.modify path change).Filed := by
  refine h.attach path attaches [o] (by simp) (by simp) ?_ there fun n hn _ => h.apart fresh hn
  rw [List.map_append]
  refine h.addresses.append (List.nodup_singleton _) ?_
  simpa using fresh

theorem receive (h : c.Filed) (ssid : String) (security : Security) {o : Observation}
    (fresh : o.address ∉ c.observations.map (·.address)) :
    (c.receive ssid security now o).Filed := by
  have ensured := h.ensure ssid security now
  exact ensured.append (attached_attachSeen now o) (by simpa using fresh) (mem_paths_ensure ..)

theorem keepPinned (h : c.Filed) (pin : Pin) (previous : List Observation) :
    (Catalogue.keepPinned pin previous c).1.Filed := by
  rcases keepPinned_cases pin previous c with same | ⟨n, o, found, lacks, current, h'⟩ |
    ⟨o, missing, carried, known, h'⟩
  · rw [same]
    exact h
  · rw [h']
    have there : n ∈ c.networks := List.mem_of_find?_eq_some found
    have address : o.address = pin.address := address_of_observation? current
    have heard : o ∈ c.observations := List.mem_of_find?_eq_some current
    have apart : ∀ n' ∈ c.networks, n'.path = pin.network →
        o.address ∉ n'.accessPoints.map (·.address) := by
      intro n' hn' here
      obtain rfl := h.eq_of_network? found hn' here
      simpa [Network.hasAccessPoint, address] using lacks
    simpa using h.attach pin.network (Network.attached_attach o) [] (by simp) (by simpa using heard)
      (by simpa using h.addresses) (List.mem_map.2 ⟨n, there, path_of_network? found⟩) apart
  · rw [h']
    have address : o.address = pin.address := address_of_observation? carried
    obtain ⟨n, found⟩ := Option.isSome_iff_exists.1 known
    refine h.append (Network.attached_attach o) ?_ ?_
    · rw [address]
      simpa [observation?] using missing
    · exact List.mem_map.2 ⟨n, List.mem_of_find?_eq_some found, path_of_network? found⟩

/-- Once every access point is taken away nothing is left of a scan. -/
theorem emptied (h : c.Filed) :
    Filed { c with observations := [], networks := c.networks.map Network.clearAccessPoints } := by
  refine ⟨?_, ?_, List.nodup_nil, by simp⟩
  · have same : (c.networks.map Network.clearAccessPoints).map (·.path) =
        c.networks.map (·.path) := by simp [Network.clearAccessPoints, Function.comp_def]
    rw [same]
    exact h.paths
  · intro n' hn'
    obtain ⟨n, hn, rfl⟩ := List.mem_map.1 hn'
    exact ⟨(h.networks n hn).path_eq, .nil, .nil, by simp [Network.clearAccessPoints]⟩

/-- A scan is settled from a catalogue that is filed. -/
theorem before_settle (h : c.Filed) (observations : List Observation) (pin : Option Pin)
    (source : CredentialSource) (now : Moment) :
    ∃ d : Catalogue, d.Filed ∧
      (c.ingest observations pin source now).catalogue = (d.settle source).1 := by
  refine ingest_induct c observations pin source h.emptied ?_ ?_
  · exact fun d ssid security o fresh hd => hd.receive ssid security fresh
  · exact fun p d hd => hd.keepPinned p c.observations

end Filed

/-! ### Settled catalogues -/

/-- A settled network is one that was there with an access point, with its rank. -/
theorem mem_networks_settle {c : Catalogue} {source : CredentialSource} {n' : Network} :
    n' ∈ (c.settle source).1.networks ↔
      ∃ n ∈ c.networks, n.accessPoints ≠ [] ∧ n.updateRank (n.modifierFrom source) = n' := by
  simp [settle, and_assoc]

/-- Filed, and every network has an access point. -/
structure Settled (c : Catalogue) : Prop extends Filed c where
  heard : ∀ n ∈ c.networks, n.accessPoints ≠ []

theorem Filed.settle {c : Catalogue} (h : c.Filed) (source : CredentialSource) :
    (c.settle source).1.Settled := by
  refine ⟨⟨?_, ?_, h.addresses, ?_⟩, ?_⟩
  · have kept : ((c.settle source).1.networks.map (·.path)).Sublist (c.networks.map (·.path)) := by
      simp only [Catalogue.settle, List.map_map, Function.comp_def, Network.path_updateRank]
      exact List.filter_sublist.map _
    exact kept.nodup h.paths
  · intro n' hn'
    obtain ⟨n, hn, _, rfl⟩ := mem_networks_settle.1 hn'
    have onFile := h.networks n hn
    exact ⟨onFile.path_eq, onFile.descending, onFile.distinct, onFile.current⟩
  · intro o ho
    obtain ⟨n, hn, lists⟩ := h.listed o ho
    exact ⟨_, mem_networks_settle.2 ⟨n, hn, List.ne_nil_of_mem lists, rfl⟩, lists⟩
  · intro n' hn'
    obtain ⟨n, _, heard, rfl⟩ := mem_networks_settle.1 hn'
    exact heard

namespace Settled

variable {c : Catalogue}

theorem new (device : String) : Settled { device } :=
  ⟨⟨.nil, by simp, .nil, by simp⟩, by simp⟩

theorem clear (c : Catalogue) (reason : RemovalReason) : (c.clear reason).1.Settled :=
  ⟨⟨.nil, by simp [Catalogue.clear], .nil, by simp [Catalogue.clear]⟩, by simp [Catalogue.clear]⟩

theorem ingest (h : c.Settled) (observations : List Observation) (pin : Option Pin)
    (source : CredentialSource) (now : Moment) :
    (c.ingest observations pin source now).catalogue.Settled := by
  obtain ⟨d, filed, settled⟩ := h.toFiled.before_settle observations pin source now
  rw [settled]
  exact filed.settle source

end Settled

/-! ### Scan after scan -/

/-- What replaces the content of a catalogue. -/
inductive Renewal where
  | ingest (observations : List Observation) (pin : Option Pin) (source : CredentialSource)
      (now : Moment)
  | clear (reason : RemovalReason)

/-- The catalogue after a renewal. -/
def renew (c : Catalogue) : Renewal → Catalogue
  | .ingest observations pin source now => (c.ingest observations pin source now).catalogue
  | .clear reason => (c.clear reason).1

theorem Settled.renew {c : Catalogue} (h : c.Settled) (r : Renewal) : (c.renew r).Settled := by
  cases r with
  | ingest observations pin source now => exact h.ingest observations pin source now
  | clear reason => exact .clear c reason

theorem device_renew (c : Catalogue) (r : Renewal) : (c.renew r).device = c.device := by
  cases r with
  | ingest observations pin source now => exact c.device_ingest observations pin source now
  | clear reason => rfl

end Catalogue

end WirelessStation
