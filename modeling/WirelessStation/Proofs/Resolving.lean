import WirelessStation.Proofs.Managing
import WirelessStation.Proofs.Names

/-! # Paths lead to their owners

A manager looks a path up by asking one station after the other, and the first that knows the path
answers.  That is right only if no two stations know one path.  Every station is named after its
radio and its index, and files its networks under that name (`Station.Named`), at the start as well
as after any operation.  The names tell the owner apart, whatever the root is that all of them begin
with, and so every path leads to its owner (`paths_resolve`). -/

namespace WirelessStation

namespace Station

variable {config : Config} {s : Station}

/-- The name of a station says where it belongs, and its networks are filed under its name. -/
structure Named (config : Config) (s : Station) : Prop where
  path_eq : ∃ phy, s.path = devicePath (config.adapterPath phy) s.index
  device_eq : s.catalogue.device = s.path
  settled : s.catalogue.Settled

/-- Any operation leaves a catalogue settled and with its device, the shutdown too. -/
theorem catalogue_step (settled : s.catalogue.Settled) (env : Surroundings) (op : Operation) :
    (s.step env op).2.station.catalogue.Settled ∧
      (s.step env op).2.station.catalogue.device = s.catalogue.device := by
  by_cases ended : op = .shutdown
  · subst ended
    rw [step, Turn.perform, Turn.station_shutdown]
    exact ⟨.clear _ .shutdown, rfl⟩
  · let m : Move := ⟨s, env, op⟩
    change m.after.catalogue.Settled ∧ m.after.catalogue.device = s.catalogue.device
    rcases Move.catalogue_cases (m := m) ended settled.toFiled with
      ⟨observations, _, taken⟩ | ⟨_, _, dropped⟩ | ⟨_, rekeyed⟩
    · rw [taken]
      exact ⟨settled.ingest .., Catalogue.device_ingest ..⟩
    · rw [dropped]
      exact ⟨.clear _ _, rfl⟩
    · exact ⟨settled.rekeyed rekeyed, rekeyed.device⟩

namespace Named

theorem new (config : Config) (i : Interface) : Named config (.new i config) :=
  ⟨⟨i.phy, rfl⟩, rfl, .new _⟩

theorem step (h : Named config s) (env : Surroundings) (op : Operation) :
    Named config (s.step env op).2.station := by
  have own := s.own_step env op
  have path : (s.step env op).2.station.path = s.path := congrArg Own.path own
  have index : (s.step env op).2.station.index = s.index := congrArg Own.index own
  obtain ⟨settled, device⟩ := catalogue_step h.settled env op
  refine ⟨?_, ?_, settled⟩
  · rw [path, index]
    exact h.path_eq
  · rw [device, path]
    exact h.device_eq

variable {t : Station}

/-- Stations with one path have one index. -/
theorem index_eq (hs : Named config s) (ht : Named config t) (same : s.path = t.path) :
    s.index = t.index := by
  obtain ⟨phy, hs⟩ := hs.path_eq
  obtain ⟨phy', ht⟩ := ht.path_eq
  rw [hs, ht] at same
  exact (devicePath_inj.1 same).2

theorem network_path_eq (h : Named config s) {n : Network} (there : n ∈ s.catalogue.networks) :
    n.path = networkPath s.path n.ssid n.security := by
  rw [← h.device_eq]
  exact (h.settled.networks n there).path_eq

/-- Networks with one path are heard by stations with one index. -/
theorem index_eq_of_network (hs : Named config s) (ht : Named config t) {n n' : Network}
    (hn : n ∈ s.catalogue.networks) (hn' : n' ∈ t.catalogue.networks) (same : n.path = n'.path) :
    s.index = t.index := by
  rw [hs.network_path_eq hn, ht.network_path_eq hn'] at same
  exact hs.index_eq ht (device_of_networkPath same)

end Named

end Station

namespace Manager

variable {config : Config} {m : Manager} {moves : List Move}

theorem Run.named (run : Run { config } moves m) : ∀ s ∈ m.stations, s.Named config :=
  run.forall_stations (by simp) (.new config) fun _ env op h => h.step env op

section lookup

variable (ascending : m.Ascending) (named : ∀ s ∈ m.stations, s.Named config) {s : Station}

include ascending named

theorem nodup_paths : (m.stations.map (·.path)).Nodup := by
  refine List.Nodup.map_on ?_ (.of_map _ ascending.nodup)
  intro s hs t ht same
  exact ascending.eq_of_index hs ht ((named s hs).index_eq (named t ht) same)

theorem stationByPath?_eq (there : s ∈ m.stations) : m.stationByPath? s.path = some s :=
  Catalogue.find?_key_of_mem (nodup_paths ascending named) there

theorem networkByPath?_eq {n : Network} (there : s ∈ m.stations)
    (listed : n ∈ s.catalogue.networks) : m.networkByPath? n.path = some (s.index, n) := by
  have own : s.network? n.path = some n :=
    (named s there).settled.toFiled.network?_of_mem listed
  cases found : m.networkByPath? n.path with
  | none =>
    have others := List.findSome?_eq_none_iff.1 found s there
    rw [own] at others
    cases others
  | some answer =>
    obtain ⟨t, known, given⟩ := List.exists_of_findSome?_eq_some found
    obtain ⟨n', here, rfl⟩ := Option.map_eq_some_iff.1 given
    have path : n'.path = n.path := Catalogue.path_of_network? here
    have index := (named t known).index_eq_of_network (named s there)
      (List.mem_of_find?_eq_some here) listed path
    obtain rfl := ascending.eq_of_index known there index
    rw [Option.some.inj (here.symm.trans own)]

end lookup

/-- Whatever root the names begin with and whatever has happened to a manager: the path of every
managed station leads to it, the path of every network in its catalogue leads to its index and to
the network, and no other path leads to a network. -/
theorem paths_resolve (run : Run { config } moves m) :
    (∀ s ∈ m.stations, m.stationByPath? s.path = some s ∧
      ∀ n ∈ s.catalogue.networks, m.networkByPath? n.path = some (s.index, n)) ∧
    ∀ path, (∀ s ∈ m.stations, ∀ n ∈ s.catalogue.networks, n.path ≠ path) →
      m.networkByPath? path = none := by
  have ascending : m.Ascending := run.ascending .nil
  refine ⟨fun s there => ⟨?_, fun n listed => ?_⟩, fun path strange => ?_⟩
  · exact stationByPath?_eq ascending run.named there
  · exact networkByPath?_eq ascending run.named there listed
  · refine List.findSome?_eq_none_iff.2 fun s there => ?_
    refine Option.map_eq_none_iff.2 (List.find?_eq_none.2 fun n listed => ?_)
    simpa using strange s there n listed

/-! ### A manager to look at -/

namespace Sample

/-- The link layers accept everything and the store knows nothing. -/
def surroundings : Surroundings where
  accepts _ _ _ := true
  store := ⟨fun _ _ => none, fun _ _ => none⟩
  now := 0

/-- An interface on the first radio. -/
def interface (index : Nat) : Interface :=
  { Station.Sample.interface with index }

/-- Two interfaces of one radio hear one open network. -/
def hearing : List (Surroundings × Operation) :=
  [.add (interface 4), .add (interface 34), .dispatch 4 .up, .dispatch 34 .up,
    .dispatch 34 (.scanResults [Station.Sample.observation]),
    .dispatch 4 (.scanResults [Station.Sample.observation])].map fun op => (surroundings, op)

theorem run (config : Config) (asked : List (Surroundings × Operation)) :
    Run { config } (Manager.play { config } asked) (Manager.played { config } asked) := by
  simpa using Run.start.play asked

end Sample

/-- The root ends in slashes, and one index ends in the digits of the other. -/
theorem paths_resolve_two :
    let config : Config := { objectRoot := "/wireless//" }
    let m := Manager.played { config } Sample.hearing
    Run { config } (Manager.play { config } Sample.hearing) m ∧
      m.stations.map (fun s => s.catalogue.networks.map (·.path)) =
        [["/wireless/0/4/41_open"], ["/wireless/0/34/41_open"]] ∧
      (∀ s ∈ m.stations, m.stationByPath? s.path = some s ∧
        ∀ n ∈ s.catalogue.networks, m.networkByPath? n.path = some (s.index, n)) ∧
      m.networkByPath? "/wireless/0/3/41_open" = none := by
  intro config m
  have resolved := paths_resolve (Sample.run config Sample.hearing)
  have listed : m.stations.map (fun s => s.catalogue.networks.map (·.path)) =
      [["/wireless/0/4/41_open"], ["/wireless/0/34/41_open"]] := by decide +kernel
  have strange : ∀ s ∈ m.stations, ∀ n ∈ s.catalogue.networks,
      n.path ≠ "/wireless/0/3/41_open" := by decide +kernel
  exact ⟨Sample.run config Sample.hearing, listed, resolved.1, resolved.2 _ strange⟩

end Manager

end WirelessStation
