import WirelessStation.Proofs.Serving
import WirelessStation.Proofs.Trees

/-! # The bus mirrors the stations

An interface that is attached is watched by one more pump from then on, and the objects that it has
at this moment are registered (`Mirrors.attach`).  An interface that is released is removed from the
manager first.  The pump is told how its station ends, follows that with the manager that is left,
and so takes the networks away; then the device goes (`Mirrors.release`).

Between any two steps of a service, therefore, the network objects are the networks of the attached
stations, and a client that reads when an object appears and then applies every signal holds what is
there (`bus_mirrors_stations`).  This rests on nothing but what is relied on of the object server;
the tree is one for which it holds (`tree_mirrors_connection`). -/

namespace WirelessStation

open Bus

/-! ### Attaching -/

/-- A station that one more pump watches. -/
def Station.watched (s : Station) : Station :=
  { s with watchers := (s.watchers.add (.pump s.path) false).2 }

theorem Station.pumps_watched (s : Station) : s.watched.pumps = s.pumps ++ [s.path] := by
  simp [pumps, watched, Watchlist.add, Watchlist.watchers, Subscriber.device?]

theorem Station.pumps_watched_ne_nil (s : Station) : s.watched.pumps ≠ [] := by
  simp [pumps_watched]

theorem Station.Sound.watched {config : Config} {s : Station} (h : s.Sound config) :
    s.watched.Sound config where
  named := ⟨h.named.path_eq, h.named.device_eq, h.named.settled⟩
  linked := h.linked.congr ⟨rfl, rfl, rfl⟩
  pumps_eq d pump := by
    rw [pumps_watched, List.mem_append, List.mem_singleton] at pump
    exact pump.elim (h.pumps_eq d) id

namespace Bus

section attach

variable {σ : Type} {server : Server σ} {m : Manager} {s : Station} {contents : σ} {index : Nat}

/-- The manager once a pump watches a station. -/
def watching (m : Manager) (s : Station) : Manager.Turn where
  manager := m.put s.watched

theorem attach_of_none (found : m.station? index = none) :
    attach server index contents { manager := m } =
      (.error .notFound, contents, { manager := m }) := by
  rw [attach, Manager.withStation?_eq, found]
  rfl

theorem attach_of_some (found : m.station? index = some s) :
    attach server index contents { manager := m } =
      let registered := server.registerAll (objectsOf s) contents
      (registered.1.mapError .bus, registered.2, watching m s) := by
  rw [attach, Manager.withStation?_eq, found]
  rfl

end attach

namespace Mirrors

variable {σ : Type} {server : Server σ} (lawful : server.Lawful) {config : Config} {sc : Scene σ}
  {s : Station}

include lawful

/-- The objects of a station that can be shown are registered. -/
theorem registered (h : Mirrors server config sc) (there : s ∈ sc.manager.stations)
    (valid : server.isPath s.path = true) :
    (server.registerAll (objectsOf s) sc.contents).1 = .ok () ∧
      ∀ x, server.Has (server.registerAll (objectsOf s) sc.contents).2 x ↔
        server.Has sc.contents x ∨ s.Shows s.known x := by
  have named := (h.sound s there).named
  obtain ⟨accepted, added⟩ := Station.registerAll_accepted lawful h.shown
    (fun y listed => named.shown (Station.mem_objectsOf_iff.1 listed))
    (fun y listed => Station.isPath_of_mem_objectsOf lawful named valid listed)
  refine ⟨accepted, fun x => ?_⟩
  rw [added, Station.mem_objectsOf_iff]

omit lawful in
theorem replaces_watching (h : Mirrors server config sc) (there : s ∈ sc.manager.stations) :
    Replaces sc (watching sc.manager s).manager s s.watched :=
  ⟨h.ascending.station?_eq_some there, rfl, rfl, rfl⟩

/-- One more pump changes nothing that is read. -/
theorem faithful_watching (h : Mirrors server config sc) (there : s ∈ sc.manager.stations) :
    Faithful server (watching sc.manager s).manager sc.contents (Due []) sc.client :=
  (h.replaces_watching there).faithful lawful h fun _ _ other => absurd rfl other

/-- Nothing is registered of a station without a path. -/
theorem refused (s : Station) (invalid : server.isPath s.path = false) (contents : σ) :
    (∃ text, (server.registerAll (objectsOf s) contents).1 = .error text) ∧
      server.Same contents (server.registerAll (objectsOf s) contents).2 :=
  Station.registerAll_refused lawful (y := (s.path, .device s.index)) invalid contents

/-- Attaching a managed interface whose path is one succeeds. -/
theorem attach_accepted (h : Mirrors server config sc) (there : s ∈ sc.manager.stations)
    (valid : server.isPath s.path = true) :
    Bus.attach server s.index sc.contents { manager := sc.manager } =
      (.ok (), (server.registerAll (objectsOf s) sc.contents).2, watching sc.manager s) := by
  rw [attach_of_some (h.ascending.station?_eq_some there)]
  simp only [(h.registered lawful there valid).1]
  rfl

/-- It is shown from then on. -/
theorem step_attach (h : Mirrors server config sc) (there : s ∈ sc.manager.stations)
    (valid : server.isPath s.path = true) (env : Manager.Surroundings) :
    sc.step server env (.attach s.index) =
      let contents := (server.registerAll (objectsOf s) sc.contents).2
      let m := (watching sc.manager s).manager
      ⟨m, contents, insert s.index sc.attached, sc.client.look server m contents⟩ := by
  rw [Scene.step, h.attach_accepted lawful there valid]
  rfl

theorem attach_placed (h : Mirrors server config sc) (there : s ∈ sc.manager.stations)
    (valid : server.isPath s.path = true) (env : Manager.Surroundings) :
    Mirrors server config (sc.step server env (.attach s.index)) := by
  have sound := h.sound s there
  have added := (h.registered lawful there valid).2
  have watched : Watched server s.watched := ⟨s.pumps_watched_ne_nil, valid⟩
  have exhibits (x : String × Object) : Exhibits server s.watched x ↔ s.Shows s.known x :=
    and_iff_right watched
  have shown : ∀ x, server.Has (server.registerAll (objectsOf s) sc.contents).2 x →
      Station.Shown config x := by
    intro x has
    rcases (added x).1 has with before | new
    · exact h.shown x before
    · exact sound.named.shown new
  have faithful := (h.faithful_watching lawful there).look
    (Station.Shown.stays lawful h.shown shown)
  rw [h.step_attach lawful there valid]
  refine h.replaced (h.replaces_watching there) sound.watched (fun index apart => ?_) ?_
    (fun x => ?_) faithful
  · exact Finset.mem_insert.trans (or_iff_right apart)
  · exact iff_of_true (Finset.mem_insert_self ..) watched
  · rw [added, h.has_iff_of_mem there, exhibits, or_assoc]
    exact or_congr_right (or_iff_right_of_imp And.right)

/-- A station without a path is watched from then on and not shown. -/
theorem attach_unplaced (h : Mirrors server config sc) (there : s ∈ sc.manager.stations)
    (invalid : server.isPath s.path = false) (env : Manager.Surroundings) :
    Mirrors server config (sc.step server env (.attach s.index)) := by
  obtain ⟨⟨text, failed⟩, same⟩ := refused lawful s invalid sc.contents
  have unseen (u : Station) (path : u.path = s.path) : ¬Watched server u := by
    rintro ⟨_, placed⟩
    rw [path, invalid] at placed
    cases placed
  rw [Scene.step, attach_of_some (h.ascending.station?_eq_some there)]
  simp only [failed]
  refine h.replaced (h.replaces_watching there) (h.sound s there).watched (fun _ _ => .rfl) ?_
    (fun x => ?_) ((h.faithful_watching lawful there).look_same same)
  · exact (h.attached_iff s there).trans (iff_of_false (unseen s rfl) (unseen s.watched rfl))
  · rw [same.has_iff, h.has_iff_of_mem there]
    refine or_congr_right (iff_of_false (fun shows => ?_) fun shows => ?_)
    · exact unseen s rfl shows.1
    · exact unseen s.watched rfl shows.1

theorem attach (h : Mirrors server config sc) (env : Manager.Surroundings) (index : Nat) :
    Mirrors server config (sc.step server env (.attach index)) := by
  cases found : sc.manager.station? index with
  | none =>
    rw [Scene.step, attach_of_none found]
    exact { h with faithful := h.faithful.look_same fun _ _ => rfl }
  | some s =>
    obtain rfl := Manager.index_of_station? found
    have there := Manager.mem_of_station? found
    cases valid : server.isPath s.path with
    | true => exact h.attach_placed lawful there valid env
    | false => exact h.attach_unplaced lawful there valid env

end Mirrors

/-! ### Releasing -/

section release

variable {m : Manager} {s : Station} {index : Nat}

/-- The manager once an interface was removed. -/
def removing (m : Manager) (index : Nat) : Manager.Turn :=
  (Manager.Turn.remove index { manager := m }).2

/-- The pumps of a station that is removed are told how it ends. -/
theorem forwarded_removing (found : m.station? index = some s) :
    forwarded (removing m index).log = s.forwards (Station.Turn.shutdown { station := s }) := by
  rw [removing, Manager.Turn.remove, found]
  simp only
  rw [Station.forwarded_absorb]
  split
  · rw [Station.forwarded_announce]
    exact List.nil_append _
  · exact List.nil_append _

theorem mem_removing {u : Station} :
    u ∈ (removing m index).manager.stations ↔ u ∈ m.stations ∧ u.index ≠ index := by
  rw [removing, Manager.Turn.stations_remove, List.mem_filter, bne_iff_ne]

variable {σ : Type} {server : Server σ} {contents : σ}

theorem release_of_none (found : m.station? index = none) :
    release server index contents { manager := m } =
      (.error .notFound, contents, { manager := m }) := by
  rw [release, found]

/-- The pump follows the end of the station, and then its device is withdrawn. -/
theorem release_of_some (found : m.station? index = some s) :
    release server index contents { manager := m } =
      let left := withdrawDevice server s.path
        (server.pumped (removing m index).manager
          (s.forwards (Station.Turn.shutdown { station := s })) contents)
      (left.1.mapError .bus, left.2, removing m index) := by
  rw [← forwarded_removing found, ← Server.drain_fst, release, found]
  rfl

end release

namespace Mirrors

variable {σ : Type} {server : Server σ} {config : Config} {sc : Scene σ}

theorem ascending_removing (h : Mirrors server config sc) (index : Nat) :
    (removing sc.manager index).manager.Ascending :=
  (Manager.Changed.removed index (Manager.Turn.stations_remove ..)).ascending h.ascending

/-- What a client holds of the stations that are left is still what is there. -/
theorem faithful_removing (h : Mirrors server config sc) (index : Nat) :
    Faithful server (removing sc.manager index).manager sc.contents (Due []) sc.client := by
  refine h.faithful.congr fun path role o _ managed => ?_
  obtain ⟨u, found⟩ := Option.isSome_iff_exists.1 managed
  obtain ⟨listed, here⟩ := (h.ascending_removing index).station?_eq_some_iff.1 found
  have apart := (mem_removing.1 listed).2
  refine h.ascending.station?_congr (h.ascending_removing index) fun v same => ?_
  rw [mem_removing]
  exact and_iff_left (same.trans here.symm ▸ apart)

/-- A station has gone, with its objects, and the others are as they were. -/
theorem released (h : Mirrors server config sc) {s : Station} {contents' : σ} {client' : Client}
    (has_iff : ∀ x, server.Has contents' x ↔ Others server sc.manager s x)
    (faithful : Faithful server (removing sc.manager s.index).manager contents' (Due []) client') :
    Mirrors server config
      ⟨(removing sc.manager s.index).manager, contents', sc.attached.erase s.index, client'⟩ where
  config_eq := (Manager.Turn.config_remove ..).trans h.config_eq
  ascending := h.ascending_removing s.index
  sound u listed := h.sound u (mem_removing.1 listed).1
  managed index listed := by
    obtain ⟨apart, listed⟩ := Finset.mem_erase.1 listed
    obtain ⟨u, there, rfl⟩ := h.managed index listed
    exact ⟨u, mem_removing.2 ⟨there, apart⟩, rfl⟩
  attached_iff u listed := by
    obtain ⟨listed, apart⟩ := mem_removing.1 listed
    rw [Finset.mem_erase, and_iff_right apart]
    exact h.attached_iff u listed
  has_iff x := by
    simp only [has_iff, mem_removing, Others, and_assoc]
  faithful := faithful

variable (lawful : server.Lawful)

include lawful

theorem release (h : Mirrors server config sc) (env : Manager.Surroundings) (index : Nat) :
    Mirrors server config (sc.step server env (.release index)) := by
  rw [Scene.step]
  cases found : sc.manager.station? index with
  | none =>
    rw [release_of_none found]
    have absent : index ∉ sc.attached := by
      intro listed
      obtain ⟨s, there, same⟩ := h.managed index listed
      exact Manager.station?_eq_none_iff.1 found s there same
    rw [Finset.erase_eq_of_notMem absent]
    exact { h with faithful := h.faithful.look_same fun _ _ => rfl }
  | some s =>
    obtain rfl := Manager.index_of_station? found
    have there := Manager.mem_of_station? found
    have sound := h.sound s there
    let shut := Station.Turn.shutdown { station := s }
    have course : shut.OnCourse s.view false :=
      Station.Turn.OnCourse.shutdown .start sound.linked sound.named.settled
    have none : shut.station.known = ∅ := by
      rw [Station.known, Station.view, Station.Turn.station_shutdown]
      rfl
    have due : Faithful server (removing sc.manager s.index).manager sc.contents
        (Due (s.forwards shut)) sc.client := (h.faithful_removing s.index).mono (by simp [Due])
    -- The pump takes the networks away, and leaves the device.
    obtain ⟨has, shown, faithful⟩ := h.pumped lawful there course due
    rw [none] at has
    have withdrawn (x : String × Object) :=
      Station.has_withdrawDevice (x := x) lawful sound.named (h.apart there) has
    rw [release_of_some found]
    simp only
    rw [forwarded_removing found]
    refine h.released withdrawn (faithful.look (Station.Shown.stays lawful shown fun x left => ?_))
    exact shown x ((has x).2 (.inl ((withdrawn x).1 left)))

/-! ### Runs -/

theorem new (config : Config) : Mirrors server config (.new server config) where
  config_eq := rfl
  ascending := .nil
  sound _ listed := absurd listed List.not_mem_nil
  managed _ listed := absurd listed (Finset.notMem_empty _)
  attached_iff _ listed := absurd listed List.not_mem_nil
  has_iff x := by
    have none : ¬server.Has (Scene.new server config).contents x := by
      rw [Server.Has, Scene.new, lawful.object?_new]
      exact (Option.some_ne_none _).symm
    refine iff_of_false none ?_
    rintro ⟨_, listed, _⟩
    exact absurd listed List.not_mem_nil
  faithful :=
    { known path role := by
        rw [Scene.new, lawful.object?_new]
        rfl
      current path role o property there := by
        cases (lawful.object?_new path role).symm.trans there }

theorem step (h : Mirrors server config sc) (env : Manager.Surroundings) (op : Operation) :
    Mirrors server config (sc.step server env op) := by
  have ordered (index : Nat) (caller : Requester) (order : Order) :
      Mirrors server config (sc.turn server index (order.run (env.at index) caller)) := by
    refine h.act lawful index fun s there => ?_
    have sound := h.sound s there
    exact .order sound.linked sound.named.settled (env.at index) caller order
  cases op with
  | add i => exact h.add lawful env i
  | attach index => exact h.attach lawful env index
  | release index => exact h.release lawful env index
  | dispatch index notification => exact h.dispatch lawful env index notification
  | call caller c =>
    rw [Scene.step]
    split
    · exact ordered ..
    · exact h
  | write caller path interface property on =>
    rw [Scene.step]
    split
    · exact ordered ..
    · exact h
  | written path property =>
    exact { h with
      faithful := (h.faithful.hear lawful path .device property).mono fun _ _ _ owed => owed.1 }
  | ask index op =>
    refine h.act lawful index fun s there => ?_
    have sound := h.sound s there
    exact .step sound.linked sound.named.settled (env.at index) op.1 op.2

theorem played (h : Mirrors server config sc)
    (asked : List (Manager.Surroundings × Operation)) :
    Mirrors server config (sc.played server asked) := by
  induction asked generalizing sc with
  | nil => exact h
  | cons a rest ih =>
    obtain ⟨env, op⟩ := a
    exact ih (h.step lawful env op)

/-! ### What is seen -/

omit lawful in
/-- The objects of an attached station are there. -/
theorem has_of_attached (h : Mirrors server config sc) {s : Station}
    (there : s ∈ sc.manager.stations) (attached : s.index ∈ sc.attached) {x : String × Object}
    (listed : x ∈ objectsOf s) : server.Has sc.contents x :=
  (h.has_iff x).2
    ⟨s, there, (h.attached_iff s there).1 attached, Station.mem_objectsOf_iff.1 listed⟩

/-- A network object is there exactly for each network of an attached station. -/
theorem object?_network_iff (h : Mirrors server config sc) {path : String} {o : Object} :
    server.object? sc.contents path .network = some o ↔
      ∃ s ∈ sc.manager.stations, s.index ∈ sc.attached ∧
        (∃ n ∈ s.catalogue.networks, n.path = path) ∧ o = .network s.index path := by
  have known (s : Station) : (∃ n ∈ s.catalogue.networks, n.path = path) ↔ path ∈ s.known := by
    simp [Station.known, Station.view]
  simp only [known]
  rw [lawful.object?_eq_some_iff, h.has_iff]
  constructor
  · rintro ⟨⟨s, there, watched, shows⟩, role⟩
    refine ⟨s, there, (h.attached_iff s there).2 watched, ?_⟩
    rcases shows with ⟨_, object | object⟩ | shows
    · cases (congrArg Object.role object).symm.trans role
    · cases (congrArg Object.role object).symm.trans role
    · exact shows
  · rintro ⟨s, there, attached, listed, rfl⟩
    exact ⟨⟨s, there, (h.attached_iff s there).1 attached, .inr ⟨listed, rfl⟩⟩, rfl⟩

omit lawful in
theorem held_device (h : Mirrors server config sc) {s : Station}
    (there : s ∈ sc.manager.stations) (attached : s.index ∈ sc.attached)
    (p : Station.Property) :
    sc.client.held s.path .device p.label = some (p.value s) := by
  have found := h.ascending.station?_eq_some there
  have object : server.Has sc.contents (s.path, .device s.index) :=
    h.has_of_attached there attached (List.mem_cons_self ..)
  have current := h.faithful.current s.path .device _ p.label object
    (Option.isSome_of_eq_some found) ⟨p, rfl⟩ (by simp [Due])
  rw [current, Object.read_device found]
  rfl

theorem held_connected (h : Mirrors server config sc) {s : Station}
    (there : s ∈ sc.manager.stations) (attached : s.index ∈ sc.attached) {n : Network}
    (listed : n ∈ s.catalogue.networks) :
    sc.client.held n.path .network "Connected" =
      some (.flag (s.connectedNetwork == some n.path)) := by
  have found := h.ascending.station?_eq_some there
  have object := (h.object?_network_iff lawful).2 ⟨s, there, attached, ⟨n, listed, rfl⟩, rfl⟩
  have current := h.faithful.current n.path .network _ "Connected" object
    (Option.isSome_of_eq_some found) rfl (by simp [Due])
  rw [current, Object.read_connected, found]
  rfl

/-- An interface that is managed can be attached if its path is one, and then its objects are
there. -/
theorem attachable (h : Mirrors server config sc) {s : Station}
    (there : s ∈ sc.manager.stations) (valid : server.isPath s.path = true)
    (env : Manager.Surroundings) :
    (Bus.attach server s.index sc.contents { manager := sc.manager }).1 = .ok () ∧
      s.index ∈ (sc.step server env (.attach s.index)).attached ∧
      ∀ x ∈ objectsOf s, server.Has (sc.step server env (.attach s.index)).contents x := by
  rw [h.attach_accepted lawful there valid, h.step_attach lawful there valid env]
  refine ⟨rfl, Finset.mem_insert_self .., fun x listed => ?_⟩
  exact ((h.registered lawful there valid).2 x).2 (.inr (Station.mem_objectsOf_iff.1 listed))

end Mirrors

/-- Whatever has been done with a bus service, once the pump has followed it: the attached
interfaces are managed, the network objects that are registered are exactly those for the networks
in the catalogues of attached stations, and a client that reads when an object appears and then
applies every signal holds the name, the connected network, the power, the scanning and the state of
every attached station, and of each of its networks whether it is the connected one.  At any time a
managed interface can be attached if the object server takes its path for one, and then its device,
its enrollment and its networks are registered. -/
theorem bus_mirrors_stations {σ : Type} (server : Server σ) (lawful : server.Lawful)
    (config : Config) (asked : List (Manager.Surroundings × Operation)) :
    let sc := (Scene.new server config).played server asked
    (∀ index ∈ sc.attached, ∃ s ∈ sc.manager.stations, s.index = index) ∧
      (∀ path o, server.object? sc.contents path .network = some o ↔
        ∃ s ∈ sc.manager.stations, s.index ∈ sc.attached ∧
          (∃ n ∈ s.catalogue.networks, n.path = path) ∧ o = .network s.index path) ∧
      (∀ s ∈ sc.manager.stations, s.index ∈ sc.attached →
        (∀ p : Station.Property, sc.client.held s.path .device p.label = some (p.value s)) ∧
        ∀ n ∈ s.catalogue.networks,
          sc.client.held n.path .network "Connected" =
            some (.flag (s.connectedNetwork == some n.path))) ∧
      ∀ s ∈ sc.manager.stations, server.isPath s.path = true → ∀ env,
        let shown := sc.step server env (.attach s.index)
        (attach server s.index sc.contents { manager := sc.manager }).1 = .ok () ∧
          s.index ∈ shown.attached ∧
          ∀ x ∈ objectsOf s, server.object? shown.contents x.1 x.2.role = some x.2 := by
  intro sc
  have mirrors : Mirrors server config sc := (Mirrors.new lawful config).played lawful asked
  refine ⟨mirrors.managed, fun _ _ => mirrors.object?_network_iff lawful,
    fun s there attached => ⟨mirrors.held_device there attached, fun n listed => ?_⟩,
    fun s there valid env => mirrors.attachable lawful there valid env⟩
  exact mirrors.held_connected lawful there attached listed

/-- An interface is attached, hears an open network and is told over the bus to connect to it. -/
def Sample.connecting : List (Manager.Surroundings × Operation) :=
  [.add (Manager.Sample.interface 4), .attach 4, .dispatch 4 .up,
    .dispatch 4 (.scanResults [Station.Sample.observation]),
    .call (.call 0) ⟨"/0/4/41_open", Role.network.interface, "Connect", "", ""⟩,
    .dispatch 4 (.connectResult .success)].map fun op => (Manager.Sample.surroundings, op)

/-- On the tree, an interface that is attached and its network, which is connected. -/
theorem tree_mirrors_connection :
    let sc := (Scene.new Tree.server { objectRoot := "/" }).played Tree.server Sample.connecting
    4 ∈ sc.attached ∧
      Tree.server.object? sc.contents "/0/4/41_open" .network =
        some (.network 4 "/0/4/41_open") ∧
      ∃ s ∈ sc.manager.stations, s.index ∈ sc.attached ∧
        (∀ p : Station.Property, sc.client.held s.path .device p.label = some (p.value s)) ∧
        sc.client.held "/0/4/41_open" .network "Connected" =
          some (.flag (s.connectedNetwork == some "/0/4/41_open")) ∧
        sc.client.held "/0/4/41_open" .network "Connected" = some (.flag true) ∧
        (attach Tree.server s.index sc.contents { manager := sc.manager }).1 = .ok () := by
  intro sc
  have registered : Tree.server.object? sc.contents "/0/4/41_open" .network =
      some (.network 4 "/0/4/41_open") := by decide +kernel
  have connected : sc.client.held "/0/4/41_open" .network "Connected" = some (.flag true) := by
    decide +kernel
  have valid : ∀ s ∈ sc.manager.stations, Tree.server.isPath s.path = true := by decide +kernel
  obtain ⟨_, networks, held, attachable⟩ :=
    bus_mirrors_stations Tree.server Tree.lawful_server { objectRoot := "/" } Sample.connecting
  obtain ⟨s, there, attached, ⟨n, listed, path⟩, _⟩ := (networks _ _).1 registered
  obtain ⟨device, network⟩ := held s there attached
  have own := network n listed
  rw [path] at own
  refine ⟨by decide +kernel, registered, s, there, attached, device, own, connected, ?_⟩
  exact (attachable s there (valid s there) Manager.Sample.surroundings).1

example :
    let sc := (Scene.new Tree.server { objectRoot := "/" }).played Tree.server Sample.connecting
    let released := sc.step Tree.server Manager.Sample.surroundings (.release 4)
    sc.client.held "/0/4" .device "State" = some (.text "connected") ∧
      Tree.server.object? released.contents "/0/4/41_open" .network = none ∧
      released.client.held "/0/4" .device "State" = none := by
  decide +kernel

end Bus

end WirelessStation
