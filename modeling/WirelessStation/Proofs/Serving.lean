import WirelessStation.Proofs.Forwarding

/-! # Bus services

A bus service shows the interfaces of a manager with an object server.  Whatever is done with it,
the pump has followed everything afterwards (`Scene.step`).  Interfaces are added, attached and
released in any order and as often as one likes, also again and also in vain; notifications and
calls come as they come, a write is announced once more at any time after it was made, and stations
are asked for things without the bus.  Stations leave the manager only by being released.

`Mirrors` says how the objects and what a client holds agree with the stations.  A station that
changes in place (`Mirrors.Replaces`) stays mirrored if its objects and its readings are brought up
to date (`Mirrors.replaced`), as they are when it takes a turn and the pump follows
(`Mirrors.turn`). -/

namespace WirelessStation

open Bus

/-! ### Stations of managers that change -/

namespace Manager

variable {m m' : Manager} {s u : Station} {index : Nat}

theorem Ascending.station?_eq_some_iff (h : m.Ascending) :
    m.station? index = some s ↔ s ∈ m.stations ∧ s.index = index := by
  constructor
  · intro found
    exact ⟨mem_of_station? found, index_of_station? found⟩
  · rintro ⟨there, rfl⟩
    exact h.station?_eq_some there

theorem Ascending.station?_congr (h : m.Ascending) (h' : m'.Ascending)
    (same : ∀ s, s.index = index → (s ∈ m'.stations ↔ s ∈ m.stations)) :
    m'.station? index = m.station? index := by
  refine Option.ext fun s => ?_
  rw [h.station?_eq_some_iff, h'.station?_eq_some_iff]
  exact and_congr_left (same s)

end Manager

/-! ### What is read when a station has taken a turn -/

/-- The value of a property is told by what watchers read of it. -/
theorem Station.Property.value_congr {p : Station.Property} {s s' : Station}
    (same : (Station.Subject.property p).read s'.properties =
      (Station.Subject.property p).read s.properties) : p.value s' = p.value s := by
  cases p with
  | name => exact congrArg Value.text (Station.Reading.text.inj same)
  | connectedNetwork =>
    exact congrArg (fun network => Value.text (Option.getD network "/"))
      (Station.Reading.path.inj same)
  | powered | scanning => exact congrArg Value.flag (Station.Reading.flag.inj same)
  | state => exact congrArg Value.text (Station.Reading.text.inj same)

/-- Where nothing is going to be signalled, an object of a station that has changed is read as it
was before. -/
theorem Bus.Object.read_of_untold {m m' : Manager} {s s' : Station} {o : Object}
    {path property : String} {events : List Forwarded}
    (found : m.station? s.index = some s) (found' : m'.station? s.index = some s')
    (here : o.index = s.index)
    (own : (o.role = .device → path = s.path) ∧ ∀ index network, o = .network index network →
      network = path)
    (told : ∀ x : Station.Subject, x.read s'.properties ≠ x.read s.properties →
      ∃ f ∈ events, f.device = s.path ∧ f.event = x.event)
    (signalled : o.role.Signals property) (settled : ¬Due events path o.role property) :
    o.read m' property = o.read m property := by
  cases o with
  | device index =>
    obtain rfl : index = s.index := here
    obtain ⟨p, rfl⟩ := signalled
    rw [Object.read_device found, Object.read_device found']
    refine congrArg Except.ok (Station.Property.value_congr (by_contra fun other => settled ?_))
    obtain ⟨f, listed, sender, event⟩ := told _ other
    refine ⟨f, listed, ?_⟩
    rw [Forwarded.renews, event, sender, own.1 rfl]
    rfl
  | enrollment index => exact signalled.elim
  | network index path' =>
    obtain rfl : index = s.index := here
    obtain rfl := own.2 _ _ rfl
    obtain rfl := signalled
    rw [Object.read_connected, Object.read_connected, found, found']
    refine congrArg (fun b => Except.ok (Value.flag b)) ?_
    refine Station.Reading.flag.inj (by_contra fun other => settled ?_)
    obtain ⟨f, listed, _, event⟩ := told (.connected path') other
    refine ⟨f, listed, ?_⟩
    rw [Forwarded.renews, event]
    rfl

namespace Bus.Faithful

variable {σ : Type} {server : Server σ} {m m' : Manager} {t : σ}
  {due : String → Role → String → Prop} {c : Client}

/-- The stations of the objects are as they were, if they are still managed. -/
theorem congr (h : Faithful server m t due c)
    (same : ∀ path role o, server.object? t path role = some o →
      (m'.station? o.index).isSome = true → m'.station? o.index = m.station? o.index) :
    Faithful server m' t due c where
  known := h.known
  current path role o property there managed signalled settled := by
    have station := same path role o there managed
    rw [Object.read_congr station]
    exact h.current path role o property there (station ▸ managed) signalled settled

/-- A station has changed, and what is to be read anew is going to be signalled. -/
theorem turned (lawful : server.Lawful) {s s' : Station} {events : List Forwarded}
    (h : Faithful server m t (Due []) c)
    (found : m.station? s.index = some s) (found' : m'.station? s.index = some s')
    (others : ∀ index, index ≠ s.index → m'.station? index = m.station? index)
    (own : ∀ path role o, server.object? t path role = some o → o.index = s.index →
      (role = .device → path = s.path) ∧ ∀ index network, o = .network index network →
        network = path)
    (told : ∀ x : Station.Subject, x.read s'.properties ≠ x.read s.properties →
      ∃ f ∈ events, f.device = s.path ∧ f.event = x.event) :
    Faithful server m' t (Due events) c where
  known := h.known
  current path role o property there managed signalled settled := by
    have before (managed : (m.station? o.index).isSome = true) :=
      h.current path role o property there managed signalled (by simp [Due])
    by_cases here : o.index = s.index
    · have own := own path role o there here
      obtain rfl := lawful.role_eq there
      have still : (m.station? o.index).isSome = true := by rw [here, found]; rfl
      rw [before still, Object.read_of_untold found found' here own told signalled settled]
    · have station := others o.index here
      rw [Object.read_congr station]
      exact before (station ▸ managed)

end Bus.Faithful

namespace Bus

/-! ### Services -/

/-- A bus service with an object server, and a client that has been there from the start. -/
structure Scene (σ : Type) where
  manager : Manager
  /-- The contents of the object server. -/
  contents : σ
  /-- The interfaces that are shown. -/
  attached : Finset Nat := ∅
  client : Client := .new

/-- What can happen to a bus service. -/
inductive Operation where
  | add (i : Interface)
  | attach (index : Nat)
  | release (index : Nat)
  | dispatch (index : Nat) (notification : Notification)
  | call (caller : Requester) (c : Call)
  | write (caller : Requester) (path interface property : String) (on : Bool)
  /-- A write that was made some time ago has ended. -/
  | written (path property : String)
  /-- A station is asked for something without the bus. -/
  | ask (index : Nat) (op : { op : Station.Operation // op.sparesPumps = true })

namespace Scene

variable {σ : Type} (server : Server σ)

/-- The pump follows a turn of the manager, and the client follows the pump. -/
def follow (t : Manager.Turn) (sc : Scene σ) : Scene σ :=
  { sc with
    manager := t.manager
    contents := (server.drain t.manager t.log sc.contents).1
    client := sc.client.attend server t.manager (forwarded t.log) sc.contents }

/-- A station takes a turn, if it is managed. -/
def turn {α : Type} (index : Nat) (act : Station.Turn → α × Station.Turn) (sc : Scene σ) :
    Scene σ :=
  match Manager.Turn.withStation? index act { manager := sc.manager } with
  | none => sc
  | some (_, t) => sc.follow server t

/-- One step of a bus service. -/
def step (env : Manager.Surroundings) (op : Operation) (sc : Scene σ) : Scene σ :=
  match op with
  | .add i =>
    match sc.manager.add i with
    | .error _ => sc
    | .ok manager => { sc with manager }
  | .attach index =>
    let (result, contents, t) := attach server index sc.contents { manager := sc.manager }
    { manager := t.manager, contents
      attached := if result.isOk then insert index sc.attached else sc.attached
      client := sc.client.look server t.manager contents }
  | .release index =>
    let (_, contents, t) := release server index sc.contents { manager := sc.manager }
    let client := sc.client.attend server t.manager (forwarded t.log) sc.contents
    { manager := t.manager, contents, attached := sc.attached.erase index
      client := client.look server t.manager contents }
  | .dispatch index notification =>
    sc.follow server (Manager.Turn.dispatch env index notification { manager := sc.manager }).2
  | .call caller c =>
    let task : Option Task := (server.reach? sc.contents c.path c.interface).map fun o =>
      o.serve sc.manager c.member
    match task with
    | some (.order index order) => sc.turn server index (order.run (env.at index) caller)
    | _ => sc
  | .write caller path interface property on =>
    match (server.reach? sc.contents path interface).bind fun o => o.write? property on with
    | some (index, order) => sc.turn server index (order.run (env.at index) caller)
    | none => sc
  | .written path property =>
    { sc with
      client := (server.signals sc.manager sc.contents path .device property).foldl Client.hear
        sc.client }
  | .ask index op => sc.turn server index (Station.Turn.perform (env.at index) op)

/-- A service whose manager has no interfaces. -/
def new (config : Config) : Scene σ where
  manager := { config }
  contents := server.new

/-- A service after some steps. -/
def played (sc : Scene σ) : List (Manager.Surroundings × Operation) → Scene σ
  | [] => sc
  | (env, op) :: rest => (sc.step server env op).played rest

theorem played_append (sc : Scene σ) (l l' : List (Manager.Surroundings × Operation)) :
    sc.played server (l ++ l') = (sc.played server l).played server l' := by
  induction l generalizing sc with
  | nil => rfl
  | cons a rest ih => exact ih (sc.step server a.1 a.2)

end Scene

end Bus

/-! ### Mirrors -/

namespace Station

variable {config : Config} {s s' : Station} {known : Finset String} {x : String × Object}

theorem Shows.index_eq (h : s.Shows known x) : x.2.index = s.index := by
  rcases h with ⟨_, object | object⟩ | ⟨_, object⟩ <;> rw [object] <;> rfl

/-- The path of an object is that of its interface or that of its network. -/
theorem Shows.path_own {path : String} {o : Object} (h : s.Shows known (path, o)) :
    (o.role = .device → path = s.path) ∧ ∀ index network, o = .network index network →
      network = path := by
  rcases h with ⟨here, object⟩ | ⟨_, object⟩
  · refine ⟨fun _ => here, ?_⟩
    rintro index network rfl
    rcases object with object | object <;> cases object
  · obtain rfl : o = .network s.index path := object
    refine ⟨fun role => (by cases role), ?_⟩
    rintro index network same
    cases same
    rfl

theorem shows_congr (own : s'.own = s.own) : s'.Shows known x ↔ s.Shows known x := by
  have path : s'.path = s.path := congrArg Own.path own
  have index : s'.index = s.index := congrArg Own.index own
  rw [Shows, Shows, path, index]

end Station

namespace Bus

variable {σ : Type} {server : Server σ}

/-- Whether a pump watches a station that can be shown. -/
def Watched (server : Server σ) (s : Station) : Prop :=
  s.pumps ≠ [] ∧ server.isPath s.path = true

/-- What is shown of a station. -/
def Exhibits (server : Server σ) (s : Station) (x : String × Object) : Prop :=
  Watched server s ∧ s.Shows s.known x

/-- The objects of the stations that pumps watch, but for those of one station. -/
def Others (server : Server σ) (m : Manager) (s : Station) (x : String × Object) : Prop :=
  ∃ u ∈ m.stations, u.index ≠ s.index ∧ Exhibits server u x

/-- What is attached is watched and has a path of an object, the objects are those of what is
watched, and a client holds what is there. -/
structure Mirrors (server : Server σ) (config : Config) (sc : Scene σ) : Prop where
  config_eq : sc.manager.config = config
  ascending : sc.manager.Ascending
  sound : ∀ s ∈ sc.manager.stations, s.Sound config
  managed : ∀ index ∈ sc.attached, ∃ s ∈ sc.manager.stations, s.index = index
  attached_iff : ∀ s ∈ sc.manager.stations, s.index ∈ sc.attached ↔ Watched server s
  has_iff : ∀ x, server.Has sc.contents x ↔ ∃ s ∈ sc.manager.stations, Exhibits server s x
  faithful : Faithful server sc.manager sc.contents (Due []) sc.client

namespace Mirrors

variable {config : Config} {sc : Scene σ} {s : Station}

theorem apart (h : Mirrors server config sc) (there : s ∈ sc.manager.stations)
    (x : String × Object) (other : Others server sc.manager s x) :
    Station.Elsewhere config s x := by
  obtain ⟨u, listed, apart, _, shows⟩ := other
  have named := (h.sound u listed).named
  exact ⟨u, u.known, named, named.owns, shows,
    fun same => apart (named.index_eq (h.sound s there).named same)⟩

/-- The objects are those of a station and those of the others. -/
theorem has_iff_of_mem (h : Mirrors server config sc) (there : s ∈ sc.manager.stations)
    (x : String × Object) :
    server.Has sc.contents x ↔ Others server sc.manager s x ∨ Exhibits server s x := by
  rw [h.has_iff]
  constructor
  · rintro ⟨u, listed, shows⟩
    by_cases same : u.index = s.index
    · obtain rfl := h.ascending.eq_of_index listed there same
      exact .inr shows
    · exact .inl ⟨u, listed, same, shows⟩
  · rintro (⟨u, listed, _, shows⟩ | shows)
    · exact ⟨u, listed, shows⟩
    · exact ⟨s, there, shows⟩

theorem shown (h : Mirrors server config sc) :
    ∀ x, server.Has sc.contents x → Station.Shown config x := by
  intro x listed
  obtain ⟨s, there, _, shows⟩ := (h.has_iff x).1 listed
  exact (h.sound s there).named.shown shows

/-- Every object is of a station that is managed. -/
theorem exists_station (h : Mirrors server config sc) (lawful : server.Lawful) {path : String}
    {role : Role} {o : Object} (found : server.object? sc.contents path role = some o) :
    ∃ s ∈ sc.manager.stations, s.index = o.index ∧ s.pumps ≠ [] ∧
      (role = .device → path = s.path) ∧ ∀ index network, o = .network index network →
        network = path := by
  obtain ⟨has, rfl⟩ := lawful.object?_eq_some_iff.1 found
  obtain ⟨s, there, watched, shows⟩ := (h.has_iff _).1 has
  exact ⟨s, there, shows.index_eq.symm, watched.1, shows.path_own⟩

/-! ### Stations that change in place -/

/-- A station is written over by one with its name and its index. -/
structure Replaces (sc : Scene σ) (m' : Manager) (s s' : Station) : Prop where
  found : sc.manager.station? s.index = some s
  own_eq : s'.own = s.own
  config_eq : m'.config = sc.manager.config
  stations_eq : m'.stations = (sc.manager.put s').stations

namespace Replaces

variable {m' : Manager} {s' : Station} (r : Replaces sc m' s s')

include r

theorem there : s ∈ sc.manager.stations :=
  Manager.mem_of_station? r.found

theorem index_eq : s'.index = s.index :=
  congrArg Station.Own.index r.own_eq

theorem path_eq : s'.path = s.path :=
  congrArg Station.Own.path r.own_eq

theorem mem_iff {u : Station} :
    u ∈ m'.stations ↔ u = s' ∨ u ∈ sc.manager.stations ∧ u.index ≠ s.index := by
  rw [r.stations_eq, Manager.mem_put ⟨s, r.there, r.index_eq.symm⟩, r.index_eq]

theorem ascending (h : Mirrors server config sc) : m'.Ascending := by
  rw [Manager.Ascending, r.stations_eq, Manager.indexes_put]
  exact h.ascending

theorem found' (h : Mirrors server config sc) : m'.station? s.index = some s' :=
  (r.ascending h).station?_eq_some_iff.2 ⟨r.mem_iff.2 (.inl rfl), r.index_eq⟩

theorem others (h : Mirrors server config sc) (index : Nat) (apart : index ≠ s.index) :
    m'.station? index = sc.manager.station? index := by
  refine h.ascending.station?_congr (r.ascending h) fun u here => ?_
  rw [r.mem_iff]
  constructor
  · rintro (rfl | ⟨listed, _⟩)
    · exact absurd (here.symm.trans r.index_eq) apart
    · exact listed
  · intro listed
    exact .inr ⟨listed, here ▸ apart⟩

/-- What is to be read anew is signalled by these events. -/
theorem faithful (lawful : server.Lawful) (h : Mirrors server config sc) {events : List Forwarded}
    (told : s.pumps ≠ [] → ∀ x : Station.Subject, x.read s'.properties ≠ x.read s.properties →
      ∃ f ∈ events, f.device = s.path ∧ f.event = x.event) :
    Faithful server m' sc.contents (Due events) sc.client := by
  by_cases watched : s.pumps = []
  · refine (h.faithful.congr fun path role o there _ => ?_).mono (by simp [Due])
    obtain ⟨u, listed, index, shown, _⟩ := h.exists_station lawful there
    refine r.others h o.index fun same => shown ?_
    obtain rfl := h.ascending.eq_of_index listed r.there (index.trans same)
    exact watched
  · refine h.faithful.turned lawful r.found (r.found' h) (r.others h) ?_ (told watched)
    intro path role o there here
    obtain ⟨u, listed, index, _, own⟩ := h.exists_station lawful there
    obtain rfl := h.ascending.eq_of_index listed r.there (index.trans here)
    exact own

end Replaces

/-- A station has changed in place, and so have the objects and what the client holds. -/
theorem replaced (h : Mirrors server config sc) {m' : Manager} {s' : Station} {contents' : σ}
    {attached' : Finset Nat} {client' : Client} (r : Replaces sc m' s s')
    (sound : s'.Sound config)
    (others : ∀ index, index ≠ s.index → (index ∈ attached' ↔ index ∈ sc.attached))
    (attached : s.index ∈ attached' ↔ Watched server s')
    (has_iff : ∀ x, server.Has contents' x ↔
      Others server sc.manager s x ∨ Exhibits server s' x)
    (faithful : Faithful server m' contents' (Due []) client') :
    Mirrors server config ⟨m', contents', attached', client'⟩ where
  config_eq := r.config_eq.trans h.config_eq
  ascending := r.ascending h
  sound u listed := by
    rcases r.mem_iff.1 listed with rfl | ⟨listed, _⟩
    · exact sound
    · exact h.sound u listed
  managed index listed := by
    by_cases here : index = s.index
    · exact ⟨s', r.mem_iff.2 (.inl rfl), r.index_eq.trans here.symm⟩
    · obtain ⟨u, there, rfl⟩ := h.managed index ((others index here).1 listed)
      exact ⟨u, r.mem_iff.2 (.inr ⟨there, here⟩), rfl⟩
  attached_iff u listed := by
    rcases r.mem_iff.1 listed with rfl | ⟨listed, apart⟩
    · rw [r.index_eq]
      exact attached
    · rw [others u.index apart]
      exact h.attached_iff u listed
  has_iff x := by
    rw [has_iff]
    constructor
    · rintro (⟨u, listed, apart, shows⟩ | shows)
      · exact ⟨u, r.mem_iff.2 (.inr ⟨listed, apart⟩), shows⟩
      · exact ⟨s', r.mem_iff.2 (.inl rfl), shows⟩
    · rintro ⟨u, listed, shows⟩
      rcases r.mem_iff.1 listed with rfl | ⟨listed, apart⟩
      · exact .inr shows
      · exact .inl ⟨u, listed, apart, shows⟩
  faithful := faithful

/-- The objects that a station shows, beside those of the others. -/
theorem kept (h : Mirrors server config sc) (there : s ∈ sc.manager.stations)
    (watched : s.pumps ≠ []) :
    Station.Kept server config s (Others server sc.manager s) s.known sc.contents where
  named := (h.sound s there).named
  own := (h.sound s there).named.owns
  apart := h.apart there
  has_iff x := by
    rw [h.has_iff_of_mem there, Exhibits, Watched, and_iff_right watched]

/-! ### Steps -/

variable (lawful : server.Lawful)

include lawful

/-- The pump follows the events of a station, watched or not, and the client follows the pump. -/
theorem pumped (h : Mirrors server config sc) (there : s ∈ sc.manager.stations)
    {turn : Station.Turn} (course : turn.OnCourse s.view false) {m' : Manager}
    (faithful : Faithful server m' sc.contents (Due (s.forwards turn)) sc.client) :
    let contents := server.pumped m' (s.forwards turn) sc.contents
    (∀ x, server.Has contents x ↔
        Others server sc.manager s x ∨ Watched server s ∧ s.Shows turn.station.known x) ∧
      (∀ x, server.Has contents x → Station.Shown config x) ∧
      Faithful server m' contents (Due [])
        (sc.client.attend server m' (s.forwards turn) sc.contents) := by
  have sound := h.sound s there
  by_cases watched : s.pumps = []
  · rw [s.forwards_of_unwatched watched] at faithful ⊢
    refine ⟨fun x => ?_, h.shown, faithful⟩
    refine (h.has_iff_of_mem there x).trans (or_congr_right ?_)
    simp [Exhibits, Watched, watched]
  · obtain ⟨kept, faithful⟩ := (h.kept there watched).pumped lawful (course.sends sound) faithful
    rw [course.foldl_keep sound.named.settled watched] at kept
    refine ⟨fun x => ?_, fun _ => kept.shown, faithful⟩
    rw [Watched, and_iff_right watched]
    exact kept.has_iff x

/-- A station takes a turn, and the pump follows. -/
theorem turn (h : Mirrors server config sc) {turn : Station.Turn} {t : Manager.Turn}
    (r : Replaces sc t.manager s turn.station) (took : s.Took turn)
    (log : forwarded t.log = s.forwards turn) : Mirrors server config (sc.follow server t) := by
  have sound := h.sound s r.there
  have due : Faithful server t.manager sc.contents (Due (s.forwards turn)) sc.client :=
    r.faithful lawful h fun watched _ other => took.course.due sound watched other
  have same : Watched server turn.station ↔ Watched server s := by
    rw [Watched, Watched, took.pumps_eq, r.path_eq]
  obtain ⟨has, _, faithful⟩ := h.pumped lawful r.there took.course due
  rw [Scene.follow, Server.drain_fst, log]
  refine h.replaced r (took.sound sound) (fun _ _ => .rfl) ?_ (fun x => ?_) faithful
  · rw [same]
    exact h.attached_iff s r.there
  · rw [has, Exhibits, same, Station.shows_congr took.own_eq]

/-- Whatever a managed station is made to do. -/
theorem act (h : Mirrors server config sc) {α : Type} (index : Nat)
    {act : Station.Turn → α × Station.Turn}
    (took : ∀ s ∈ sc.manager.stations, s.Took (act { station := s }).2) :
    Mirrors server config (sc.turn server index act) := by
  rw [Scene.turn, Manager.withStation?_eq]
  cases found : sc.manager.station? index with
  | none => exact h
  | some s =>
    obtain rfl := Manager.index_of_station? found
    have took := took s (Manager.mem_of_station? found)
    refine h.turn lawful ⟨found, took.own_eq, rfl, rfl⟩ took ?_
    exact Station.forwarded_absorb { manager := sc.manager } s _

theorem dispatch (h : Mirrors server config sc) (env : Manager.Surroundings) (index : Nat)
    (notification : Notification) :
    Mirrors server config (sc.step server env (.dispatch index notification)) := by
  let idle : Manager.Turn := { manager := sc.manager }
  rw [Scene.step]
  cases found : sc.manager.station? index with
  | none =>
    rw [Manager.Turn.dispatch, found]
    exact h
  | some s =>
    have there := Manager.mem_of_station? found
    obtain rfl := Manager.index_of_station? found
    have sound := h.sound s there
    have took : s.Took (s.step (env.at s.index) (.notify notification)).2 :=
      .step sound.linked sound.named.settled _ _ rfl
    have manager := Manager.Turn.manager_dispatch idle s.index env notification found
    refine h.turn lawful ⟨found, took.own_eq, ?_, ?_⟩ took ?_
    · exact (congrArg Manager.config manager).trans rfl
    · exact congrArg Manager.stations manager
    · have forwarded_absorb := Station.forwarded_absorb idle s
      rw [Manager.Turn.dispatch, found]
      simp only
      split
      · exact (Station.forwarded_announce ..).trans (forwarded_absorb _)
      · exact (Station.forwarded_announce ..).trans (forwarded_absorb _)
      · exact forwarded_absorb _

/-- A new interface is shown to nobody. -/
theorem add (h : Mirrors server config sc) (env : Manager.Surroundings) (i : Interface) :
    Mirrors server config (sc.step server env (.add i)) := by
  rw [Scene.step]
  rcases sc.manager.add_cases i with ⟨new, outcome⟩ | ⟨_, outcome⟩
  · rw [outcome]
    let s := Station.new i sc.manager.config
    have fresh := Manager.station?_eq_none_iff.1 new
    let m' := { sc.manager with stations := Manager.insertStation s sc.manager.stations }
    have changed : Manager.Changed sc.manager m' := .added i new rfl
    have ascending : m'.Ascending := changed.ascending h.ascending
    refine ⟨h.config_eq, ascending, ?_, ?_, ?_, ?_, ?_⟩
    · intro u listed
      rcases Manager.mem_insertStation.1 listed with rfl | listed
      · refine ⟨?_, .of_none rfl (by simp [Station.new]) (by simp [Station.new]), ?_⟩
        · exact h.config_eq ▸ Station.Named.new _ i
        · exact fun d pump => absurd pump List.not_mem_nil
      · exact h.sound u listed
    · intro index listed
      obtain ⟨u, there, same⟩ := h.managed index listed
      exact ⟨u, Manager.mem_insertStation.2 (.inr there), same⟩
    · intro u listed
      rcases Manager.mem_insertStation.1 listed with rfl | listed
      · refine iff_of_false (fun shown => ?_) fun watched => watched.1 rfl
        obtain ⟨u, there, same⟩ := h.managed _ shown
        exact fresh u there same
      · exact h.attached_iff u listed
    · intro x
      rw [h.has_iff]
      constructor
      · rintro ⟨u, listed, shows⟩
        exact ⟨u, Manager.mem_insertStation.2 (.inr listed), shows⟩
      · rintro ⟨u, listed, shows⟩
        rcases Manager.mem_insertStation.1 listed with rfl | listed
        · exact absurd rfl shows.1.1
        · exact ⟨u, listed, shows⟩
    · refine h.faithful.congr fun path role o there _ => ?_
      obtain ⟨u, listed, index, _⟩ := h.exists_station lawful there
      refine h.ascending.station?_congr ascending fun v here => ?_
      refine Manager.mem_insertStation.trans (or_iff_right ?_)
      rintro rfl
      exact fresh u listed (index.trans here.symm)
  · rw [outcome]
    exact h

end Mirrors

end Bus

end WirelessStation
