import WirelessStation.Station.Step

/-! # The manager of all interfaces

A manager owns one station for each interface, by ascending index.  It hands notifications to the
station that they concern, and tells its own watchers when an interface comes up or goes away.  What
happens is kept as a list of notices in order: the effects of stations, each event once for each
watcher, and what the watchers of interfaces hear. -/

namespace WirelessStation

/-- What watchers of interfaces hear. -/
inductive DeviceEvent where
  /-- The interface came up. -/
  | inserted (index : Nat)
  /-- The interface went down or away. -/
  | removed (index : Nat)
deriving DecidableEq, Repr

structure Manager where
  config : Config
  /-- By ascending index. -/
  stations : List Station := []
  watchers : Watchlist String := {}
deriving Repr

namespace Manager

/-- One thing that happened. -/
inductive Notice where
  /-- An effect of a station, other than an announcement. -/
  | did (index : Nat) (effect : Station.Effect)
  /-- A watcher of a station hears of an event. -/
  | told (index : Nat) (watcher : Subscriber) (event : Station.Event)
  | device (watcher : String) (event : DeviceEvent)

/-- What all interfaces read of the world outside. -/
structure Surroundings where
  /-- The answers of the link layer of each interface. -/
  accepts : Nat → List Station.Effect → LinkCall → Bool
  store : CredentialSource
  now : Moment
  /-- Lists the suites of the elements that are sent. -/
  lister : Bits.Lister := .standard
  /-- Names the interfaces that enroll. -/
  namer : Uuid.Namer := .standard

/-- What one interface reads of it. -/
def Surroundings.at (env : Surroundings) (index : Nat) : Station.Surroundings :=
  ⟨env.accepts index, env.store, env.now, env.lister, env.namer⟩

/-- The notices of an effect, for the watchers that a station has. -/
def notices (index : Nat) (watchers : List Subscriber) : Station.Effect → List Notice
  | .announce event _ => watchers.map fun w => .told index w event
  | effect => [.did index effect]

/-- A manager and what has happened so far. -/
structure Turn where
  manager : Manager
  log : List Notice := []

/-- The station with an index. -/
def station? (m : Manager) (index : Nat) : Option Station :=
  m.stations.find? fun s => s.index == index

/-- The station with a path. -/
def stationByPath? (m : Manager) (path : String) : Option Station :=
  m.stations.find? fun s => s.path == path

/-- The network with a path, and the index of its interface. -/
def networkByPath? (m : Manager) (path : String) : Option (Nat × Network) :=
  m.stations.findSome? fun s => (s.network? path).map fun n => (s.index, n)

/-- Puts a station where its index belongs. -/
def insertStation (s : Station) : List Station → List Station
  | [] => [s]
  | t :: rest => if s.index < t.index then s :: t :: rest else t :: insertStation s rest

/-- Writes a station over the one with its index. -/
def put (m : Manager) (s : Station) : Manager :=
  { m with stations := m.stations.map fun t => if t.index = s.index then s else t }

/-- Starts managing an interface, which is off. -/
def add (m : Manager) (i : Interface) : Except Error Manager :=
  if (m.station? i.index).isSome then .error (.invalidInput (.alreadyManaged i.index))
  else .ok { m with stations := insertStation (.new i m.config) m.stations }

namespace Turn

/-- Tells every watcher of interfaces. -/
def announce (event : DeviceEvent) (t : Turn) : Turn :=
  { t with log := t.log ++ t.manager.watchers.watchers.map fun w => .device w event }

/-- Takes in what a station, as it was before, has done in a turn. -/
def absorb (before : Station) (turn : Station.Turn) (t : Turn) : Turn :=
  { manager := t.manager.put turn.station
    log := t.log ++ turn.log.flatMap (notices before.index before.watchers.watchers) }

/-- Stops managing an interface; everything that it had pending is settled. -/
def remove (index : Nat) (t : Turn) : Result × Turn :=
  match t.manager.station? index with
  | none => (.error .notFound, t)
  | some s =>
    let t := if s.isPowered then t.announce (.removed index) else t
    let t := t.absorb s (Station.Turn.shutdown { station := s })
    let stations := t.manager.stations.filter fun s => s.index != index
    (.ok (), { t with manager := { t.manager with stations } })

/-- Hands a notification to the interface that it concerns. -/
def dispatch (env : Surroundings) (index : Nat) (notification : Notification) (t : Turn) :
    Result × Turn :=
  match t.manager.station? index with
  | none => (.error .notFound, t)
  | some s =>
    let turn := Station.Turn.handle (env.at index) notification { station := s }
    let t := t.absorb s turn
    match s.isPowered, turn.station.isPowered with
    | false, true => (.ok (), t.announce (.inserted index))
    | true, false => (.ok (), t.announce (.removed index))
    | _, _ => (.ok (), t)

/-- Lets an interface take a turn; `none` if it is not managed. -/
def withStation? {α : Type} (index : Nat) (act : Station.Turn → α × Station.Turn) (t : Turn) :
    Option (α × Turn) :=
  (t.manager.station? index).map fun s =>
    let (a, turn) := act { station := s }
    (a, t.absorb s turn)

/-- Stops managing every interface, and ends every watch of interfaces. -/
def shutdown (t : Turn) : Turn :=
  let t := (t.manager.stations.map (·.index)).foldl (fun t index => (t.remove index).2) t
  { t with manager := { t.manager with watchers := t.manager.watchers.clear.1 } }

end Turn

end Manager

end WirelessStation
