import WirelessStation.Station.Basic

/-! # What watchers see of a station

A watcher hears events, and when it hears one it may look at the properties (`Telling`).  What there
is for it to see is the `View` of a station.

A view changes by strokes.  Each `Stroke` is one change and the events that tell of it, which are
told once the change is in place; and every way in which a view changes is here, except that the
interface comes up or goes down.  That is told last, after all that it entails, and so a `Course` of
strokes keeps account of whether a change of power is yet to be told. -/

namespace WirelessStation.Station

namespace State

/-- Whether a state may be followed by another one. -/
def leadsTo : State → State → Bool
  | off, disconnected | off, autoconnect => true
  | disconnected, autoconnect | disconnected, connecting => true
  | autoconnect, disconnected | autoconnect, connecting => true
  | connecting, connected | connecting, disconnecting | connecting, disconnected => true
  | connected, disconnecting | connected, disconnected => true
  | disconnecting, disconnected => true
  | off, off => false
  | _, off => true
  | _, _ => false

theorem leadsTo_off {s : State} (up : s ≠ off) : s.leadsTo off := by
  cases s <;> simp_all [leadsTo]

theorem leadsTo_connecting {s : State} (up : s ≠ off) (idle : s.isConnectedSide = false) :
    s.leadsTo connecting := by
  cases s <;> simp_all [leadsTo, isConnectedSide, place]

/-- The events that tell of a transition. -/
def entering (old new : State) : List Event :=
  (if old.externallyDistinct new then [.propertyChanged .state] else []) ++ [.stateChanged old new]

end State

/-- What there is to see of a station. -/
structure View where
  /-- The name that the names of networks begin with. -/
  device : String
  name : String
  state : State
  scanning : Bool
  /-- The network that the station connects to or is connected to. -/
  connected : Option String
  /-- The paths of the networks. -/
  paths : List String

def view (s : Station) : View where
  device := s.catalogue.device
  name := s.name
  state := s.state
  scanning := s.scanning
  connected := s.connectedNetwork
  paths := s.catalogue.networks.map (·.path)

/-- An event, and the properties that a watcher sees when it hears it. -/
structure Telling where
  event : Event
  shown : Properties

namespace View

def properties (v : View) : Properties where
  name := v.name
  connectedNetwork := v.connected
  powered := v.state != .off
  scanning := v.scanning
  state := v.state.busText

/-- Events that are told while there is this to see. -/
def tell (v : View) (events : List Event) : List Telling :=
  events.map fun event => ⟨event, v.properties⟩

theorem events_tell (v : View) (events : List Event) : (v.tell events).map (·.event) = events := by
  simp [tell, Function.comp_def]

end View

theorem properties_view (s : Station) : s.view.properties = s.properties := rfl

/-- One change of a view, with the properties at each moment of it and the events that tell of it.
-/
inductive Stroke : View → List Properties → List Event → View → Prop
  | renamed {v : View} (name : String) (new : v.name ≠ name) :
      Stroke v [View.properties { v with name }] [.propertyChanged .name] { v with name }
  | scanning {v : View} (scanning : Bool) (new : v.scanning ≠ scanning) :
      Stroke v [View.properties { v with scanning }] [.propertyChanged .scanning]
        { v with scanning }
  | registrarFound {v : View} (a : Address) : Stroke v [v.properties] [.registrarFound a] v
  | entered {v : View} {new : State} (leads : v.state.leadsTo new) (up : v.state ≠ .off)
      (on : new ≠ .off) :
      Stroke v [View.properties { v with state := new }] (v.state.entering new)
        { v with state := new }
  /-- The connection is let go, while its network is still there. -/
  | released {v : View} {network : String} (held : v.connected = some network)
      (there : network ∈ v.paths) :
      Stroke v [View.properties { v with connected := none }]
        [.propertyChanged .connectedNetwork, .networkConnectedChanged network]
        { v with connected := none }
  /-- An attempt at a network that is there. -/
  | began {v : View} {network : String} (leads : v.state.leadsTo .connecting) (up : v.state ≠ .off)
      (free : v.connected = none) (there : network ∈ v.paths) :
      Stroke v
        [View.properties { v with connected := some network },
          View.properties { v with connected := some network },
          View.properties { v with state := .connecting, connected := some network }]
        (v.state.entering .connecting ++
          [.propertyChanged .connectedNetwork, .networkConnectedChanged network])
        { v with state := .connecting, connected := some network }
  /-- Networks come and others go, the one in use not among them. -/
  | relisted {v : View} {added removed : List String} (reason : RemovalReason)
      (fresh : (v.paths ++ added).Nodup) (gone : removed.Sublist v.paths)
      (kept : ∀ network, v.connected = some network → network ∉ removed)
      (named : ∀ path ∈ added, ∃ ssid security, path = networkPath v.device ssid security) :
      Stroke v [v.properties]
        (added.map .networkAdded ++ removed.map fun path => .networkRemoved path reason)
        { v with paths := (v.paths ++ added).filter fun path => path ∉ removed }

/-- Strokes one after the other from a view, with everything that is told and the properties at
every moment.  The flag says whether the interface has come up or gone down without that being told
yet. -/
inductive Course (v : View) : Bool → List Telling → List Properties → View → Prop
  | start : Course v false [] [] v
  /-- Something changes that there is not to see. -/
  | aside {due : Bool} {told : List Telling} {moments : List Properties} {u : View}
      (c : Course v due told moments u) : Course v due told (moments ++ [u.properties]) u
  | stroke {due : Bool} {told : List Telling} {moments more : List Properties} {u w : View}
      {events : List Event} (c : Course v due told moments u) (s : Stroke u more events w) :
      Course v due (told ++ w.tell events) (moments ++ more) w
  | turned {told : List Telling} {moments : List Properties} {u : View} {new : State}
      (c : Course v false told moments u) (leads : u.state.leadsTo new)
      (power : u.state = .off ∨ new = .off) :
      Course v true (told ++ View.tell { u with state := new } (u.state.entering new))
        (moments ++ [View.properties { u with state := new }]) { u with state := new }
  | powered {told : List Telling} {moments : List Properties} {u : View}
      (c : Course v true told moments u) :
      Course v false (told ++ u.tell [.propertyChanged .powered]) moments u

/-- A course that goes on from where another one ended. -/
theorem Course.trans {u v w : View} {due : Bool} {told told' : List Telling}
    {moments moments' : List Properties} (c : Course u false told moments v)
    (d : Course v due told' moments' w) : Course u due (told ++ told') (moments ++ moments') w := by
  induction d with
  | start => rwa [List.append_nil, List.append_nil]
  | aside _ ih =>
    rw [← List.append_assoc]
    exact ih.aside
  | stroke _ s ih =>
    rw [← List.append_assoc, ← List.append_assoc]
    exact ih.stroke s
  | turned _ leads power ih =>
    rw [← List.append_assoc, ← List.append_assoc]
    exact ih.turned leads power
  | powered _ ih =>
    rw [← List.append_assoc]
    exact ih.powered

end WirelessStation.Station
