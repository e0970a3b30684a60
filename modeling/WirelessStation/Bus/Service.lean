import WirelessStation.Bus.Server

/-! # Showing interfaces on the bus

The pump turns what stations announce into objects that come and go and into signals, in order.  It
does not matter to it whether the server refuses.

Attaching an interface lets the pump watch its station, and registers its device, its enrollment and
every network in range; from then on the pump keeps the networks.  Releasing an interface ends its
station, lets the pump follow that, and takes its objects away. -/

namespace WirelessStation.Bus

variable {σ : Type}

namespace Server

variable (server : Server σ)

/-- Follows one event of the interface with an index, whose device is at a path. -/
def follow (m : Manager) (index : Nat) (device : String) (event : Station.Event) (t : σ) :
    σ × List Signal :=
  match event with
  | .propertyChanged property => (t, server.signals m t device .device property.label)
  | .networkConnectedChanged path => (t, server.signals m t path .network "Connected")
  | .networkAdded path => ((server.register path (.network index path) t).2, [])
  | .networkRemoved path _ => ((server.withdraw path .network t).2, [])
  | .stateChanged _ _ | .registrarFound _ => (t, [])

/-- Follows everything that the pump was told, in order. -/
def drain (m : Manager) : List Manager.Notice → σ → σ × List Signal
  | [], t => (t, [])
  | .told index (.pump device) event :: log, t =>
    let (t, sent) := server.follow m index device event t
    let (t, more) := drain m log t
    (t, sent ++ more)
  | _ :: log, t => drain m log t

/-- Registers objects one after the other, up to the first that is refused. -/
def registerAll : List (String × Object) → σ → Except String Unit × σ
  | [], t => (.ok (), t)
  | (path, o) :: rest, t =>
    match server.register path o t with
    | (.error text, t) => (.error text, t)
    | (.ok (), t) => registerAll rest t

end Server

/-- The objects of a station, with their paths. -/
def objectsOf (s : Station) : List (String × Object) :=
  [(s.path, .device s.index), (s.path, .enrollment s.index)] ++
    s.orderedNetworks.map fun n => (n.path, .network s.index n.path)

variable (server : Server σ)

/-- Shows an interface that is managed. -/
def attach (index : Nat) (contents : σ) (t : Manager.Turn) : Result × σ × Manager.Turn :=
  let watched := t.withStation? index fun turn =>
    (turn.station, turn.subscribe (.pump turn.station.path) false)
  match watched with
  | none => (.error .notFound, contents, t)
  | some (s, t) =>
    let (outcome, contents) := server.registerAll (objectsOf s) contents
    (outcome.mapError .bus, contents, t)

/-- Takes the objects of an interface away from its path. -/
def withdrawDevice (path : String) (contents : σ) : Except String Unit × σ :=
  match server.withdraw path .enrollment contents with
  | (.error text, contents) => (.error text, contents)
  | (.ok (), contents) => server.withdraw path .device contents

/-- Ends a managed interface and stops showing it. -/
def release (index : Nat) (contents : σ) (t : Manager.Turn) : Result × σ × Manager.Turn :=
  match t.manager.station? index with
  | none => (.error .notFound, contents, t)
  | some s =>
    let (_, ended) := Manager.Turn.remove index { manager := t.manager }
    let (contents, _) := server.drain ended.manager ended.log contents
    let (outcome, contents) := withdrawDevice server s.path contents
    (outcome.mapError .bus, contents, { ended with log := t.log ++ ended.log })

end WirelessStation.Bus
