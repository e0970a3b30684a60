import WirelessStation.Station.Reports

/-! # Steps of a station

`Station.step` carries out one operation: a notification of the link layer, a request, or one of the
smaller operations.  Its turn holds the station afterwards and all effects. -/

namespace WirelessStation.Station

/-- Everything that can happen to a station before it is shut down, and the shutdown. -/
inductive Operation where
  | notify (notification : Notification)
  | scan (requester : Requester)
  | connect (network : String) (address : Address) (requester : Option Requester)
  | connectNetwork (network : String) (requester : Option Requester)
  | disconnect (requester : Option Requester)
  | setPowered (on : Bool) (requester : Requester)
  | pushButton (requester : Requester)
  | cancelEnrollment
  | completeEnrollment (outcome : Except Error (List Enrollment.Credential))
  | setSecret (network : String) (settings : Settings)
  | setAutoconnect (enabled : Bool)
  | selectNext
  | subscribe (watcher : Subscriber) (hasCleanup : Bool)
  | unsubscribe (id : Nat)
  | shutdown

namespace Turn

/-- Adds a watcher. -/
def subscribe (watcher : Subscriber) (hasCleanup : Bool) (t : Turn) : Turn :=
  t.update fun s => { s with watchers := (s.watchers.add watcher hasCleanup).2 }

/-- Ends a watch; says whether there was one. -/
def unsubscribe (id : Nat) (t : Turn) : Bool × Turn :=
  let (found, watchers, due) := t.station.watchers.remove id
  (found, due.foldl (fun t w => t.record (.cleanup w)) (t.update fun s => { s with watchers }))

/-- Carries out an operation.  Those that cannot fail succeed. -/
def perform (env : Surroundings) (op : Operation) (t : Turn) : Result × Turn :=
  match op with
  | .notify notification => (.ok (), t.handle env notification)
  | .scan requester => t.scan env requester
  | .connect network address requester => t.connect env network address requester
  | .connectNetwork network requester => t.connectNetwork env network requester
  | .disconnect requester => t.disconnect env requester
  | .setPowered on requester => t.setPowered env on requester
  | .pushButton requester => t.pushButton env requester
  | .cancelEnrollment => t.cancelEnrollment
  | .completeEnrollment outcome => t.completeEnrollment outcome
  | .setSecret network settings => t.setSecret network settings
  | .setAutoconnect enabled => (.ok (), t.setAutoconnect enabled)
  | .selectNext => (.ok (), t.selectNext env)
  | .subscribe watcher hasCleanup => (.ok (), t.subscribe watcher hasCleanup)
  | .unsubscribe id => (.ok (), (t.unsubscribe id).2)
  | .shutdown => (.ok (), t.shutdown)

end Turn

/-- One operation on a station. -/
def step (env : Surroundings) (op : Operation) (s : Station) : Result × Turn :=
  Turn.perform env op { station := s }

end WirelessStation.Station
