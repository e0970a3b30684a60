import WirelessStation.Bus.Tree

/-! # Method calls

A call names a path, an interface and a member.  Some members only read; these are answered at once.
The others ask a station for something.  A request that fails is answered at once with its failure;
after one that is accepted the caller may have to wait for the reply.

An object only says what a member of its interface asks for (`Object.serve`); which object a call
reaches is up to the object server.  The tree answers also for the interfaces that the bus itself
provides (`Tree.serve`).  The one through which clients find out that somebody is there serves every
path, also where there is no node. -/

namespace WirelessStation.Bus

structure Call where
  path : String
  interface : String
  member : String
  /-- The interface that a read of properties is about. -/
  subject : String := ""
  /-- The property to be read. -/
  property : String := ""
deriving DecidableEq, Repr

/-- What a caller is told in the end. -/
inductive Reply where
  /-- It is done.  This stands also for the descriptions that the bus itself gives. -/
  | done
  | failed (f : Failure)
  /-- The networks in range, best first. -/
  | networks (list : List Network.Summary)
  | value (v : Value)
  | values (list : List (String × Value))
deriving DecidableEq, Repr

def Reply.ofResult : Result → Reply
  | .ok () => done
  | .error e => failed (.ofError e)

/-- What a station can be asked for over the bus. -/
inductive Order where
  | scan
  /-- Ends the connection, and autoconnect with it. -/
  | disconnect
  | pushButton
  | cancel
  | connect (network : String)
  | setPowered (on : Bool)
deriving DecidableEq, Repr

/-- Lets a station carry out an order for a caller. -/
def Order.run (env : Station.Surroundings) (caller : Requester) (order : Order)
    (t : Station.Turn) : Result × Station.Turn :=
  match order with
  | scan => t.scan env caller
  | disconnect => (t.setAutoconnect false).disconnect env (some caller)
  | pushButton => t.pushButton env caller
  | cancel => t.cancelEnrollment
  | connect network => t.connectNetwork env network (some caller)
  | setPowered on => t.setPowered env on caller

/-- Whether the caller waits for the end of an accepted order. -/
def Order.isAwaited : Order → Bool
  | cancel => false
  | _ => true

/-- How a call is served. -/
inductive Task where
  | answer (r : Reply)
  /-- The station with an index is given an order. -/
  | order (index : Nat) (order : Order)
deriving DecidableEq, Repr

/-- Reads one property of what provides an interface. -/
def Provider.read (m : Manager) (property : String) : Provider → Except Failure Value
  | bus => .error (.unknownProperty property)
  | object o => o.read m property

/-- Reads all properties that can be read. -/
def Provider.readAll (m : Manager) : Provider → List (String × Value)
  | bus => []
  | object o => o.readable m

/-- How an object serves a member of its interface. -/
def Object.serve (m : Manager) (o : Object) (member : String) : Task :=
  match o, member with
  | .device index, "Scan" => .order index .scan
  | .device index, "Disconnect" => .order index .disconnect
  | .device index, "GetOrderedNetworks" =>
    match m.station? index with
    | none => .answer (.failed (.missingStation index))
    | some s => .answer (.networks s.orderedNetworks)
  | .enrollment index, "PushButton" => .order index .pushButton
  | .enrollment index, "Cancel" => .order index .cancel
  | .network index path, "Connect" => .order index (.connect path)
  | _, _ => .answer (.failed (.unknownMethod member))

/-- The order that writing a property of an object is, and for which station.  Only whether a device
is powered can be written. -/
def Object.write? (o : Object) (property : String) (on : Bool) : Option (Nat × Order) :=
  match o, property with
  | .device index, "Powered" => some (index, .setPowered on)
  | _, _ => none

/-- The reply to a member of the interface that serves every path. -/
def servePeer (member : String) : Except Failure Reply :=
  if member = "Ping" ∨ member = "GetMachineId" then .ok .done else .error (.unknownMethod member)

/-- The reply to a member of the interfaces that the bus itself provides at a node. -/
def Tree.serveBus (m : Manager) (t : Tree) (p : Place) (c : Call) : Except Failure Reply :=
  if c.interface = busInterface "Properties" ∧ c.member = "Get" then do
    return .value (← (← t.provider p c.subject).read m c.property)
  else if c.interface = busInterface "Properties" ∧ c.member = "GetAll" then do
    return .values ((← t.provider p c.subject).readAll m)
  else if c.interface = busInterface "Introspectable" ∧ c.member = "Introspect" then .ok .done
  else .error (.unknownMethod c.member)

/-- How a call is served. -/
def Tree.serve (m : Manager) (t : Tree) (c : Call) : Task :=
  let task : Except Failure Task := do
    if c.interface = busInterface "Peer" then return .answer (← servePeer c.member)
    let p ← t.node c.path
    match ← t.provider p c.interface with
    | .bus => return .answer (← t.serveBus m p c)
    | .object o => return o.serve m c.member
  match task with
  | .ok task => task
  | .error f => .answer (.failed f)

/-- How writing a property is served. -/
def Tree.serveWrite (t : Tree) (path interface property : String) (on : Bool) :
    Except Failure (Nat × Order) := do
  let p ← t.node path
  match ← t.provider p interface with
  | .bus => .error (.unknownProperty property)
  | .object o =>
    match o.write? property on with
    | none => .error (.unknownProperty property)
    | some order => return order

end WirelessStation.Bus
