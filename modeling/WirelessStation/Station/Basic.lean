import WirelessStation.Autoconnect
import WirelessStation.Catalogue.Ingest
import WirelessStation.Config
import WirelessStation.Link
import WirelessStation.Station.State
import WirelessStation.Watchlist

/-! # The station

A station is everything about one interface: its state, its catalogue, its connection, the
candidates of autoconnect and the requests that wait.  It never waits itself.  Everything that it
does to the world outside is an effect, and a turn is a station together with the effects so far, in
order.  What it reads of the world outside comes from its surroundings.

Each announcement of an event is logged with the properties as they stood at that moment: a watcher
that looks sees these.  A turn also keeps the properties after each change of the station, whether
it is announced or not. -/

namespace WirelessStation

/-- Who an interface is. -/
structure Interface where
  index : Nat
  name : String
  address : Address
  /-- The number of its radio. -/
  phy : Nat
deriving DecidableEq, Repr

/-- Who subscribes to the events of a station. -/
inductive Subscriber where
  | client (label : String)
  /-- The pump that turns events into signals on the message bus, for the interface with this path.
  -/
  | pump (device : String)
deriving DecidableEq, Repr

/-- The network and the access point that a station connects to or is connected to. -/
structure Connection where
  network : String
  address : Address
deriving DecidableEq, Repr

structure Station where
  index : Nat
  name : String
  address : Address
  path : String
  adapterPath : String
  ciphers : CipherSet
  state : Station.State := .off
  scanning : Bool := false
  autoconnect : Bool
  /-- Whether the link layer scans in the background. -/
  periodicScan : Bool := false
  catalogue : Catalogue
  connection : Option Connection := none
  /-- The attempts left of the current round of autoconnect. -/
  candidates : List Candidate := []
  pending : Pending := {}
  enrollment : Option Enrollment.Session := none
  watchers : Watchlist Subscriber := {}
deriving Repr

namespace Station

/-- A station for an interface, which is off. -/
def new (i : Interface) (config : Config) : Station :=
  let adapter := config.adapterPath i.phy
  let path := devicePath adapter i.index
  { index := i.index, name := i.name, address := i.address, path, adapterPath := adapter
    ciphers := config.supportedCiphers, autoconnect := config.autoconnect
    catalogue := { device := path } }

def isPowered (s : Station) : Bool :=
  s.state != .off

def connectedNetwork (s : Station) : Option String :=
  s.connection.map (·.network)

def connectedAddress (s : Station) : Option Address :=
  s.connection.map (·.address)

/-- Whether a connection is up, comes up or goes down, or a request to that end waits. -/
def isBusy (s : Station) : Bool :=
  s.state.isConnectedSide || s.pending.connect.isSome || s.pending.disconnect.isSome

def isEnrolling (s : Station) : Bool :=
  s.enrollment.isSome

/-- Whether the scan of an enrollment is under way. -/
def enrollmentScans (s : Station) : Bool :=
  match s.enrollment with
  | some session => session.scanning
  | none => false

def network? (s : Station) (path : String) : Option Network :=
  s.catalogue.network? path

/-- The networks in range, best first. -/
def orderedNetworks (s : Station) : List Network.Summary :=
  s.catalogue.ranked.map Network.summary

def properties (s : Station) : Properties where
  name := s.name
  connectedNetwork := s.connectedNetwork
  powered := s.isPowered
  scanning := s.scanning
  state := s.state.busText

/-- What a station does to the world outside. -/
inductive Effect where
  | link (call : LinkCall)
  | store (call : StoreCall)
  /-- Tells every watcher; with the properties at that moment. -/
  | announce (event : Event) (shown : Properties)
  | answer (requester : Requester) (result : Result)
  /-- Lets go of a requester without an answer. -/
  | drop (requester : Requester)
  /-- A watch ended whose cleanup is due. -/
  | cleanup (watcher : Subscriber)

/-- What a station reads of the world outside during one turn. -/
structure Surroundings where
  /-- Whether the link layer accepts a call, given everything done so far in this turn. -/
  accepts : List Effect → LinkCall → Bool
  store : CredentialSource
  now : Moment
  /-- Lists the suites of the elements that are sent. -/
  lister : Bits.Lister := .standard
  /-- Names the interfaces that enroll. -/
  namer : Uuid.Namer := .standard

/-- A station and what it has done so far. -/
structure Turn where
  station : Station
  log : List Effect := []
  /-- The properties after each change of the station, in order. -/
  moments : List Properties := []

namespace Turn

def record (effect : Effect) (t : Turn) : Turn :=
  { t with log := t.log ++ [effect] }

def update (change : Station → Station) (t : Turn) : Turn :=
  { t with station := change t.station, moments := t.moments ++ [(change t.station).properties] }

/-- Tells every watcher. -/
def announce (event : Event) (t : Turn) : Turn :=
  t.record (.announce event t.station.properties)

/-- Makes a call to the link layer, and says whether it was accepted. -/
def call (env : Surroundings) (c : LinkCall) (t : Turn) : Bool × Turn :=
  (env.accepts t.log c, t.record (.link c))

/-- Answers whoever waits in a slot, and empties it. -/
def reply (slot : Slot) (result : Result) (t : Turn) : Turn :=
  match t.station.pending.get slot with
  | none => t
  | some r =>
    (t.update fun s => { s with pending := s.pending.set slot none }).record (.answer r result)

/-- Lets go of a requester, if there is one. -/
def dropRequester (requester : Option Requester) (t : Turn) : Turn :=
  match requester with
  | none => t
  | some r => t.record (.drop r)

/-- Puts a requester into a slot; whoever waited there is let go. -/
def hold (slot : Slot) (requester : Option Requester) (t : Turn) : Turn :=
  (t.dropRequester (t.station.pending.get slot)).update fun s =>
    { s with pending := s.pending.set slot requester }

/-- Ends the enrollment, if there is one, with an answer. -/
def endEnrollment (result : Result) (t : Turn) : Turn :=
  match t.station.enrollment with
  | none => t
  | some session =>
    (t.update fun s => { s with enrollment := none }).record (.answer session.requester result)

/-- Switches the background scan, if it is not as wanted. -/
def setPeriodicScan (enabled : Bool) (t : Turn) : Turn :=
  if t.station.periodicScan = enabled then t
  else
    (t.update fun s => { s with periodicScan := enabled }).record (.link (.periodicScan enabled))

def setScanning (scanning : Bool) (t : Turn) : Turn :=
  if t.station.scanning = scanning then t
  else (t.update fun s => { s with scanning }).announce (.propertyChanged .scanning)

/-- Switches the background scan as a state wants it: on for autoconnect, off for the states that do
not lead to a connection by themselves and once one is up. -/
def scanFor (new : State) (t : Turn) : Turn :=
  match new with
  | .autoconnect => t.setPeriodicScan true
  | .off | .disconnected | .connected => t.setPeriodicScan false
  | .connecting | .disconnecting => t

/-- Goes to a state and announces it. -/
def enter (new : State) (t : Turn) : Turn :=
  let old := t.station.state
  let t := (t.scanFor new).update fun s => { s with state := new }
  let t := if old.externallyDistinct new then t.announce (.propertyChanged .state) else t
  t.announce (.stateChanged old new)

/-- Goes to the idle state that the autoconnect flag wants, by way of the other one. -/
def enterIdle (t : Turn) : Turn :=
  let t := t.enter .disconnected
  if t.station.autoconnect then t.enter .autoconnect else t

/-- Lets go of the connection and tells watchers. -/
def clearConnection (t : Turn) : Turn :=
  match t.station.connection with
  | none => t
  | some c =>
    ((t.update fun s => { s with connection := none }).announce
      (.propertyChanged .connectedNetwork)).announce (.networkConnectedChanged c.network)

/-- Ends a connection or an attempt. -/
def disassociate (t : Turn) : Turn :=
  t.clearConnection.enterIdle

/-- Announces changes of the catalogue. -/
def announceChanges (changes : List Catalogue.Change) (t : Turn) : Turn :=
  changes.foldl (fun t c => t.announce (.ofChange c)) t

/-- Lets go of the connection, the candidates and every network. -/
def dropCatalogue (t : Turn) : Turn :=
  let t := t.clearConnection.update fun s => { s with candidates := [] }
  let (catalogue, changes) := t.station.catalogue.clear .shutdown
  (t.announceChanges changes).update fun s => { s with catalogue }

/-- Answers everyone in the slots of scanning, connecting and disconnecting. -/
def abortRequests (t : Turn) : Turn :=
  ((t.reply .scan (.error .aborted)).reply .connect (.error .aborted)).reply .disconnect
    (.error .aborted)

end Turn

end Station

end WirelessStation
