import WirelessStation.Manager
import WirelessStation.Simulation.Store

/-! # A manager in a simulated world

A manager together with radios that refuse what they are told to refuse, a credential store in
memory and requests that are numbered in the order in which they are made.  Each step gives a
report: the answer to its command, what happened on the way, which requests were settled, and the
station that it shows as it is afterwards. -/

namespace WirelessStation.Simulation

/-- What a radio can be told to refuse. -/
inductive CallKind where
  | scan
  | connect
  | disconnect
  | power
deriving DecidableEq, Repr

/-- What the radio of one interface refuses. -/
structure Radio where
  index : Nat
  refused : List CallKind
  /-- Access points that it does not connect to. -/
  refusedTargets : List Address
deriving DecidableEq, Repr

/-- Whether the radio accepts a call. -/
def Radio.accepts (r : Radio) : LinkCall → Bool
  | .scan _ => !r.refused.contains .scan
  | .periodicScan _ => true
  | .connect o _ => !r.refused.contains .connect && !r.refusedTargets.contains o.address
  | .disconnect => !r.refused.contains .disconnect
  | .power _ => !r.refused.contains .power

/-- Who waits for the answer to a request. -/
inductive Listening where
  /-- A numbered request is made, and somebody listens. -/
  | heard
  /-- A numbered request is made, and nobody listens. -/
  | unheard
  /-- No requester is passed. -/
  | silent
deriving DecidableEq, Repr

/-- A command to one station. -/
inductive StationCommand where
  | dump
  | find (ssid : String) (security : Security)
  | observation (a : Address)
  | scan (listening : Listening)
  | connect (network : String) (address : Address) (listening : Listening)
  | connectNetwork (network : String) (listening : Listening)
  | disconnect (listening : Listening)
  | setPowered (on : Bool) (listening : Listening)
  | pushButton (listening : Listening)
  | setAutoconnect (enabled : Bool)
  | selectNext
  | setSecret (network : String) (settings : Settings)
  | cancelEnrollment
  | completeEnrollment (outcome : Except Error (List Enrollment.Credential))
  | watch (label : String) (hasCleanup : Bool)
  | unwatch (id : Nat)

inductive Command where
  | notify (index : Nat) (notification : Notification)
  | add (interface : Interface)
  | remove (index : Nat)
  | shutdown
  | stations
  | stationByPath (path : String)
  | networkByPath (path : String)
  | watch (label : String)
  | unwatch (id : Nat)
  | known
  | insert (ssid : String) (settings : Settings)
  | forget (ssid : String) (security : Security)
  | config (ssid : String) (security : Security)
  | refuse (radio : Radio)
  | station (index : Nat) (command : StationCommand)

/-- A command, and the interface whose station is looked at afterwards.  Any command can go with any
interface, also one that it does not touch. -/
structure Step where
  command : Command
  shown : Option Nat := none

inductive Answer where
  | result (r : Result)
  /-- The command was for a station that is not managed. -/
  | noStation
  | added (s : Station)
  | stations (list : List Station)
  | index (i : Option Nat)
  | network (n : Option (Nat × Network))
  | number (n : Nat)
  | flag (b : Bool)
  | known (listing : List (String × Security))
  | config (c : Config) (modifier : Option Float)
  | dump (s : Station)
  | found (n : Option Network)
  | observation (o : Option Observation)
  /-- Whether there was such a watch, and how many are left. -/
  | unwatched (found : Bool) (left : Nat)

/-- What a command brought about. -/
structure Report where
  answer : Answer
  log : List Manager.Notice
  /-- The numbered requests that were settled and that somebody listened to, by number. -/
  replies : List (Nat × Reply)
  /-- The station that the step shows, if it shows one, as it is afterwards. -/
  station : Option (Option Station)
  /-- Whether the station is to be shown in full. -/
  inFull : Bool

structure World where
  manager : Manager
  store : Store
  radios : List Radio := []
  /-- The number of the next request. -/
  nextRequest : Nat := 0
  /-- The requests that nobody listens to. -/
  unheard : List Nat := []

namespace World

def accepts (w : World) (index : Nat) (call : LinkCall) : Bool :=
  match w.radios.find? fun r => r.index == index with
  | some r => r.accepts call
  | none => true

/-- What interfaces read of this world.  Nothing in it shows the time. -/
def surroundings (w : World) : Manager.Surroundings where
  accepts index _ call := w.accepts index call
  store := w.store.source
  now := 0

/-- What a notice has the store do. -/
def storeCall? : Manager.Notice → Option StoreCall
  | .did _ (.store call) => some call
  | _ => none

/-- Takes in a turn of the manager. -/
def absorb (w : World) (t : Manager.Turn) : World :=
  { w with manager := t.manager, store := (t.log.filterMap storeCall?).foldl Store.apply w.store }

/-- A numbered request that a notice settles. -/
def reply? : Manager.Notice → Option (Nat × Reply)
  | .did _ (.answer (.request id) result) => some (id, .answered result)
  | .did _ (.drop (.request id)) => some (id, .dropped)
  | _ => none

/-- The requests that a log settles and that somebody listens to, by number. -/
def replies (w : World) (log : List Manager.Notice) : List (Nat × Reply) :=
  ((log.filterMap reply?).filter fun r => !w.unheard.contains r.1).mergeSort fun a b => a.1 ≤ b.1

/-- Makes a request, as somebody listens to it. -/
def requester (w : World) : Listening → Option Requester × World
  | .silent => (none, w)
  | .heard => (some (.request w.nextRequest), { w with nextRequest := w.nextRequest + 1 })
  | .unheard =>
    (some (.request w.nextRequest),
      { w with nextRequest := w.nextRequest + 1, unheard := w.nextRequest :: w.unheard })

/-- A request that has to have a requester. -/
def request (w : World) : Listening → Requester × World
  | .unheard =>
    (.request w.nextRequest,
      { w with nextRequest := w.nextRequest + 1, unheard := w.nextRequest :: w.unheard })
  | _ => (.request w.nextRequest, { w with nextRequest := w.nextRequest + 1 })

/-- Lets a managed station take a turn whose result is the answer. -/
def act (w : World) (index : Nat) (turn : Station.Turn → Result × Station.Turn) :
    Answer × List Manager.Notice × World :=
  match Manager.Turn.withStation? index turn { manager := w.manager } with
  | none => (.noStation, [], w)
  | some (result, t) => (.result result, t.log, w.absorb t)

/-- Carries out a command to a station that is managed. -/
def performAt (w : World) (s : Station) (index : Nat) (command : StationCommand) :
    Answer × List Manager.Notice × World :=
  let env := w.surroundings.at index
  match command with
  | .dump => (.dump s, [], w)
  | .find ssid security => (.found (s.catalogue.find? ssid security), [], w)
  | .observation a => (.observation (s.catalogue.observation? a), [], w)
  | .scan listening =>
    let (r, w) := w.request listening
    w.act index fun t => t.scan env r
  | .connect network address listening =>
    let (r, w) := w.requester listening
    w.act index fun t => t.connect env network address r
  | .connectNetwork network listening =>
    let (r, w) := w.requester listening
    w.act index fun t => t.connectNetwork env network r
  | .disconnect listening =>
    let (r, w) := w.requester listening
    w.act index fun t => t.disconnect env r
  | .setPowered on listening =>
    let (r, w) := w.request listening
    w.act index fun t => t.setPowered env on r
  | .pushButton listening =>
    let (r, w) := w.request listening
    w.act index fun t => t.pushButton env r
  | .setAutoconnect enabled => w.act index fun t => (.ok (), t.setAutoconnect enabled)
  | .selectNext => w.act index fun t => (.ok (), t.selectNext env)
  | .setSecret network settings => w.act index fun t => t.setSecret network settings
  | .cancelEnrollment => w.act index fun t => t.cancelEnrollment
  | .completeEnrollment outcome => w.act index fun t => t.completeEnrollment outcome
  | .watch label hasCleanup =>
    let (_, log, after) := w.act index fun t => (.ok (), t.subscribe (.client label) hasCleanup)
    (.number s.watchers.nextId, log, after)
  | .unwatch id =>
    let (found, watchers, _) := s.watchers.remove id
    let (_, log, after) := w.act index fun t => (.ok (), (t.unsubscribe id).2)
    (.unwatched found watchers.size, log, after)

/-- Adds an interface with a first watcher. -/
def addInterface (w : World) (i : Interface) : Answer × World :=
  match w.manager.add i with
  | .error e => (.result (.error e), w)
  | .ok manager =>
    let w := { w with manager, radios := w.radios.filter fun r => r.index != i.index }
    let (_, _, w) := w.act i.index fun t => (.ok (), t.subscribe (.client "main") false)
    match w.manager.station? i.index with
    | some s => (.added s, w)
    | none => (.noStation, w)

/-- Carries out a command, without the report around it. -/
def run (w : World) (command : Command) : Answer × List Manager.Notice × World :=
  let idle : Manager.Turn := { manager := w.manager }
  match command with
  | .notify index notification =>
    let (result, t) := idle.dispatch w.surroundings index notification
    (.result result, t.log, w.absorb t)
  | .add i =>
    let (answer, w) := w.addInterface i
    (answer, [], w)
  | .remove index =>
    let (result, t) := idle.remove index
    (.result result, t.log, w.absorb t)
  | .shutdown => (.result (.ok ()), idle.shutdown.log, w.absorb idle.shutdown)
  | .stations => (.stations w.manager.stations, [], w)
  | .stationByPath path => (.index ((w.manager.stationByPath? path).map (·.index)), [], w)
  | .networkByPath path => (.network (w.manager.networkByPath? path), [], w)
  | .watch label =>
    let (id, watchers) := w.manager.watchers.add label
    (.number id, [], { w with manager := { w.manager with watchers } })
  | .unwatch id =>
    let (found, watchers, _) := w.manager.watchers.remove id
    (.flag found, [], { w with manager := { w.manager with watchers } })
  | .known => (.known w.store.known.listing, [], w)
  | .insert ssid settings =>
    (.result (.ok ()), [], { w with store := w.store.insert ssid settings })
  | .forget ssid security =>
    (.flag (w.store.known.contains ssid security), [],
      { w with store := w.store.erase ssid security })
  | .config ssid security =>
    (.config w.manager.config (w.store.rankModifier ssid security), [], w)
  | .refuse radio =>
    let others := w.radios.filter fun r => r.index != radio.index
    let radios := if (w.manager.station? radio.index).isSome then radio :: others else others
    (.result (.ok ()), [], { w with radios })
  | .station index command =>
    match w.manager.station? index with
    | none => (.noStation, [], w)
    | some s => w.performAt s index command

/-- Whether a command is one after which the station is shown in full. -/
def isShownInFull : Command → Bool
  | .notify _ (.scanResults _) => true
  | _ => false

/-- Carries out a step. -/
def perform (w : World) (step : Step) : Report × World :=
  let (answer, log, after) := w.run step.command
  ({ answer, log, replies := after.replies log
     station := step.shown.map after.manager.station?
     inFull := isShownInFull step.command }, after)

/-- Carries out steps in order. -/
def performAll (w : World) : List Step → List Report × World
  | [] => ([], w)
  | step :: rest =>
    let (report, w) := w.perform step
    let (reports, w) := w.performAll rest
    (report :: reports, w)

/-- Releases everything; gives what happened and which requests were settled. -/
def finish (w : World) : List Manager.Notice × List (Nat × Reply) :=
  let t := Manager.Turn.shutdown { manager := w.manager }
  (t.log, w.replies t.log)

/-- A world without interfaces. -/
def new (config : Config) (store : Store) : World :=
  { manager := { config }, store }

end World

end WirelessStation.Simulation
