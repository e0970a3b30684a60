import WirelessStation.Station.Basic

/-! # What may be asked of a station

Each operation either fails at once, and then leaves the station as it was, or is accepted.  A
request that is accepted is answered later; when one fails at once, its requester is let go. -/

namespace WirelessStation.Station.Turn

/-- Refuses a request. -/
def refuse (error : Error) (requester : Option Requester) (t : Turn) : Result × Turn :=
  (.error error, t.dropRequester requester)

/-- Asks for a passive scan.  Answered once the scan has started. -/
def scan (env : Surroundings) (requester : Requester) (t : Turn) : Result × Turn :=
  if t.station.state = .off then t.refuse .notAvailable requester
  else if t.station.pending.scan.isSome || t.station.enrollmentScans then
    t.refuse .busy requester
  else
    match t.call env (.scan .passive) with
    | (false, t) => t.refuse .rejected requester
    | (true, t) => (.ok (), t.hold .scan requester)

/-- The network, the observation and the context of an attempt, if it can be made at all. -/
def plan (env : Surroundings) (s : Station) (network : String) (address : Address) :
    Except Error (Observation × Option Context) :=
  match s.catalogue.network? network with
  | none => .error .notFound
  | some n =>
    if !n.hasAccessPoint address then .error .notFound
    else
      match s.catalogue.observation? address with
      | none => .error .notFound
      | some o =>
        (Context.negotiate o n.ssid n.security (n.settings env.store) s.address s.ciphers
          env.lister).map fun context => (o, context)

/-- What follows an accepted attempt. -/
def begin (network : String) (address : Address) (requester : Option Requester) (t : Turn) : Turn :=
  let t := t.update fun s => { s with connection := some ⟨network, address⟩ }
  let t := (t.hold .connect requester).enter .connecting
  (t.announce (.propertyChanged .connectedNetwork)).announce (.networkConnectedChanged network)

/-- Asks for a connection to an access point of a network.  Answered with the outcome. -/
def connect (env : Surroundings) (network : String) (address : Address)
    (requester : Option Requester) (t : Turn) : Result × Turn :=
  if t.station.state = .off then t.refuse .notAvailable requester
  else if t.station.isBusy then t.refuse .busy requester
  else
    match plan env t.station network address with
    | .error e => t.refuse e requester
    | .ok (o, context) =>
      match t.call env (.connect o context) with
      | (false, t) => t.refuse .rejected requester
      | (true, t) => (.ok (), t.begin network address requester)

/-- Asks for a connection to the best access point of a network. -/
def connectNetwork (env : Surroundings) (network : String) (requester : Option Requester)
    (t : Turn) : Result × Turn :=
  match (t.station.catalogue.network? network).bind Network.best? with
  | none => t.refuse .notFound requester
  | some best => t.connect env network best.address requester

/-- Asks for the end of the connection.  The connection is let go at once: should the disconnect
fail, the link counts as down all the same. -/
def disconnect (env : Surroundings) (requester : Option Requester) (t : Turn) : Result × Turn :=
  if t.station.state = .disconnecting || t.station.pending.disconnect.isSome then
    t.refuse .busy requester
  else if t.station.connection.isNone then t.refuse .notConnected requester
  else
    match t.call env .disconnect with
    | (false, t) => t.refuse .rejected requester
    | (true, t) => (.ok (), (t.clearConnection.enter .disconnecting).hold .disconnect requester)

/-- Asks to power the interface up or down.  Answered at once where nothing is to be done. -/
def setPowered (env : Surroundings) (on : Bool) (requester : Requester) (t : Turn) :
    Result × Turn :=
  if on = t.station.isPowered then (.ok (), t.record (.answer requester (.ok ())))
  else if t.station.pending.power.isSome then t.refuse .busy requester
  else
    match t.call env (.power on) with
    | (false, t) => t.refuse .rejected requester
    | (true, t) => (.ok (), t.hold .power requester)

/-- Asks for push-button enrollment.  Answered when it has ended. -/
def pushButton (env : Surroundings) (requester : Requester) (t : Turn) : Result × Turn :=
  if t.station.state = .off then t.refuse .notAvailable requester
  else if t.station.isEnrolling then t.refuse .busy requester
  else if t.station.pending.scan.isSome || t.station.scanning then t.refuse .busy requester
  else
    let probe := Enrollment.Probe.pushButton t.station.address env.namer
    match t.call env (.scan (.enrolling probe)) with
    | (false, t) => t.refuse .rejected requester
    | (true, t) =>
      (.ok (), t.update fun s =>
        { s with enrollment := some ⟨requester, probe, none, true⟩ })

/-- Calls an enrollment off. -/
def cancelEnrollment (t : Turn) : Result × Turn :=
  if t.station.isEnrolling then (.ok (), t.endEnrollment (.error .aborted))
  else (.error .notAvailable, t)

/-- Stores credentials. -/
def storeCredentials (credentials : List Enrollment.Credential) (t : Turn) : Turn :=
  credentials.foldl
    (fun t c => t.record (.store (.sync c.settings.security c.ssid c.settings))) t

/-- Ends an enrollment with what came of the exchange; credentials go to the store. -/
def completeEnrollment (outcome : Except Error (List Enrollment.Credential)) (t : Turn) :
    Result × Turn :=
  if t.station.isEnrolling then
    match outcome with
    | .ok credentials => (.ok (), (t.storeCredentials credentials).endEnrollment (.ok ()))
    | .error e => (.ok (), t.endEnrollment (.error e))
  else (.error .notAvailable, t)

/-- Supplies a secret for the next attempt on a network. -/
def setSecret (network : String) (settings : Settings) (t : Turn) : Result × Turn :=
  match t.station.catalogue.network? network with
  | none => (.error .notFound, t)
  | some n =>
    if settings.security = n.security then
      (.ok (), t.update fun s =>
        { s with catalogue := s.catalogue.modify network (Network.supply settings) })
    else (.error (.invalidInput (.wrongSecurity settings.security n.security)), t)

/-- Switches autoconnect, and between the two idle states. -/
def setAutoconnect (enabled : Bool) (t : Turn) : Turn :=
  if t.station.autoconnect = enabled then t
  else
    let t := t.update fun s => { s with autoconnect := enabled }
    if t.station.state = .disconnected ∧ enabled then t.enter .autoconnect
    else if t.station.state = .autoconnect ∧ !enabled then
      (t.update fun s => { s with candidates := [] }).enter .disconnected
    else t

/-- Tries candidates in order until one is accepted; the others stay. -/
def tryCandidates (env : Surroundings) : List Candidate → Turn → Turn
  | [], t => t.update fun s => { s with candidates := [] }
  | c :: rest, t =>
    let t := t.update fun s => { s with candidates := rest }
    match connect env c.network c.address none t with
    | (.ok (), t) => t
    | (.error _, t) => tryCandidates env rest t

/-- Goes on with the candidates; does nothing outside autoconnect mode. -/
def selectNext (env : Surroundings) (t : Turn) : Turn :=
  if t.station.state = .autoconnect then tryCandidates env t.station.candidates t else t

/-- Ends the station: everyone who waits is answered, every network is dropped and every watch
ends. -/
def shutdown (t : Turn) : Turn :=
  let t := t.abortRequests.reply .power (.error .aborted)
  let t := (t.endEnrollment (.error .notAvailable)).dropCatalogue.setPeriodicScan false
  let (watchers, due) := t.station.watchers.clear
  due.foldl (fun t w => t.record (.cleanup w)) (t.update fun s => { s with watchers })

end WirelessStation.Station.Turn
