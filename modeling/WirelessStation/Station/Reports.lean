import WirelessStation.Station.Requests

/-! # What a link layer reports to a station

Notifications may come late and in any order.  One that no longer fits the state changes nothing
beyond answering whoever waits for it. -/

namespace WirelessStation.Station.Turn

def handleUp (t : Turn) : Turn :=
  if t.station.state ≠ .off then t
  else
    (t.enter (if t.station.autoconnect then .autoconnect else .disconnected)).announce
      (.propertyChanged .powered)

/-- Everyone who waits for the link is answered and every network is dropped.  A request to change
the power goes on waiting. -/
def handleDown (t : Turn) : Turn :=
  if t.station.state = .off then t
  else
    let t := (t.enter .off).abortRequests.endEnrollment (.error .aborted)
    (t.dropCatalogue.setScanning false).announce (.propertyChanged .powered)

def handleRenamed (name : String) (t : Turn) : Turn :=
  if t.station.name = name then t
  else (t.update fun s => { s with name }).announce (.propertyChanged .name)

/-- A scan has started, or could not.  The failure belongs to the request that waits, or else to the
enrollment whose scan is under way. -/
def handleScanTriggered (result : Result) (t : Turn) : Turn :=
  match result with
  | .ok () => (t.setScanning true).reply .scan (.ok ())
  | .error e =>
    if t.station.pending.scan.isSome then t.reply .scan (.error e)
    else if t.station.enrollmentScans then t.endEnrollment (.error e)
    else t

/-- Looks for a registrar in a scan of an enrollment that has none yet, and scans again where nobody
invites. -/
def handleRegistrars (env : Surroundings) (registrars : List Observation) (t : Turn) : Turn :=
  match t.station.enrollment with
  | none => t
  | some session =>
    if session.target.isSome then t
    else
      match Enrollment.select registrars with
      | .target address =>
        (t.update fun s =>
          { s with enrollment := some { session with target := some address } }).announce
            (.registrarFound address)
      | .overlap => t.endEnrollment (.error .sessionOverlap)
      | .nobody =>
        match t.call env (.scan (.enrolling session.probe)) with
        | (true, t) =>
          t.update fun s => { s with enrollment := some { session with scanning := true } }
        | (false, t) => t.endEnrollment (.error .rejected)

/-- Takes the results of a scan into the catalogue. -/
def takeIn (env : Surroundings) (observations : List Observation) (t : Turn) : Turn :=
  let pin := t.station.connection.map fun c => (⟨c.network, c.address⟩ : Catalogue.Pin)
  let intake := t.station.catalogue.ingest observations pin env.store env.now
  (t.announceChanges intake.changes).update fun s => { s with catalogue := intake.catalogue }

/-- Takes a scan in, and then looks for a registrar or for a network to connect to.  Enrollment
looks at every observation with an answer about it, also at those that the catalogue cannot place.
-/
def handleScanResults (env : Surroundings) (observations : List Observation) (t : Turn) : Turn :=
  if t.station.state = .off then t
  else
    let t := (t.setScanning false).update fun s =>
      { s with enrollment := s.enrollment.map fun session => { session with scanning := false } }
    let t := (t.takeIn env observations).update fun s => { s with candidates := [] }
    if t.station.isEnrolling then
      t.handleRegistrars env (observations.filter fun o => o.registrar.isSome)
    else if t.station.state = .autoconnect then
      (t.update fun s =>
        { s with candidates := Candidate.ofCatalogue env.store s.catalogue }).selectNext env
    else t

/-- An attempt ended.  Whoever asked is answered in any case; the rest holds only while the attempt
is still wanted. -/
def handleConnectResult (outcome : Outcome) (t : Turn) : Turn :=
  let t := t.reply .connect outcome.result
  if t.station.state ≠ .connecting then t
  else
    match t.station.connection with
    | none => t
    | some c =>
      match outcome with
      | .success =>
        let t := match t.station.catalogue.network? c.network with
          | some n => t.record (.store n.connectedCall)
          | none => t
        (t.enter .connected).update fun s => { s with autoconnect := true }
      | .aborted => t.clearConnection.enterIdle
      | .handshakeFailed | .linkFailed =>
        (t.update fun s =>
          { s with catalogue := s.catalogue.modify c.network Network.connectFailed }).disassociate

/-- A disconnect ended, one way or the other. -/
def handleDisconnectResult (success : Bool) (t : Turn) : Turn :=
  let t := t.reply .disconnect (if success then .ok () else .error .linkFailed)
  if t.station.state ≠ .disconnecting then t else t.disassociate

/-- Keeps the secret of the connected network, which got as far as installing keys. -/
def keepSecret (network : String) (t : Turn) : Turn :=
  match t.station.catalogue.network? network with
  | none => t
  | some n =>
    let (kept, calls) := n.syncCredentials
    calls.foldl (fun t c => t.record (.store c))
      (t.update fun s => { s with catalogue := s.catalogue.modify network fun _ => kept })

/-- Something happened on the link.  Without a connection it means nothing. -/
def handleLinkEvent (event : LinkEvent) (t : Turn) : Turn :=
  match t.station.connection with
  | none => t
  | some c =>
    match event with
    | .authenticating | .associating | .handshaking => t
    | .settingKeys => t.keepSecret c.network
    | .lostBeacon => (t.reply .connect (.error .linkFailed)).disassociate
    | .apDisconnect =>
      let t :=
        if t.station.pending.connect.isSome || t.station.state == .connecting then
          (t.reply .connect (.error .linkFailed)).update fun s =>
            { s with catalogue := s.catalogue.modify c.network Network.connectFailed }
        else t
      t.disassociate

def handlePowerResult (result : Result) (t : Turn) : Turn :=
  t.reply .power result

/-- Hands a notification to its handler. -/
def handle (env : Surroundings) (notification : Notification) (t : Turn) : Turn :=
  match notification with
  | .up => t.handleUp
  | .down => t.handleDown
  | .renamed name => t.handleRenamed name
  | .scanTriggered result => t.handleScanTriggered result
  | .scanResults observations => t.handleScanResults env observations
  | .connectResult outcome => t.handleConnectResult outcome
  | .disconnectResult success => t.handleDisconnectResult success
  | .event event => t.handleLinkEvent event
  | .powerResult result => t.handlePowerResult result

end WirelessStation.Station.Turn
