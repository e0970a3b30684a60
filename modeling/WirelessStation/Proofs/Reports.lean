import WirelessStation.Proofs.Turn

/-! # What a report does to the station

For each report of the link layer there is one equation that gives the station afterwards as an
update of the one before (`station_handleUp`, `station_handleDown`, …).  What a report keeps is read
off these equations, and the handlers are not opened again for it. -/

namespace WirelessStation.Station.Turn

variable (t : Turn)

theorem station_handleUp :
    t.handleUp.station =
      if t.station.state = .off then
        { t.station with
          state := .idle t.station.autoconnect, periodicScan := t.station.autoconnect }
      else t.station := by
  unfold handleUp
  by_cases off : t.station.state = .off
  · rw [if_neg (not_not_intro off), if_pos off]
    cases auto : t.station.autoconnect <;> simp [auto, State.idle, State.periodicScan]
  · rw [if_pos off, if_neg off]

theorem station_handleDown :
    t.handleDown.station =
      if t.station.state = .off then t.station
      else
        { t.station with
          state := .off, periodicScan := false, scanning := false
          pending := { t.station.pending with scan := none, connect := none, disconnect := none }
          enrollment := none, connection := none, candidates := []
          catalogue := (t.station.catalogue.clear .shutdown).1 } := by
  unfold handleDown
  split
  · rfl
  · simp [State.periodicScan]

theorem station_handleRenamed (name : String) :
    (t.handleRenamed name).station = { t.station with name } := by
  unfold handleRenamed
  split
  next same => rw [← same]
  next => rfl

theorem station_handleScanTriggered (result : Result) :
    (t.handleScanTriggered result).station =
      match result with
      | .ok () =>
        { t.station with scanning := true, pending := { t.station.pending with scan := none } }
      | .error _ =>
        if t.station.pending.scan.isSome then
          { t.station with pending := { t.station.pending with scan := none } }
        else if t.station.enrollmentScans then { t.station with enrollment := none }
        else t.station := by
  unfold handleScanTriggered
  cases result with
  | ok _ => simp [Pending.set]
  | error e =>
    simp only
    split
    · simp [Pending.set]
    · split <;> simp

theorem station_handleConnectResult (outcome : Outcome) :
    (t.handleConnectResult outcome).station =
      if t.station.state = .connecting then
        match t.station.connection, outcome with
        | none, _ => { t.station with pending := t.station.pending.set .connect none }
        | some _, .success =>
          { t.station with
            pending := t.station.pending.set .connect none
            state := .connected, periodicScan := false, autoconnect := true }
        | some _, .aborted =>
          { t.station with
            pending := t.station.pending.set .connect none, connection := none
            state := .idle t.station.autoconnect, periodicScan := t.station.autoconnect }
        | some c, .handshakeFailed | some c, .linkFailed =>
          { t.station with
            pending := t.station.pending.set .connect none, connection := none
            catalogue := t.station.catalogue.modify c.network Network.connectFailed
            state := .idle t.station.autoconnect, periodicScan := t.station.autoconnect }
      else { t.station with pending := t.station.pending.set .connect none } := by
  unfold handleConnectResult
  by_cases connecting : t.station.state = .connecting
  · cases held : t.station.connection with
    | none => simp [connecting, held]
    | some c =>
      cases outcome with
      | success =>
        cases found : t.station.catalogue.network? c.network <;>
          simp [connecting, held, found, State.periodicScan]
      | aborted | handshakeFailed | linkFailed => simp [connecting, held]
  · simp [connecting]

theorem station_handleDisconnectResult (success : Bool) :
    (t.handleDisconnectResult success).station =
      if t.station.state = .disconnecting then
        { t.station with
          pending := t.station.pending.set .disconnect none, connection := none
          state := .idle t.station.autoconnect, periodicScan := t.station.autoconnect }
      else { t.station with pending := t.station.pending.set .disconnect none } := by
  unfold handleDisconnectResult
  simp only [station_reply, ne_eq, ite_not]
  split <;> simp

/-- The network that a connection is to has used what was supplied for it. -/
theorem station_keepSecret (network : String) :
    (t.keepSecret network).station =
      { t.station with
        catalogue :=
          match t.station.catalogue.network? network with
          | none => t.station.catalogue
          | some n => t.station.catalogue.modify network fun _ => n.syncCredentials.1 } := by
  unfold keepSecret
  cases t.station.catalogue.network? network with
  | none => rfl
  | some n => simp [station_foldl_record]

theorem station_handleLinkEvent (event : LinkEvent) :
    (t.handleLinkEvent event).station =
      match t.station.connection, event with
      | none, _ | some _, .authenticating | some _, .associating | some _, .handshaking => t.station
      | some c, .settingKeys => (t.keepSecret c.network).station
      | some _, .lostBeacon =>
        { t.station with
          pending := t.station.pending.set .connect none, connection := none
          state := .idle t.station.autoconnect, periodicScan := t.station.autoconnect }
      | some c, .apDisconnect =>
        { t.station with
          pending := t.station.pending.set .connect none, connection := none
          catalogue :=
            if t.station.pending.connect.isSome || t.station.state == .connecting then
              t.station.catalogue.modify c.network Network.connectFailed
            else t.station.catalogue
          state := .idle t.station.autoconnect, periodicScan := t.station.autoconnect } := by
  unfold handleLinkEvent
  cases t.station.connection with
  | none => rfl
  | some c =>
    cases event with
    | authenticating | associating | handshaking | settingKeys => rfl
    | lostBeacon => simp
    | apDisconnect =>
      simp only
      split
      next => simp
      next neither =>
        have free : t.station.pending.get .connect = none := by
          simp only [Bool.or_eq_true, not_or, Option.not_isSome_iff_eq_none] at neither
          exact neither.1
        simp [Pending.set_none_of_get free]

end WirelessStation.Station.Turn
