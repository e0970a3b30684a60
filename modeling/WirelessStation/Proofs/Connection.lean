import WirelessStation.Proofs.Frame
import WirelessStation.Proofs.Pinned

/-! # The connection agrees with the state and the catalogue

A station holds a connection exactly while it is connecting or connected, and its catalogue places
the access point of the connection with its network (`Linked`).  Each operation keeps that, so it
holds at every moment of a run (`Run.linked`).  The scans are the point: they drop every observation
and every list of access points, and `Catalogue.Places.ingest` puts the one in use back. -/

namespace WirelessStation.Station

/-- The connection agrees with the state and with the catalogue. -/
structure Linked (s : Station) : Prop where
  held_iff : s.connection.isSome = true ↔ s.state = .connecting ∨ s.state = .connected
  placed : ∀ c, s.connection = some c → s.catalogue.Places c.network c.address

namespace Linked

variable {s s' : Station}

theorem congr (h : Linked s)
    (same : s'.state = s.state ∧ s'.connection = s.connection ∧ s'.catalogue = s.catalogue) :
    Linked s' := by
  obtain ⟨state, connection, catalogue⟩ := same
  refine ⟨?_, ?_⟩
  · rw [connection, state]
    exact h.held_iff
  · rw [connection, catalogue]
    exact h.placed

theorem of_none (connection : s.connection = none) (connecting : s.state ≠ .connecting)
    (connected : s.state ≠ .connected) : Linked s := by
  refine ⟨?_, ?_⟩
  · simp [connection, connecting, connected]
  · simp [connection]

theorem of_idle (connection : s.connection = none) {autoconnect : Bool}
    (state : s.state = .idle autoconnect) : Linked s := by
  refine of_none connection ?_ ?_
  · cases autoconnect <;> simp [state, State.idle]
  · cases autoconnect <;> simp [state, State.idle]

/-- Outside of an attempt and a connection nothing is held. -/
theorem connection_eq_none (h : Linked s) (connecting : s.state ≠ .connecting)
    (connected : s.state ≠ .connected) : s.connection = none := by
  rw [← Option.not_isSome_iff_eq_none, h.held_iff]
  simp [connecting, connected]

/-- The catalogue may change in any way that keeps the access point in use in its place. -/
theorem of_catalogue (h : Linked s) (state : s'.state = s.state)
    (connection : s'.connection = s.connection)
    (placed : ∀ c, s.connection = some c → s'.catalogue.Places c.network c.address) :
    Linked s' := by
  refine ⟨?_, ?_⟩
  · rw [connection, state]
    exact h.held_iff
  · rw [connection]
    exact placed

end Linked

/-- An attempt is only made at an access point that the catalogue places with the network. -/
theorem Turn.places_of_plan {env : Surroundings} {s : Station} {network : String} {a : Address}
    {p : Observation × Option Context} (planned : plan env s network a = .ok p) :
    s.catalogue.Places network a := by
  unfold plan at planned
  split at planned
  next => cases planned
  next n found =>
    split at planned
    next => cases planned
    next has =>
      split at planned
      next => cases planned
      next o current => exact ⟨⟨n, found, by simpa using has⟩, Option.isSome_of_eq_some current⟩

namespace Linked

variable {t : Turn} (h : Linked t.station) (env : Surroundings)

include h

/-! ### Attempts -/

theorem refused {r : Option Requester} {outcome : Result × Turn}
    (refusal : Refused env r t outcome) : Linked outcome.2.station := by
  rw [refusal.station_eq]
  exact h

theorem connect (network : String) (a : Address) (r : Option Requester) :
    Linked (t.connect env network a r).2.station := by
  rcases t.connect_cases env network a r with refusal | ⟨o, context, _, _, planned, _, outcome⟩
  · exact h.refused env refusal
  · rw [outcome]
    refine ⟨by simp, ?_⟩
    simpa using Turn.places_of_plan planned

theorem selectNext : Linked (t.selectNext env).station := by
  refine Turn.selectNext_induct (P := fun u => Linked u.station) ?_ ?_ h
  · exact fun u rest h => h.congr ⟨rfl, rfl, rfl⟩
  · exact fun u network a h => h.connect env network a none

/-! ### Reports of the link layer -/

theorem handleUp : Linked t.handleUp.station := by
  rw [Turn.station_handleUp]
  split
  next off =>
    have none : t.station.connection = none :=
      h.connection_eq_none (by simp [off]) (by simp [off])
    exact of_idle none rfl
  next => exact h

theorem handleDown : Linked t.handleDown.station := by
  rw [Turn.station_handleDown]
  split
  · exact h
  · exact of_none rfl (by simp) (by simp)

theorem handleRegistrars (registrars : List Observation) :
    Linked (t.handleRegistrars env registrars).station := by
  rw [Turn.station_handleRegistrars]
  exact h.congr ⟨rfl, rfl, rfl⟩

theorem takeScan (observations : List Observation) :
    Linked (t.takeScan env observations).station := by
  refine h.of_catalogue (by simp) (by simp) (fun c held => ?_)
  have pinned : Turn.pin t.station = some ⟨c.network, c.address⟩ := by simp [Turn.pin, held]
  simp only [Turn.station_takeScan, pinned]
  exact (h.placed c held).ingest observations env.store env.now

theorem handleScanResults (observations : List Observation) :
    Linked (t.handleScanResults env observations).station := by
  have taken := h.takeScan env observations
  rw [Turn.handleScanResults_eq]
  split
  · exact h
  · split
    · exact taken.handleRegistrars env _
    · split
      · refine selectNext ?_ env
        exact taken.congr ⟨rfl, rfl, rfl⟩
      · exact taken

theorem handleConnectResult (outcome : Outcome) :
    Linked (t.handleConnectResult outcome).station := by
  rw [Turn.station_handleConnectResult]
  split
  next =>
    split
    next => exact h.congr ⟨rfl, rfl, rfl⟩
    next c held =>
      refine ⟨?_, h.placed⟩
      simp [held]
    next => exact of_idle rfl rfl
    next => exact of_idle rfl rfl
    next => exact of_idle rfl rfl
  next => exact h.congr ⟨rfl, rfl, rfl⟩

theorem handleDisconnectResult (success : Bool) :
    Linked (t.handleDisconnectResult success).station := by
  rw [Turn.station_handleDisconnectResult]
  split
  · exact of_idle rfl rfl
  · exact h.congr ⟨rfl, rfl, rfl⟩

theorem keepSecret (network : String) : Linked (t.keepSecret network).station := by
  rw [Turn.station_keepSecret]
  refine h.of_catalogue rfl rfl (fun c held => ?_)
  have placed := h.placed c held
  split
  next => exact placed
  next n found =>
    refine placed.modify ?_ ?_
    · intro _ _
      rw [Network.path_syncCredentials]
      exact Catalogue.path_of_network? found
    · intro n' found' has
      obtain rfl : n = n' := Option.some.inj (found.symm.trans found')
      rwa [Network.hasAccessPoint_syncCredentials]

theorem handleLinkEvent (event : LinkEvent) : Linked (t.handleLinkEvent event).station := by
  rw [Turn.station_handleLinkEvent]
  split
  next => exact h
  next => exact h
  next => exact h
  next => exact h
  next c held => exact h.keepSecret c.network
  next => exact of_idle rfl rfl
  next => exact of_idle rfl rfl

/-! ### Requests -/

theorem disconnect (r : Option Requester) : Linked (t.disconnect env r).2.station := by
  rcases t.disconnect_cases env r with refusal | ⟨_, _, outcome⟩
  · exact h.refused env refusal
  · rw [outcome]
    exact of_none (by simp) (by simp) (by simp)

theorem setSecret (env : Surroundings) (network : String) (settings : Settings) :
    Linked (t.setSecret network settings).2.station := by
  rcases t.setSecret_cases env network settings with refusal | outcome
  · exact h.refused env refusal
  · rw [outcome]
    refine h.of_catalogue rfl rfl (fun c held => ?_)
    refine (h.placed c held).modify ?_ ?_
    · exact fun n hn => by simpa using hn
    · exact fun n _ has => by simpa using has

theorem setAutoconnect (enabled : Bool) : Linked (t.setAutoconnect enabled).station := by
  rw [Turn.station_setAutoconnect]
  split
  next => exact h
  split
  next on =>
    have none := h.connection_eq_none (by simp [on.1]) (by simp [on.1])
    exact of_none none (by simp) (by simp)
  split
  next off =>
    have none := h.connection_eq_none (by simp [off.1]) (by simp [off.1])
    exact of_none none (by simp) (by simp)
  next => exact h.congr ⟨rfl, rfl, rfl⟩

/-- Every operation before the shutdown keeps the connection in agreement with the rest. -/
theorem perform (op : Operation) (live : op ≠ .shutdown) :
    Linked (t.perform env op).2.station := by
  cases aside : op.isAside with
  | true =>
    rw [t.station_aside env aside]
    exact h.congr ⟨rfl, rfl, rfl⟩
  | false =>
    cases op with
    | notify notification =>
      cases notification with
      | up => exact h.handleUp
      | down => exact h.handleDown
      | scanResults observations => exact h.handleScanResults env observations
      | connectResult outcome => exact h.handleConnectResult outcome
      | disconnectResult success => exact h.handleDisconnectResult success
      | event event => exact h.handleLinkEvent event
      | renamed _ | scanTriggered _ | powerResult _ => cases aside
    | connect network a r => exact h.connect env network a r
    | connectNetwork network r =>
      rcases t.connectNetwork_cases env network r with refusal | ⟨a, outcome⟩
      · exact h.refused env refusal
      · rw [Turn.perform, outcome]
        exact h.connect env network a r
    | disconnect r => exact h.disconnect env r
    | setSecret network settings => exact h.setSecret env network settings
    | setAutoconnect enabled => exact h.setAutoconnect enabled
    | selectNext => exact h.selectNext env
    | shutdown => exact absurd rfl live
    | scan _ | setPowered _ _ | pushButton _ | subscribe _ _ | unsubscribe _ => cases aside
    | cancelEnrollment | completeEnrollment _ => cases aside

end Linked

/-- At every moment of a run the connection agrees with the state and the catalogue. -/
theorem Run.linked {i : Interface} {config : Config} {moves : List Move} {s : Station}
    (run : Run (.new i config) moves s) : Linked s := by
  refine run.induct ?_ ?_
  · exact .of_none rfl (by simp [new]) (by simp [new])
  · intro s env op live h
    exact Linked.perform (t := { station := s }) h env op live

/-- While a connection is held, a scan changes neither it nor the state. -/
theorem scanResults_of_held {s : Station} {c : Connection} (held : s.connection = some c)
    (busy : s.state = .connecting ∨ s.state = .connected) (env : Surroundings)
    (observations : List Observation) :
    (s.step env (.notify (.scanResults observations))).2.station.connection = some c ∧
      (s.step env (.notify (.scanResults observations))).2.station.state = s.state := by
  have idle : s.state ≠ .off ∧ s.state ≠ .autoconnect := by rcases busy with h | h <;> simp [h]
  show (Turn.handleScanResults env observations { station := s }).station.connection = some c ∧
    (Turn.handleScanResults env observations { station := s }).station.state = s.state
  rw [Turn.handleScanResults_eq, if_neg idle.1]
  split
  · rw [Turn.station_handleRegistrars]
    simp [held]
  · rw [if_neg (by simpa using idle.2)]
    simp [held]

/-- At every moment of a run a station holds a connection exactly while it is connecting or
connected, and then its catalogue has the network, the access point in the network's list and a
current observation of it.  Whatever a scan hears while a connection is held, it leaves the
connection and the state alone and keeps all of that. -/
theorem connection_held_and_placed {i : Interface} {config : Config} {moves : List Move}
    {s : Station} (run : Run (.new i config) moves s) :
    (s.connection.isSome = true ↔ s.state = .connecting ∨ s.state = .connected) ∧
    (∀ c, s.connection = some c → s.catalogue.Places c.network c.address) ∧
    ∀ c, s.connection = some c → ∀ env observations,
      let after := (s.step env (.notify (.scanResults observations))).2.station
      after.connection = some c ∧ after.state = s.state ∧
        after.catalogue.Places c.network c.address := by
  have linked := run.linked
  refine ⟨linked.held_iff, linked.placed, fun c held env observations => ?_⟩
  have kept := scanResults_of_held held (linked.held_iff.1 (Option.isSome_of_eq_some held)) env
    observations
  have afterwards : Linked (s.step env (.notify (.scanResults observations))).2.station :=
    linked.perform (t := { station := s }) env _ (by simp)
  exact ⟨kept.1, kept.2, afterwards.placed c kept.1⟩

/-- An attempt under way, and a scan that hears nothing at all. -/
theorem connection_held_and_placed_connecting :
    let moves := Sample.station.play Sample.connecting
    let s := Sample.station.played Sample.connecting
    let after := (s.step (Sample.surroundings true) (.notify (.scanResults []))).2.station
    Run Sample.station moves s ∧
      s.connection = some ⟨Sample.network, Sample.accessPoint⟩ ∧
      s.catalogue.Places Sample.network Sample.accessPoint ∧
      after.connection = some ⟨Sample.network, Sample.accessPoint⟩ ∧
      after.catalogue.Places Sample.network Sample.accessPoint := by
  intro moves s after
  have held : s.connection = some ⟨Sample.network, Sample.accessPoint⟩ := by decide +kernel
  obtain ⟨_, placed, scanned⟩ := connection_held_and_placed Sample.run_connecting
  have kept := scanned _ held (Sample.surroundings true) []
  exact ⟨Sample.run_connecting, held, placed _ held, kept.1, kept.2.2⟩

end WirelessStation.Station
