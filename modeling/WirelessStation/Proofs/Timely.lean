import WirelessStation.Proofs.Connection

/-! # Requests wait only while their results can come

Whoever waits for a disconnect waits while the station is disconnecting.  Whoever waits for a
connection does not wait at an interface that is down, nor once the connection is up (`Timely`).
Each operation keeps that.  A request outlives an attempt only by way of a disconnect, since every
other end of an attempt answers it, and nobody is there to be answered by a link that comes up or by
the end of a connection (`Linked` says when there is one). -/

namespace WirelessStation.Station

/-- Requests for a connection and for its end wait only while their results can come. -/
structure Timely (s : Station) : Prop where
  disconnect_waits : s.pending.disconnect.isSome = true → s.state = .disconnecting
  connect_waits : s.pending.connect.isSome = true → s.state ≠ .off ∧ s.state ≠ .connected

namespace Timely

variable {s s' : Station}

theorem congr (h : Timely s)
    (same : s'.state = s.state ∧ s'.pending.connect = s.pending.connect ∧
      s'.pending.disconnect = s.pending.disconnect) : Timely s' := by
  obtain ⟨state, connect, disconnect⟩ := same
  refine ⟨?_, ?_⟩
  · rw [disconnect, state]
    exact h.disconnect_waits
  · rw [connect, state]
    exact h.connect_waits

/-- Where nobody waits for a connection or for its end, any state will do. -/
theorem of_none (connect : s.pending.connect = none) (disconnect : s.pending.disconnect = none) :
    Timely s := by
  refine ⟨?_, ?_⟩
  · simp [disconnect]
  · simp [connect]

/-- While nobody waits for a disconnect, a station may be idle. -/
theorem of_idle (disconnect : s.pending.disconnect = none) {autoconnect : Bool}
    (state : s.state = .idle autoconnect) : Timely s := by
  refine ⟨by simp [disconnect], fun _ => ?_⟩
  cases autoconnect <;> simp [state, State.idle]

theorem disconnect_eq_none (h : Timely s) (other : s.state ≠ .disconnecting) :
    s.pending.disconnect = none := by
  rw [← Option.not_isSome_iff_eq_none]
  exact mt h.disconnect_waits other

/-- A connection is held only where nobody waits for its end. -/
theorem disconnect_eq_none_of_held (h : Timely s) (linked : Linked s)
    (held : s.connection.isSome = true) : s.pending.disconnect = none := by
  refine h.disconnect_eq_none ?_
  rcases linked.held_iff.1 held with state | state <;> simp [state]

end Timely

namespace Timely

variable {t : Turn} (h : Timely t.station) (env : Surroundings)

include h

theorem refused {r : Option Requester} {outcome : Result × Turn}
    (refusal : Refused env r t outcome) : Timely outcome.2.station := by
  rw [refusal.station_eq]
  exact h

theorem connect (network : String) (a : Address) (r : Option Requester) :
    Timely (t.connect env network a r).2.station := by
  rcases t.connect_cases env network a r with refusal | ⟨o, context, _, free, _, _, outcome⟩
  · exact h.refused env refusal
  · rw [outcome]
    simp only [isBusy, Bool.or_eq_false_iff, Option.isSome_eq_false_iff,
      Option.isNone_iff_eq_none] at free
    refine ⟨?_, ?_⟩
    · simp [Pending.set, free.2]
    · simp

theorem selectNext : Timely (t.selectNext env).station := by
  refine Turn.selectNext_induct (P := fun u => Timely u.station) ?_ ?_ h
  · exact fun u rest h => h.congr ⟨rfl, rfl, rfl⟩
  · exact fun u network a h => h.connect env network a none

/-! ### Reports of the link layer -/

theorem handleUp : Timely t.handleUp.station := by
  rw [Turn.station_handleUp]
  split
  next off =>
    have none : t.station.pending.disconnect = none := h.disconnect_eq_none (by simp [off])
    exact of_idle none rfl
  next => exact h

theorem handleDown : Timely t.handleDown.station := by
  rw [Turn.station_handleDown]
  split
  · exact h
  · exact of_none rfl rfl

theorem handleScanResults (observations : List Observation) :
    Timely (t.handleScanResults env observations).station := by
  have taken : Timely (t.takeScan env observations).station := h.congr (by simp)
  rw [Turn.handleScanResults_eq]
  split
  · exact h
  · split
    · rw [Turn.station_handleRegistrars]
      exact taken.congr ⟨rfl, rfl, rfl⟩
    · split
      · refine selectNext ?_ env
        exact taken.congr ⟨rfl, rfl, rfl⟩
      · exact taken

theorem handleConnectResult (outcome : Outcome) :
    Timely (t.handleConnectResult outcome).station := by
  -- The answer comes first, whatever becomes of the connection.
  have answered : Timely { t.station with pending := t.station.pending.set .connect none } :=
    ⟨h.disconnect_waits, by simp [Pending.set]⟩
  rw [Turn.station_handleConnectResult]
  split
  next connecting =>
    have none : t.station.pending.disconnect = none := h.disconnect_eq_none (by simp [connecting])
    split
    next => exact answered
    next => exact of_none rfl none
    next => exact of_idle none rfl
    next => exact of_idle none rfl
    next => exact of_idle none rfl
  next => exact answered

theorem handleDisconnectResult (success : Bool) :
    Timely (t.handleDisconnectResult success).station := by
  rw [Turn.station_handleDisconnectResult]
  split
  · exact of_idle rfl rfl
  · exact ⟨by simp [Pending.set], h.connect_waits⟩

theorem handleLinkEvent (linked : Linked t.station) (event : LinkEvent) :
    Timely (t.handleLinkEvent event).station := by
  rw [Turn.station_handleLinkEvent]
  split
  next => exact h
  next => exact h
  next => exact h
  next => exact h
  next =>
    rw [Turn.station_keepSecret]
    exact h.congr ⟨rfl, rfl, rfl⟩
  next held => exact of_idle (h.disconnect_eq_none_of_held linked (by simp [held])) rfl
  next held => exact of_idle (h.disconnect_eq_none_of_held linked (by simp [held])) rfl

/-! ### Requests -/

theorem disconnect (r : Option Requester) :
    Timely (t.disconnect env r).2.station := by
  rcases t.disconnect_cases env r with refusal | ⟨_, _, outcome⟩
  · exact h.refused env refusal
  · rw [outcome]
    exact ⟨by simp, by simp⟩

theorem setAutoconnect (enabled : Bool) : Timely (t.setAutoconnect enabled).station := by
  rw [Turn.station_setAutoconnect]
  split
  next => exact h
  split
  next on =>
    have none : t.station.pending.disconnect = none := h.disconnect_eq_none (by simp [on.1])
    exact of_idle none (show _ = State.idle true from rfl)
  split
  next off =>
    have none : t.station.pending.disconnect = none := h.disconnect_eq_none (by simp [off.1])
    exact of_idle none (show _ = State.idle false from rfl)
  next => exact h.congr ⟨rfl, rfl, rfl⟩

/-- Every operation before the shutdown leaves a station timely whose connection agrees with the
rest. -/
theorem perform (linked : Linked t.station) (op : Operation) (live : op ≠ .shutdown) :
    Timely (t.perform env op).2.station := by
  cases aside : op.isAside with
  | true =>
    rw [t.station_aside env aside]
    exact h.congr ⟨rfl, rfl, rfl⟩
  | false =>
    cases op with
    | notify notification =>
      cases notification with
      | up => exact h.handleUp
      | down => exact h.handleDown
      | scanResults observations => exact h.handleScanResults env observations
      | connectResult outcome => exact h.handleConnectResult outcome
      | disconnectResult success => exact h.handleDisconnectResult success
      | event event => exact h.handleLinkEvent linked event
      | renamed _ | scanTriggered _ | powerResult _ => cases aside
    | connect network a r => exact h.connect env network a r
    | connectNetwork network r =>
      rcases t.connectNetwork_cases env network r with refusal | ⟨a, outcome⟩
      · exact h.refused env refusal
      · rw [Turn.perform, outcome]
        exact h.connect env network a r
    | disconnect r => exact h.disconnect env r
    | setSecret network settings =>
      rcases t.setSecret_cases env network settings with refusal | outcome
      · exact h.refused env refusal
      · exact h.congr (by simp [Turn.perform, outcome])
    | setAutoconnect enabled => exact h.setAutoconnect enabled
    | selectNext => exact h.selectNext env
    | shutdown => exact absurd rfl live
    | scan _ | setPowered _ _ | pushButton _ | subscribe _ _ | unsubscribe _ => cases aside
    | cancelEnrollment | completeEnrollment _ => cases aside

end Timely

/-- At every moment of a run requests wait only while their results can come. -/
theorem Run.timely {i : Interface} {config : Config} {moves : List Move} {s : Station}
    (run : Run (.new i config) moves s) : Timely s := by
  refine (run.induct (P := fun s => Linked s ∧ Timely s) ?_ ?_).2
  · exact ⟨.of_none rfl (by simp [new]) (by simp [new]), .of_none rfl rfl⟩
  · rintro s env op live ⟨linked, timely⟩
    exact ⟨Linked.perform (t := { station := s }) linked env op live,
      Timely.perform (t := { station := s }) timely env linked op live⟩

end WirelessStation.Station
