import WirelessStation.Proofs.Calls
import WirelessStation.Proofs.Frame

/-! # What an operation may change

An operation that makes no attempt changes the catalogue and the connection in one of a few ways
(`Changed`, `Move.changed`).  One that may make attempts takes in what it was told of, leaves the
catalogue at that (`Move.catalogue_of_mayAttempt`), and leaves the connection as it was unless an
attempt was accepted (`Move.connection_cases`).  Who the interface is
never changes (`Run.own_eq`). -/

namespace WirelessStation.Station

/-- Whether an operation tells a station that is connecting that its attempt failed. -/
def Operation.failsAttempt : Operation → Bool
  | .notify (.connectResult .handshakeFailed) | .notify (.connectResult .linkFailed)
  | .notify (.event .apDisconnect) => true
  | _ => false

/-- The ways in which an operation that makes no attempt may change the catalogue and the
connection. -/
inductive Changed (op : Operation) (result : Result) (s s' : Station) : Prop
  | same (catalogue : s'.catalogue = s.catalogue) (connection : s'.connection = s.connection)
  | released (catalogue : s'.catalogue = s.catalogue) (connection : s'.connection = none)
  | cleared (catalogue : s'.catalogue = (s.catalogue.clear .shutdown).1)
      (connection : s'.connection = none)
  /-- An attempt failed, for which somebody may have waited. -/
  | failed {c : Connection} (held : s.connection = some c)
      (catalogue : s'.catalogue = s.catalogue.modify c.network Network.connectFailed)
      (connection : s'.connection = none) (reported : op.failsAttempt = true)
      (underWay : s.state = .connecting ∨ s.pending.connect.isSome = true)
  /-- A secret was supplied. -/
  | supplied {network : String} {settings : Settings} (asked : op = .setSecret network settings)
      (accepted : result = .ok ())
      (catalogue : s'.catalogue = s.catalogue.modify network (Network.supply settings))
      (connection : s'.connection = s.connection)
  /-- What was supplied for a network proved to work. -/
  | kept {c : Connection} {n : Network} (heard : op = .notify (.event .settingKeys))
      (held : s.connection = some c) (found : s.catalogue.network? c.network = some n)
      (catalogue : s'.catalogue = s.catalogue.modify c.network fun _ => n.syncCredentials.1)
      (connection : s'.connection = s.connection)

namespace Turn

variable (t : Turn) (env : Surroundings)

theorem changed_of_refused {op : Operation} {r : Option Requester} {outcome : Result × Turn}
    (h : Refused env r t outcome) : Changed op outcome.1 t.station outcome.2.station := by
  rw [h.station_eq]
  exact .same rfl rfl

theorem changed_connectResult (outcome : Outcome) {result : Result} :
    Changed (.notify (.connectResult outcome)) result t.station
      (t.handleConnectResult outcome).station := by
  rw [station_handleConnectResult]
  split
  next connecting =>
    split
    next => exact .same rfl rfl
    next => exact .same rfl rfl
    next => exact .released rfl rfl
    next c held => exact .failed held rfl rfl rfl (.inl connecting)
    next c held => exact .failed held rfl rfl rfl (.inl connecting)
  next => exact .same rfl rfl

theorem changed_event (event : LinkEvent) {result : Result} :
    Changed (.notify (.event event)) result t.station (t.handleLinkEvent event).station := by
  rw [station_handleLinkEvent]
  split
  next => exact .same rfl rfl
  next => exact .same rfl rfl
  next => exact .same rfl rfl
  next => exact .same rfl rfl
  next c held =>
    rw [station_keepSecret]
    cases found : t.station.catalogue.network? c.network with
    | none => exact .same rfl rfl
    | some n => exact .kept rfl held found rfl rfl
  next => exact .released rfl rfl
  next c held =>
    split
    next underWay =>
      refine .failed held rfl rfl rfl ?_
      simpa [or_comm] using underWay
    next => exact .released rfl rfl

/-- What an operation that makes no attempt may do. -/
theorem changed_perform {op : Operation} (live : op ≠ .shutdown) (quiet : op.mayAttempt = false) :
    Changed op (t.perform env op).1 t.station (t.perform env op).2.station := by
  cases aside : op.isAside with
  | true =>
    rw [t.station_aside env aside]
    exact .same rfl rfl
  | false =>
    cases op with
    | notify notification =>
      cases notification with
      | up =>
        rw [perform, handle, station_handleUp]
        split <;> exact .same rfl rfl
      | down =>
        rw [perform, handle, station_handleDown]
        split
        · exact .same rfl rfl
        · exact .cleared rfl rfl
      | connectResult outcome => exact t.changed_connectResult outcome
      | disconnectResult success =>
        rw [perform, handle, station_handleDisconnectResult]
        split
        · exact .released rfl rfl
        · exact .same rfl rfl
      | event event => exact t.changed_event event
      | scanResults _ => cases quiet
      | renamed _ | scanTriggered _ | powerResult _ => cases aside
    | disconnect r =>
      rcases t.disconnect_cases env r with refused | ⟨_, _, outcome⟩
      · exact t.changed_of_refused env refused
      · rw [perform, outcome]
        exact .released (by simp) (by simp)
    | setSecret network settings =>
      rcases t.setSecret_cases env network settings with refused | outcome
      · exact t.changed_of_refused env refused
      · rw [perform, outcome]
        exact .supplied rfl rfl rfl rfl
    | setAutoconnect enabled =>
      rw [perform, station_setAutoconnect]
      split
      · exact .same rfl rfl
      · split
        · exact .same rfl rfl
        · split <;> exact .same rfl rfl
    | connect _ _ _ | connectNetwork _ _ | selectNext => cases quiet
    | shutdown => exact absurd rfl live
    | scan _ | setPowered _ _ | pushButton _ | subscribe _ _ | unsubscribe _ => cases aside
    | cancelEnrollment | completeEnrollment _ => cases aside

/-! ### Operations with an attempt -/

theorem catalogue_connect (network : String) (a : Address) (r : Option Requester) :
    (t.connect env network a r).2.station.catalogue = t.station.catalogue := by
  rcases t.connect_cases env network a r with refused | ⟨_, _, _, _, _, _, h⟩
  · rw [refused.station_eq]
  · simp [h]

theorem catalogue_selectNext : (t.selectNext env).station.catalogue = t.station.catalogue := by
  refine selectNext_induct (P := fun u => u.station.catalogue = t.station.catalogue) ?_ ?_ rfl
  · exact fun u rest same => same
  · exact fun u network a same => (u.catalogue_connect env network a none).trans same

theorem catalogue_handleScanResults (up : t.station.state ≠ .off)
    (observations : List Observation) :
    (t.handleScanResults env observations).station.catalogue =
      (t.takeScan env observations).station.catalogue := by
  rw [handleScanResults_eq, if_neg up]
  split
  · rw [station_handleRegistrars]
  · split
    · rw [catalogue_selectNext]
      rfl
    · rfl

end Turn

namespace Move

/-- An operation that may make attempts leaves the catalogue in which it looks for them. -/
theorem catalogue_of_mayAttempt {m : Move} (may : m.op.mayAttempt = true) :
    m.after.catalogue = m.informed.catalogue := by
  obtain ⟨before, env, op⟩ := m
  let t : Turn := { station := before }
  cases op with
  | connect network a r => exact t.catalogue_connect env network a r
  | connectNetwork network r =>
    rcases t.connectNetwork_cases env network r with refused | ⟨a, h⟩
    · exact congrArg Station.catalogue refused.station_eq
    · show (t.connectNetwork env network r).2.station.catalogue = before.catalogue
      rw [h]
      exact t.catalogue_connect env network a r
  | selectNext => exact t.catalogue_selectNext env
  | notify notification =>
    cases notification with
    | scanResults observations =>
      show (t.handleScanResults env observations).station.catalogue = _
      by_cases off : before.state = .off
      · simp [Turn.handleScanResults, informed, scan?, t, off]
      · simp only [informed, scan?, if_neg off]
        exact t.catalogue_handleScanResults env off observations
    | _ => cases may
  | _ => cases may

/-- A move leaves the connection as it was or without one, unless an attempt was accepted. -/
theorem connection_cases {m : Move} (live : m.op ≠ .shutdown) :
    m.after.connection = none ∨
      (m.after.connection = m.before.connection ∧ m.picked (begun m.env) = []) ∨
      ∃ c call, m.before.isBusy = false ∧ m.after.connection = some c ∧
        m.after.catalogue = m.informed.catalogue ∧
        Turn.plan m.env m.informed c.network c.address = .ok call ∧
        m.picked (begun m.env) = [call] := by
  have fresh : Turn.picked (begun m.env) { station := m.before } = [] := rfl
  cases may : m.op.mayAttempt with
  | false =>
    have quiet : m.picked (begun m.env) = [] :=
      Turn.picked_perform_of_not_mayAttempt { station := m.before } _ m.env may
    have changed := Turn.changed_perform { station := m.before } m.env live may
    cases changed with
    | same _ connection => exact .inr (.inl ⟨connection, quiet⟩)
    | released _ connection => exact .inl connection
    | cleared _ connection => exact .inl connection
    | failed _ _ connection => exact .inl connection
    | supplied _ _ _ connection => exact .inr (.inl ⟨connection, quiet⟩)
    | kept _ _ _ _ connection => exact .inr (.inl ⟨connection, quiet⟩)
  | true =>
    cases attempted_of_mayAttempt may with
    | none same connection => exact .inr (.inl ⟨connection, same.trans fresh⟩)
    | one free _ held catalogue planned new =>
      rw [fresh, List.nil_append] at new
      exact .inr (.inr ⟨_, _, free, held, catalogue, planned, new⟩)

end Move

/-! ### What never changes -/

/-- What an interface is from the start: its number, its paths, its address and its ciphers. -/
structure Own where
  index : Nat
  path : String
  adapterPath : String
  address : Address
  ciphers : CipherSet

def own (s : Station) : Own :=
  ⟨s.index, s.path, s.adapterPath, s.address, s.ciphers⟩

/-- What only watches that come and go change: who the interface is, and who watches it. -/
def lasting (s : Station) : Own × Watchlist Subscriber :=
  (s.own, s.watchers)

namespace Turn

variable (t : Turn) (env : Surroundings)

theorem lasting_connect (network : String) (a : Address) (r : Option Requester) :
    (t.connect env network a r).2.station.lasting = t.station.lasting := by
  rcases t.connect_cases env network a r with refused | ⟨_, _, _, _, _, _, h⟩
  · rw [refused.station_eq]
  · simp [h, lasting, own]

theorem lasting_selectNext : (t.selectNext env).station.lasting = t.station.lasting := by
  refine selectNext_induct (P := fun u => u.station.lasting = t.station.lasting) ?_ ?_ rfl
  · exact fun u rest same => same
  · exact fun u network a same => (u.lasting_connect env network a none).trans same

theorem lasting_handleScanResults (observations : List Observation) :
    (t.handleScanResults env observations).station.lasting = t.station.lasting := by
  have taken : (t.takeScan env observations).station.lasting = t.station.lasting := by simp [lasting, own]
  rw [handleScanResults_eq]
  split
  · rfl
  · split
    · rw [station_handleRegistrars]
      exact taken
    · split
      · exact (lasting_selectNext _ env).trans taken
      · exact taken

theorem lasting_perform {op : Operation} (still : op.isWatch = false) :
    (t.perform env op).2.station.lasting = t.station.lasting := by
  cases aside : op.isAside with
  | true =>
    have watchers := t.watchers_aside env aside still
    have own : (t.perform env op).2.station.own = t.station.own := by
      rw [t.station_aside env aside]
      rfl
    exact Prod.ext own watchers
  | false =>
    cases op with
    | notify notification =>
      cases notification with
      | up =>
        rw [perform, handle, station_handleUp]
        split <;> rfl
      | down =>
        rw [perform, handle, station_handleDown]
        split <;> rfl
      | scanResults observations => exact t.lasting_handleScanResults env observations
      | connectResult outcome =>
        rw [perform, handle, station_handleConnectResult]
        split
        · split <;> rfl
        · rfl
      | disconnectResult success =>
        rw [perform, handle, station_handleDisconnectResult]
        split <;> rfl
      | event event =>
        rw [perform, handle, station_handleLinkEvent]
        split
        case h_5 => rw [station_keepSecret]; rfl
        all_goals rfl
      | renamed _ | scanTriggered _ | powerResult _ => cases aside
    | connect network a r => exact t.lasting_connect env network a r
    | connectNetwork network r =>
      rcases t.connectNetwork_cases env network r with refused | ⟨a, h⟩
      · rw [perform, refused.station_eq]
      · rw [perform, h]
        exact t.lasting_connect env network a r
    | disconnect r =>
      rcases t.disconnect_cases env r with refused | ⟨_, _, h⟩
      · rw [perform, refused.station_eq]
      · simp [perform, h, lasting, own]
    | setSecret network settings =>
      rcases t.setSecret_cases env network settings with refused | h
      · rw [perform, refused.station_eq]
      · rw [perform, h]
        rfl
    | setAutoconnect enabled =>
      rw [perform, station_setAutoconnect]
      split
      · rfl
      · split
        · rfl
        · split <;> rfl
    | selectNext => exact t.lasting_selectNext env
    | shutdown => cases still
    | scan _ | setPowered _ _ | pushButton _ | subscribe _ _ | unsubscribe _ => cases aside
    | cancelEnrollment | completeEnrollment _ => cases aside

theorem own_perform {op : Operation} (live : op ≠ .shutdown) :
    (t.perform env op).2.station.own = t.station.own := by
  cases watch : op.isWatch with
  | false => exact congrArg Prod.fst (t.lasting_perform env watch)
  | true =>
    cases op with
    | subscribe _ _ => rfl
    | unsubscribe _ =>
      rw [t.station_aside env rfl]
      rfl
    | shutdown => exact absurd rfl live
    | _ => cases watch

end Turn

theorem Move.own_informed (m : Move) : m.informed.own = m.before.own := by
  unfold informed
  split
  · simp [own]
  · rfl

/-- An interface stays who it is. -/
theorem Run.own_eq {start s : Station} {moves : List Move} (run : Run start moves s) :
    s.own = start.own := by
  refine run.induct (P := fun s => s.own = start.own) rfl ?_
  intro s env op live same
  exact (Turn.own_perform { station := s } env live).trans same

end WirelessStation.Station
