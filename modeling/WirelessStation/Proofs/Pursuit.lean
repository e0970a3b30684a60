import WirelessStation.Proofs.Answers
import WirelessStation.Proofs.Calls
import WirelessStation.Proofs.Selecting
import WirelessStation.Proofs.Successes

/-! # What a success says about the connection

Whoever waits for a connection waits for the outcome of one attempt.  Until the outcome is in, the
attempt goes on, or a disconnect was accepted that ended it (`Pursuit`): every other end of an
attempt answers whoever waits.  A success that is reported then brings the connection up in the
first case and changes nothing but the slot in the second.

* `Pursuit.move`: what becomes of an attempt in one operation.
* `Run.pursuit`: the request that somebody waits for, and what has become of its attempt.
* `success_means_connected`: what a requester who is told of a success may rely on. -/

namespace WirelessStation.Station

namespace Move

/-- A disconnect is asked for and accepted. -/
def disconnects (m : Move) : Bool :=
  match m.op, m.result with
  | .disconnect _, .ok _ => true
  | _, _ => false

variable {m : Move}

theorem disconnects_of_ne (other : ∀ r, m.op ≠ .disconnect r) : m.disconnects = false := by
  unfold disconnects
  split
  next r _ asked _ => exact absurd asked (other r)
  next => rfl

theorem disconnects_of_refused (failed : m.result ≠ .ok ()) : m.disconnects = false := by
  unfold disconnects
  split
  next ok => exact absurd ok failed
  next => rfl

end Move

/-- What has become of the attempt at `c` in the course of some moves: it goes on, or a disconnect
has ended it. -/
inductive Pursuit (c : Connection) (later : List Move) (s : Station) : Prop
  | underway (state : s.state = .connecting) (connection : s.connection = some c)
      (undisturbed : ∀ m ∈ later, m.disconnects = false)
  | ended (state : s.state ≠ .connecting) (connection : s.connection = none)
      (disconnected : ∃ m ∈ later, m.disconnects = true)

/-! ### One operation -/

/-- While somebody waits for a connection, the connection stays as it is and an attempt goes on or
does not, unless a disconnect is accepted. -/
structure Waits (s s' : Station) : Prop where
  connection : s'.connection = s.connection
  connecting : s'.state = .connecting ↔ s.state = .connecting

namespace Waits

variable {s s' : Station}

theorem of_eq (connection : s'.connection = s.connection) (state : s'.state = s.state) :
    Waits s s' :=
  ⟨connection, by rw [state]⟩

theorem of_refused {t : Turn} {env : Surroundings} {r : Option Requester} {outcome : Result × Turn}
    (refused : Refused env r t outcome) : Waits t.station outcome.2.station := by
  rw [refused.station_eq]
  exact .of_eq rfl rfl

end Waits

namespace Turn

variable {t : Turn} (env : Surroundings) (waiting : t.station.pending.connect.isSome = true)

include waiting

theorem isBusy_of_waiting : t.station.isBusy = true := by
  simp [isBusy, waiting]

theorem waits_connect (network : String) (a : Address) (r : Option Requester) :
    (t.connect env network a r).2.station = t.station := by
  rcases t.connect_cases env network a r with refused | ⟨_, _, _, free, _, _, _⟩
  · exact refused.station_eq
  · rw [isBusy_of_waiting waiting] at free
    cases free

theorem waits_selectNext : Waits t.station (t.selectNext env).station := by
  obtain ⟨_, same⟩ := station_selectNext_busy env (isBusy_of_waiting waiting)
  rw [same]
  exact .of_eq rfl rfl

theorem waits_handleScanResults (observations : List Observation) :
    Waits t.station (t.handleScanResults env observations).station := by
  have taken : Waits t.station (t.takeScan env observations).station := .of_eq (by simp) (by simp)
  rw [handleScanResults_eq]
  split
  · exact .of_eq rfl rfl
  · split
    · rw [station_handleRegistrars]
      exact .of_eq taken.connection (by simp)
    · split
      · have round : ((t.takeScan env observations).refill env).station.pending.connect.isSome =
            true := by simpa using waiting
        have same := waits_selectNext env round
        exact ⟨same.connection.trans (by simp), same.connecting.trans (by simp)⟩
      · exact taken

/-- Every report of the link layer that has to do with the connection leaves whoever waits for it to
wait on, or answers them. -/
theorem waits_handle (linked : Linked t.station) {notification : Notification}
    (aside : (Operation.notify notification).isAside = false)
    (still : (t.handle env notification).station.pending.connect.isSome = true) :
    Waits t.station (t.handle env notification).station := by
  cases notification with
  | up =>
    rw [handle, station_handleUp]
    split
    next off =>
      refine ⟨rfl, ?_⟩
      cases auto : t.station.autoconnect <;> simp [State.idle, off]
    next => exact .of_eq rfl rfl
  | down =>
    rw [handle, station_handleDown] at still ⊢
    split
    · exact .of_eq rfl rfl
    next up =>
      -- An interface that goes down answers whoever waits.
      simp [up] at still
  | scanResults observations => exact waits_handleScanResults env waiting observations
  | connectResult outcome =>
    have gone : (t.handleConnectResult outcome).station.pending.connect = none := by
      rw [station_handleConnectResult]
      split
      · split <;> rfl
      · rfl
    rw [handle, gone] at still
    cases still
  | disconnectResult success =>
    rw [handle, station_handleDisconnectResult]
    split
    next ending =>
      have none : t.station.connection = none :=
        linked.connection_eq_none (by simp [ending]) (by simp [ending])
      refine ⟨none.symm, ?_⟩
      cases auto : t.station.autoconnect <;> simp [State.idle, ending]
    next => exact .of_eq rfl rfl
  | event event =>
    rw [handle, station_handleLinkEvent] at still ⊢
    cases held : t.station.connection with
    | none => exact .of_eq rfl rfl
    | some c =>
      cases event with
      | authenticating | associating | handshaking => exact .of_eq rfl rfl
      | settingKeys =>
        simp only [station_keepSecret]
        exact .of_eq rfl rfl
      | lostBeacon | apDisconnect =>
        -- So does a connection that is lost.
        simp [held, Pending.set] at still
  | renamed _ | scanTriggered _ | powerResult _ => cases aside

/-- Every operation leaves whoever waits for a connection to wait on, answers them, or is a
disconnect. -/
theorem waits_perform (linked : Linked t.station) {op : Operation} (live : op ≠ .shutdown)
    (other : ∀ r, op ≠ .disconnect r)
    (still : (t.perform env op).2.station.pending.connect.isSome = true) :
    Waits t.station (t.perform env op).2.station := by
  cases aside : op.isAside with
  | true =>
    rw [t.station_aside env aside]
    exact .of_eq rfl rfl
  | false =>
    cases op with
    | notify notification => exact waits_handle env waiting linked aside still
    | connect network a r =>
      rw [perform, waits_connect env waiting]
      exact .of_eq rfl rfl
    | connectNetwork network r =>
      rcases t.connectNetwork_cases env network r with refused | ⟨a, outcome⟩
      · exact .of_refused refused
      · rw [perform, outcome, waits_connect env waiting]
        exact .of_eq rfl rfl
    | disconnect r => exact absurd rfl (other r)
    | setSecret network settings =>
      rcases t.setSecret_cases env network settings with refused | outcome
      · exact .of_refused refused
      · rw [perform, outcome]
        exact .of_eq rfl rfl
    | setAutoconnect enabled =>
      rw [perform, station_setAutoconnect]
      split
      next => exact .of_eq rfl rfl
      split
      next on => exact ⟨rfl, by simp [on.1]⟩
      split
      next off => exact ⟨rfl, by simp [off.1]⟩
      next => exact .of_eq rfl rfl
    | selectNext => exact waits_selectNext env waiting
    | shutdown => exact absurd rfl live
    | scan _ | setPowered _ _ | pushButton _ | subscribe _ _ | unsubscribe _ => cases aside
    | cancelEnrollment | completeEnrollment _ => cases aside

end Turn

/-- While somebody waits for a connection, an operation is a disconnect that is accepted, or it
leaves the attempt and the connection as they are. -/
theorem Move.waits_cases {m : Move} (linked : Linked m.before) (live : m.op ≠ .shutdown)
    (waiting : m.before.pending.connect.isSome = true)
    (still : m.after.pending.connect.isSome = true) :
    (m.disconnects = false ∧ Waits m.before m.after) ∨
      (m.disconnects = true ∧ m.after.state = .disconnecting ∧ m.after.connection = none) := by
  obtain ⟨s, env, op⟩ := m
  let t : Turn := { station := s }
  by_cases asked : ∃ r, op = .disconnect r
  · obtain ⟨r, rfl⟩ := asked
    have result : (Move.mk s env (.disconnect r)).result = (t.disconnect env r).1 := rfl
    have after : (Move.mk s env (.disconnect r)).after = (t.disconnect env r).2.station := rfl
    rcases t.disconnect_cases env r with refused | ⟨_, _, outcome⟩
    · refine .inl ⟨disconnects_of_refused ?_, .of_refused refused⟩
      rw [result]
      exact refused.result_ne_ok
    · right
      simp [disconnects, result, after, outcome]
  · have other : ∀ r, op ≠ .disconnect r := fun r asks => asked ⟨r, asks⟩
    exact .inl ⟨disconnects_of_ne other, Turn.waits_perform env waiting linked live other still⟩

/-! ### A whole run -/

/-- As long as somebody waits for the outcome, an attempt goes on until a disconnect ends it. -/
theorem Pursuit.move {c : Connection} {later : List Move} {m : Move}
    (h : Pursuit c later m.before) (linked : Linked m.before) (live : m.op ≠ .shutdown)
    (waiting : m.before.pending.connect.isSome = true)
    (still : m.after.pending.connect.isSome = true) : Pursuit c (later ++ [m]) m.after := by
  rcases Move.waits_cases linked live waiting still with
    ⟨quiet, kept⟩ | ⟨disconnects, state, connection⟩
  · cases h with
    | underway state connection undisturbed =>
      refine .underway (kept.connecting.2 state) (kept.connection.trans connection) ?_
      rw [List.forall_mem_append, List.forall_mem_singleton]
      exact ⟨undisturbed, quiet⟩
    | ended state connection disconnected =>
      refine .ended (mt kept.connecting.1 state) (kept.connection.trans connection) ?_
      obtain ⟨d, there, disconnects⟩ := disconnected
      exact ⟨d, List.mem_append_left _ there, disconnects⟩
  · exact .ended (by simp [state]) connection ⟨m, by simp, disconnects⟩

/-- A request for a connection changes nothing or begins the attempt that it asks for. -/
theorem Move.begins_cases {m : Move} (asks : m.op.slot? = some .connect) :
    m.after = m.before ∨
      ∃ c, m.targets = [c] ∧ m.after.state = .connecting ∧ m.after.connection = some c := by
  obtain ⟨s, env, op⟩ := m
  let t : Turn := { station := s }
  have connected (network : String) (a : Address) (r : Option Requester) :
      (t.connect env network a r).2.station = s ∨
        ((t.connect env network a r).2.station.state = .connecting ∧
          (t.connect env network a r).2.station.connection = some ⟨network, a⟩) := by
    rcases t.connect_cases env network a r with refused | ⟨_, _, _, _, _, _, outcome⟩
    · exact .inl refused.station_eq
    · right
      simp [outcome]
  cases op with
  | connect network a r =>
    rcases connected network a r with same | begun
    · exact .inl same
    · exact .inr ⟨⟨network, a⟩, rfl, begun⟩
  | connectNetwork network r =>
    have after : (Move.mk s env (.connectNetwork network r)).after =
        (t.connectNetwork env network r).2.station := rfl
    cases best : (s.catalogue.network? network).bind Network.best? with
    | none =>
      left
      simp [after, Turn.connectNetwork, t, best]
    | some p =>
      have outcome : t.connectNetwork env network r = t.connect env network p.address r := by
        simp [Turn.connectNetwork, t, best]
      rw [after, outcome]
      rcases connected network p.address r with same | begun
      · exact .inl same
      · exact .inr ⟨⟨network, p.address⟩, by simp [targets, best], begun⟩
  | notify _ | scan _ | disconnect _ | setPowered _ _ | pushButton _ => cases asks
  | cancelEnrollment | completeEnrollment _ | setSecret _ _ | setAutoconnect _ => cases asks
  | selectNext | subscribe _ _ | unsubscribe _ | shutdown => cases asks

/-- Whoever waits for a connection has asked for one, and the attempt that began then goes on or was
ended by a disconnect. -/
theorem Run.pursuit {i : Interface} {config : Config} {moves : List Move} {s : Station}
    (run : Run (.new i config) moves s) {r : Requester} (waits : s.pending.connect = some r) :
    ∃ earlier m later c, moves = earlier ++ m :: later ∧ m.op.requester? = some r ∧
      m.targets = [c] ∧ Pursuit c later s := by
  induction run with
  | start => cases waits
  | @move moves s run env op live ih =>
    let last : Move := ⟨s, env, op⟩
    have waits : last.after.pending.connect = some r := waits
    have earlier (before : s.pending.connect = some r) :
        ∃ earlier m later c, moves ++ [last] = earlier ++ m :: later ∧ m.op.requester? = some r ∧
          m.targets = [c] ∧ Pursuit c later last.after := by
      obtain ⟨earlier, m, later, c, rfl, asking, target, pursued⟩ := ih before
      refine ⟨earlier, m, later ++ [last], c, by simp, asking, target, ?_⟩
      exact pursued.move (m := last) run.linked live (by simp [last, before]) (by simp [waits])
    rcases Turn.pending_perform { station := s } env live .connect waits with
      before | ⟨asks, asking⟩
    · exact earlier before
    · rcases Move.begins_cases (m := last) asks with same | ⟨c, target, state, connection⟩
      · exact earlier ((congrArg (·.pending.connect) same).symm.trans waits)
      · exact ⟨moves, last, [], c, rfl, asking, target, .underway state connection (by simp)⟩

/-! ### Successes -/

/-- What a request has targets for is a connection. -/
theorem Move.slot?_of_targets {m : Move} {r : Requester} (asking : m.op.requester? = some r)
    {c : Connection} (target : m.targets = [c]) : m.op.slot? = some .connect := by
  obtain ⟨s, env, op⟩ := m
  cases op with
  | connect _ _ _ | connectNetwork _ _ => rfl
  | notify _ | cancelEnrollment | completeEnrollment _ | setSecret _ _ => cases asking
  | setAutoconnect _ | selectNext | subscribe _ _ | unsubscribe _ | shutdown => cases asking
  | scan _ | disconnect _ | setPowered _ _ | pushButton _ => cases target

/-- A successful attempt brings the connection up if it is still wanted. -/
theorem after_success {s : Station} {env : Surroundings} :
    (s.step env (.notify (.connectResult .success))).2.station =
      if s.state = .connecting ∧ s.connection.isSome = true then
        { s with
          pending := s.pending.set .connect none
          state := .connected, periodicScan := false, autoconnect := true }
      else { s with pending := s.pending.set .connect none } := by
  show (Turn.handleConnectResult .success { station := s }).station = _
  rw [Turn.station_handleConnectResult]
  by_cases connecting : s.state = .connecting
  · cases held : s.connection <;> simp [connecting, held]
  · simp [connecting]

section Fresh

variable {i : Interface} {config : Config} {moves : List Move} {m : Move}
  (run : Run (.new i config) moves m.before)
  (fresh : ((moves ++ [m]).filterMap fun m => m.op.requester?).Nodup)
  {asked : Move} (there : asked ∈ moves ++ [m]) {r : Requester}
  (asking : asked.op.requester? = some r)

include run fresh there asking

/-- If no requester is used twice, whoever waits in a slot has made no request but one for that
slot. -/
theorem Run.slot?_of_pending (slot : Slot) (waits : m.before.pending.get slot = some r) :
    asked.op.slot? = some slot := by
  obtain ⟨m', before, asks, same⟩ := run.of_pending waits
  have only : m' = asked :=
    eq_of_nodup_filterMap fresh (List.mem_append_left _ before) there same asking
  rwa [← only]

/-- If no requester is used twice, one who has asked for a connection is told of a success only by
the report of a successful attempt, and while waiting for it. -/
theorem Run.granted_connect (slot : asked.op.slot? = some .connect) (told : m.granted = some r) :
    m.op = .notify (.connectResult .success) ∧ m.before.pending.connect = some r := by
  unfold Move.granted at told
  split at told
  next =>
    have other := run.slot?_of_pending fresh there asking .scan told
    cases slot.symm.trans other
  next here => exact ⟨here, told⟩
  next =>
    have other := run.slot?_of_pending fresh there asking .disconnect told
    cases slot.symm.trans other
  next =>
    have other := run.slot?_of_pending fresh there asking .power told
    cases slot.symm.trans other
  next =>
    obtain ⟨m', before, enrolls⟩ := run.of_enrollment told
    have only : m' = asked :=
      eq_of_nodup_filterMap fresh (List.mem_append_left _ before) there (by simp [enrolls,
        Operation.requester?]) asking
    rw [← only, enrolls] at slot
    cases slot
  next on r' here =>
    split at told
    · obtain rfl := Option.some.inj told
      have only : m = asked :=
        eq_of_nodup_filterMap fresh (by simp) there (by simp [here, Operation.requester?]) asking
      rw [← only, here] at slot
      cases slot
    · cases told
  next => cases told

/-- Let no requester be used twice, and let one who has asked for a connection to a network and an
access point be told of a success.  Then the link layer has just reported that an attempt succeeded,
and the request was made earlier.  If no disconnect was accepted since then, the station is now
connected to that access point of that network.  If one was, there is no connection, and nothing
changes but that the requester no longer waits. -/
theorem success_means_connected {c : Connection} (target : asked.targets = [c])
    (told : r ∈ m.picked succeeded) :
    m.op = .notify (.connectResult .success) ∧
      ∃ earlier later, moves = earlier ++ asked :: later ∧
        ((∀ d ∈ later, d.disconnects = false) →
          m.after.state = .connected ∧ m.after.connection = some c) ∧
        ((∃ d ∈ later, d.disconnects = true) →
          m.after.connection = none ∧
            m.after = { m.before with pending := m.before.pending.set .connect none }) := by
  have slot := Move.slot?_of_targets asking target
  rw [Move.picked_succeeded, Option.mem_toList] at told
  obtain ⟨report, waits⟩ := run.granted_connect fresh there asking slot told
  obtain ⟨earlier, m', later, c', rfl, same, target', pursued⟩ := run.pursuit waits
  obtain rfl : m' = asked := eq_of_nodup_filterMap fresh (by simp) there same asking
  obtain rfl : c' = c := by simpa [target'] using target
  have after : m.after = _ := (congrArg (fun op => (m.before.step m.env op).2.station) report).trans
    after_success
  refine ⟨report, earlier, later, rfl, ?_, ?_⟩
  · intro undisturbed
    cases pursued with
    | underway state connection _ =>
      simp [after, state, connection]
    | ended _ _ disconnected =>
      obtain ⟨d, between, disconnects⟩ := disconnected
      rw [undisturbed d between] at disconnects
      cases disconnects
  · rintro ⟨d, between, disconnects⟩
    cases pursued with
    | underway _ _ undisturbed =>
      rw [undisturbed d between] at disconnects
      cases disconnects
    | ended state connection _ => simp [after, state, connection]

end Fresh

/-- The request of the sample attempt. -/
def Sample.request : Move :=
  ⟨station.played hearing, surroundings true, .connect network accessPoint (some (.request 0))⟩

theorem Sample.request_mem : request ∈ station.play connecting := by
  simp [request, connecting, hearing, play, played]

/-- The report of success comes while the attempt is under way. -/
theorem success_means_connected_at_once :
    let m : Move := ⟨Sample.station.played Sample.connecting, Sample.surroundings true,
      .notify (.connectResult .success)⟩
    .request 0 ∈ m.picked succeeded ∧ m.after.state = .connected ∧
      m.after.connection = some ⟨Sample.network, Sample.accessPoint⟩ := by
  intro m
  have told : .request 0 ∈ m.picked succeeded := by
    rw [Move.picked_succeeded, Option.mem_toList]
    decide +kernel
  have fresh : ((Sample.station.play Sample.connecting ++ [m]).filterMap fun m =>
      m.op.requester?).Nodup := by decide +kernel
  have there : Sample.request ∈ Sample.station.play Sample.connecting ++ [m] :=
    List.mem_append_left _ Sample.request_mem
  obtain ⟨_, earlier, later, parts, undisturbed, _⟩ :=
    success_means_connected (m := m) Sample.run_connecting fresh there rfl rfl told
  have none : ∀ d ∈ Sample.station.play Sample.connecting, d.disconnects = false := by
    decide +kernel
  refine ⟨told, undisturbed fun d between => none d ?_⟩
  rw [parts]
  exact List.mem_append_right _ (List.mem_cons_of_mem _ between)

/-- A disconnect is accepted while the attempt is under way, and only then the link layer reports
that the attempt succeeded: the requester is told of a success, and there is no connection. -/
theorem success_after_disconnect :
    let asked := Sample.connecting ++ [(Sample.surroundings true, .disconnect none)]
    let m : Move := ⟨Sample.station.played asked, Sample.surroundings true,
      .notify (.connectResult .success)⟩
    Run (.new Sample.interface {}) (Sample.station.play asked) m.before ∧
      Sample.request ∈ Sample.station.play asked ∧
      Sample.request.op = .connect Sample.network Sample.accessPoint (some (.request 0)) ∧
      .request 0 ∈ m.picked succeeded ∧ m.after.state ≠ .connected ∧
      m.after.connection = none := by
  intro asked m
  refine ⟨Sample.run asked ?_, ?_, rfl, ?_, ?_, ?_⟩
  · simp [asked, Sample.connecting, Sample.hearing]
  · simp [Sample.request, asked, Sample.connecting, Sample.hearing, play, played]
  · rw [Move.picked_succeeded, Option.mem_toList]
    decide +kernel
  · decide +kernel
  · decide +kernel

end WirelessStation.Station
