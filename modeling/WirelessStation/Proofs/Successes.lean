import WirelessStation.Proofs.Enrolling

/-! # Who is told of a success

Most answers tell of a failure.  A requester is told of a success by five reports and requests
alone, each of which concerns the requester of one place to wait in, and by a request for power
where nothing is to be done (`Move.granted`).  `Move.picked_succeeded` says that these are all.

Whoever waits in a place came there with a request of the kind that the place is for
(`Run.of_pending`, `Run.of_enrollment`), so that requests of different kinds are told of a success
by different reports. -/

namespace WirelessStation

namespace Station

/-- Picks out whom an effect tells of a success. -/
def succeeded : Observer Requester where
  pick
    | _, .answer r (.ok _) => some r
    | _, _ => none

instance : succeeded.Overlooks where
  announce _ _ _ := rfl
  periodicScan _ _ := rfl

section Effects

variable (before : List Effect)

@[simp] theorem succeeded_ok (r : Requester) (u : Unit) :
    succeeded.pick before (.answer r (.ok u)) = some r := rfl

@[simp] theorem succeeded_error (r : Requester) (e : Error) :
    succeeded.pick before (.answer r (.error e)) = none := rfl

@[simp] theorem succeeded_link (c : LinkCall) : succeeded.pick before (.link c) = none := rfl

@[simp] theorem succeeded_store (c : StoreCall) : succeeded.pick before (.store c) = none := rfl

@[simp] theorem succeeded_drop (r : Requester) : succeeded.pick before (.drop r) = none := rfl

@[simp] theorem succeeded_cleanup (w : Subscriber) :
    succeeded.pick before (.cleanup w) = none := rfl

end Effects

namespace Turn

variable (t : Turn) (env : Surroundings)

/-! ### Parts of a turn -/

@[simp] theorem succeeded_reply_ok (slot : Slot) (u : Unit) :
    (t.reply slot (.ok u)).picked succeeded =
      t.picked succeeded ++ (t.station.pending.get slot).toList := by
  cases h : t.station.pending.get slot <;> simp [picked_reply, h]

@[simp] theorem succeeded_reply_error (slot : Slot) (e : Error) :
    (t.reply slot (.error e)).picked succeeded = t.picked succeeded := by
  simp [picked_reply]

@[simp] theorem succeeded_endEnrollment_error (e : Error) :
    (t.endEnrollment (.error e)).picked succeeded = t.picked succeeded := by
  simp [picked_endEnrollment]

@[simp] theorem succeeded_hold (slot : Slot) (r : Option Requester) :
    (t.hold slot r).picked succeeded = t.picked succeeded := by
  simp [hold, picked_dropRequester]

@[simp] theorem succeeded_refuse (e : Error) (r : Option Requester) :
    (t.refuse e r).2.picked succeeded = t.picked succeeded := by
  simp [refuse, picked_dropRequester]

theorem succeeded_refused {r : Option Requester} {outcome : Result × Turn}
    (h : Refused env r t outcome) : outcome.2.picked succeeded = t.picked succeeded := by
  cases h <;> simp

theorem succeeded_connect (network : String) (a : Address) (r : Option Requester) :
    (t.connect env network a r).2.picked succeeded = t.picked succeeded := by
  rcases t.connect_cases env network a r with refused | ⟨_, _, _, _, _, _, h⟩
  · exact t.succeeded_refused env refused
  · simp [h, begin]

theorem succeeded_selectNext : (t.selectNext env).picked succeeded = t.picked succeeded := by
  refine selectNext_induct (P := fun u => u.picked succeeded = t.picked succeeded) ?_ ?_ rfl
  · exact fun u rest same => same
  · exact fun u network a same => (u.succeeded_connect env network a none).trans same

/-! ### Reports of the link layer -/

theorem succeeded_handleDown : t.handleDown.picked succeeded = t.picked succeeded := by
  unfold handleDown
  split
  · rfl
  · simp [abortRequests]

theorem succeeded_handleScanTriggered_error (e : Error) :
    (t.handleScanTriggered (.error e)).picked succeeded = t.picked succeeded := by
  simp only [handleScanTriggered]
  split
  · simp
  · split <;> simp

theorem succeeded_handleRegistrars (registrars : List Observation) :
    (t.handleRegistrars env registrars).picked succeeded = t.picked succeeded := by
  cases t.sought_handleRegistrars env registrars with
  | settled _ same => rw [same]
  | found _ _ _ outcome | overlap _ _ _ outcome => simp [outcome]
  | again _ _ _ _ outcome | refused _ _ _ _ outcome => simp [outcome]

theorem succeeded_handleScanResults (observations : List Observation) :
    (t.handleScanResults env observations).picked succeeded = t.picked succeeded := by
  have taken : (t.takeScan env observations).picked succeeded = t.picked succeeded := by simp
  rw [handleScanResults_eq]
  split
  · rfl
  · split
    · exact (succeeded_handleRegistrars _ env _).trans taken
    · split
      · exact (succeeded_selectNext _ env).trans taken
      · exact taken

/-- Whoever waits for a connection is told of a success if that is the outcome; what follows tells
nobody else. -/
theorem succeeded_handleConnectResult (outcome : Outcome) :
    (t.handleConnectResult outcome).picked succeeded =
      (t.reply .connect outcome.result).picked succeeded := by
  unfold handleConnectResult
  simp only
  generalize t.reply .connect outcome.result = t
  split
  · rfl
  · split
    next => rfl
    next c _ =>
      cases outcome with
      | success => cases t.station.catalogue.network? c.network <;> simp
      | aborted | handshakeFailed | linkFailed => simp

theorem succeeded_handleDisconnectResult (success : Bool) :
    (t.handleDisconnectResult success).picked succeeded =
      t.picked succeeded ++ if success then t.station.pending.disconnect.toList else [] := by
  have ending (u : Turn) :
      (if u.station.state ≠ .disconnecting then u else u.disassociate).picked succeeded =
        u.picked succeeded := by
    split <;> simp
  unfold handleDisconnectResult
  simp only
  rw [ending]
  cases success <;> simp [Pending.get]

theorem succeeded_handleLinkEvent (event : LinkEvent) :
    (t.handleLinkEvent event).picked succeeded = t.picked succeeded := by
  unfold handleLinkEvent
  split
  next => rfl
  next c _ =>
    cases event with
    | authenticating | associating | handshaking => rfl
    | settingKeys =>
      simp only [keepSecret]
      split
      · rfl
      · rw [picked_foldl_record]
        · rfl
        · exact fun c _ before => succeeded_store before c
    | lostBeacon => simp
    | apDisconnect =>
      simp only
      split <;> simp

/-! ### Requests -/

/-- A request for power is answered at once where nothing is to be done. -/
theorem succeeded_setPowered (on : Bool) (r : Requester) :
    (t.setPowered env on r).2.picked succeeded =
      t.picked succeeded ++ if on = t.station.isPowered then [r] else [] := by
  unfold setPowered
  split
  next => simp
  next =>
    split
    · simp
    · rw [call_eq]
      cases env.accepts t.log (.power on) <;> simp

theorem succeeded_storeCredentials (credentials : List Enrollment.Credential) :
    (t.storeCredentials credentials).picked succeeded = t.picked succeeded := by
  unfold storeCredentials
  rw [picked_foldl_record]
  exact fun c _ before => succeeded_store before _

theorem succeeded_completeEnrollment (outcome : Except Error (List Enrollment.Credential)) :
    (t.completeEnrollment outcome).2.picked succeeded =
      t.picked succeeded ++
        match outcome with
        | .ok _ => (t.station.enrollment.map (·.requester)).toList
        | .error _ => [] := by
  unfold completeEnrollment isEnrolling
  cases enrolling : t.station.enrollment with
  | none => cases outcome <;> simp
  | some session =>
    cases outcome with
    | ok credentials =>
      have kept : (t.storeCredentials credentials).station = t.station :=
        station_foldl_record ..
      simp [enrolling, picked_endEnrollment, kept, succeeded_storeCredentials]
    | error e => simp

theorem succeeded_shutdown : t.shutdown.picked succeeded = t.picked succeeded := by
  unfold shutdown
  simp only
  rw [picked_foldl_record]
  · simp [abortRequests]
  · exact fun w _ before => succeeded_cleanup before w

end Turn

/-! ### Whom an operation tells of a success -/

/-- Whoever an operation tells of a success. -/
def Move.granted (m : Move) : Option Requester :=
  match m.op with
  | .notify (.scanTriggered (.ok _)) => m.before.pending.scan
  | .notify (.connectResult .success) => m.before.pending.connect
  | .notify (.disconnectResult true) => m.before.pending.disconnect
  | .notify (.powerResult (.ok _)) => m.before.pending.power
  | .completeEnrollment (.ok _) => m.before.enrollment.map (·.requester)
  | .setPowered on r => if on = m.before.isPowered then some r else none
  | _ => none

/-- A report of the link layer tells nobody else of a success. -/
theorem Move.picked_succeeded_report (s : Station) (env : Surroundings)
    (notification : Notification) :
    (Move.mk s env (.notify notification)).picked succeeded =
      (Move.mk s env (.notify notification)).granted.toList := by
  let t : Turn := { station := s }
  have fresh : t.picked succeeded = [] := rfl
  show (t.handle env notification).picked succeeded = _
  cases notification with
  | up =>
    simp only [Turn.handle, Turn.handleUp]
    split
    · exact fresh
    · simp [fresh, granted]
  | down => exact t.succeeded_handleDown.trans fresh
  | renamed name =>
    simp only [Turn.handle, Turn.handleRenamed]
    split
    · exact fresh
    · simp [fresh, granted]
  | scanTriggered result =>
    cases result with
    | ok _ => simp [Turn.handle, Turn.handleScanTriggered, fresh, granted, t,
        Pending.get]
    | error e => exact (t.succeeded_handleScanTriggered_error e).trans fresh
  | scanResults observations =>
    exact (t.succeeded_handleScanResults env observations).trans fresh
  | connectResult outcome =>
    refine (t.succeeded_handleConnectResult outcome).trans ?_
    cases outcome <;>
      simp [Outcome.result, Outcome.error?, fresh, granted, t, Pending.get]
  | disconnectResult success =>
    refine (t.succeeded_handleDisconnectResult success).trans ?_
    cases success <;> simp [fresh, granted, t]
  | event event => exact (t.succeeded_handleLinkEvent event).trans fresh
  | powerResult result =>
    cases result <;>
      simp [Turn.handle, Turn.handlePowerResult, fresh, granted, t, Pending.get]

/-- An operation tells nobody else of a success. -/
theorem Move.picked_succeeded (m : Move) : m.picked succeeded = m.granted.toList := by
  obtain ⟨s, env, op⟩ := m
  let t : Turn := { station := s }
  have fresh : t.picked succeeded = [] := rfl
  show (t.perform env op).2.picked succeeded = _
  cases op with
  | notify notification => exact picked_succeeded_report s env notification
  | scan r =>
    rcases t.scan_cases env r with refused | ⟨_, h⟩
    · exact (t.succeeded_refused env refused).trans fresh
    · simp [Turn.perform, h, fresh, granted]
  | connect network a r => exact (t.succeeded_connect env network a r).trans fresh
  | connectNetwork network r =>
    rcases t.connectNetwork_cases env network r with refused | ⟨a, h⟩
    · exact (t.succeeded_refused env refused).trans fresh
    · rw [Turn.perform, h]
      exact (t.succeeded_connect env network a r).trans fresh
  | disconnect r =>
    rcases t.disconnect_cases env r with refused | ⟨_, _, h⟩
    · exact (t.succeeded_refused env refused).trans fresh
    · simp [Turn.perform, h, fresh, granted]
  | setPowered on r =>
    refine (t.succeeded_setPowered env on r).trans ?_
    by_cases done : on = s.isPowered <;> simp [fresh, granted, t, done]
  | pushButton r =>
    rcases t.pushButton_cases env r with refused | ⟨_, _, _, h⟩
    · exact (t.succeeded_refused env refused).trans fresh
    · simp [Turn.perform, h, fresh, granted]
  | cancelEnrollment =>
    rcases t.cancelEnrollment_cases env with refused | h
    · exact (t.succeeded_refused env refused).trans fresh
    · simp [Turn.perform, h, fresh, granted]
  | completeEnrollment outcome =>
    refine (t.succeeded_completeEnrollment outcome).trans ?_
    cases outcome <;> simp [fresh, granted, t]
  | setSecret network settings =>
    rcases t.setSecret_cases env network settings with refused | h
    · exact (t.succeeded_refused env refused).trans fresh
    · simp [Turn.perform, h, fresh, granted]
  | setAutoconnect enabled =>
    simp only [Turn.perform, Turn.setAutoconnect]
    split
    · exact fresh
    · split
      · simp [fresh, granted]
      · split <;> simp [fresh, granted]
  | selectNext => exact (t.succeeded_selectNext env).trans fresh
  | subscribe watcher hasCleanup => exact fresh
  | unsubscribe id =>
    simp only [Turn.perform, Turn.unsubscribe]
    rw [Turn.picked_foldl_record]
    · exact fresh
    · exact fun w _ before => succeeded_cleanup before w
  | shutdown => exact t.succeeded_shutdown.trans fresh

/-! ### How requesters come to wait -/

end Station

/-- Nobody new waits in any slot. -/
def Pending.Drained (p p' : Pending) : Prop :=
  ∀ slot r, p'.get slot = some r → p.get slot = some r

namespace Pending

theorem Drained.refl (p : Pending) : p.Drained p := fun _ _ h => h

theorem Drained.trans {p q r : Pending} (h : p.Drained q) (h' : q.Drained r) : p.Drained r :=
  fun slot a held => h slot a (h' slot a held)

/-- Whoever waits in a slot after another one was put into some slot was there before, or is that
one. -/
theorem get_set_cases {p : Pending} {slot other : Slot} {new : Option Requester} {r : Requester}
    (h : (p.set other new).get slot = some r) :
    p.get slot = some r ∨ (other = slot ∧ new = some r) := by
  by_cases same : slot = other
  · subst same
    rw [get_set_same] at h
    exact .inr ⟨rfl, h⟩
  · rw [get_set_ne _ _ same] at h
    exact .inl h

theorem drained_set_none (p : Pending) (slot : Slot) : p.Drained (p.set slot none) := by
  intro other r held
  exact (get_set_cases held).resolve_right (by simp)

end Pending

namespace Station

/-- The slot for the requester of an operation. -/
def Operation.slot? : Operation → Option Slot
  | .scan _ => some .scan
  | .connect .. | .connectNetwork .. => some .connect
  | .disconnect _ => some .disconnect
  | .setPowered .. => some .power
  | _ => none

namespace Turn

variable (t : Turn) (env : Surroundings)

theorem drained_connect_unasked (network : String) (a : Address) :
    t.station.pending.Drained (t.connect env network a none).2.station.pending := by
  rcases t.connect_cases env network a none with refused | ⟨_, _, _, _, _, _, h⟩
  · rw [refused.station_eq]
    exact .refl _
  · rw [h, station_begin]
    exact Pending.drained_set_none _ _

theorem drained_selectNext :
    t.station.pending.Drained (t.selectNext env).station.pending := by
  refine selectNext_induct (P := fun u => t.station.pending.Drained u.station.pending) ?_ ?_
    (.refl _)
  · exact fun u rest h => h
  · exact fun u network a h => h.trans (u.drained_connect_unasked env network a)

/-- Reports of the link layer only let requesters go. -/
theorem drained_handle (notification : Notification) :
    t.station.pending.Drained (t.handle env notification).station.pending := by
  cases notification with
  | up =>
    rw [handle, station_handleUp]
    split <;> exact .refl _
  | down =>
    rw [handle, station_handleDown]
    split
    · exact .refl _
    · exact ((Pending.drained_set_none _ .scan).trans (Pending.drained_set_none _ .connect)).trans
        (Pending.drained_set_none _ .disconnect)
  | renamed name =>
    rw [handle, station_handleRenamed]
    exact .refl _
  | scanTriggered result =>
    rw [handle, station_handleScanTriggered]
    cases result with
    | ok _ => exact Pending.drained_set_none _ .scan
    | error e =>
      simp only
      split
      · exact Pending.drained_set_none _ .scan
      · split <;> exact .refl _
  | scanResults observations =>
    rw [handle, handleScanResults_eq]
    have taken : (t.takeScan env observations).station.pending = t.station.pending := by simp
    split
    · exact .refl _
    · split
      · rw [station_handleRegistrars, taken]
        exact .refl _
      · split
        · rw [← taken]
          exact drained_selectNext _ env
        · rw [taken]
          exact .refl _
  | connectResult outcome =>
    rw [handle, station_handleConnectResult]
    split
    · split <;> exact Pending.drained_set_none _ _
    · exact Pending.drained_set_none _ _
  | disconnectResult success =>
    rw [handle, station_handleDisconnectResult]
    split <;> exact Pending.drained_set_none _ _
  | event event =>
    rw [handle, station_handleLinkEvent]
    split
    case h_5 =>
      rw [station_keepSecret]
      exact .refl _
    case h_6 | h_7 => exact Pending.drained_set_none _ _
    all_goals exact .refl _
  | powerResult result =>
    rw [handle, handlePowerResult, station_reply]
    exact Pending.drained_set_none _ _

/-- Whoever waits in a slot was there before, or has come with a request for that slot. -/
theorem pending_perform {op : Operation} (live : op ≠ .shutdown) (slot : Slot) {r : Requester}
    (h : (t.perform env op).2.station.pending.get slot = some r) :
    t.station.pending.get slot = some r ∨ (op.slot? = some slot ∧ op.requester? = some r) := by
  have kept {asking : Option Requester} {outcome : Result × Turn}
      (refused : Refused env asking t outcome)
      (h : outcome.2.station.pending.get slot = some r) : t.station.pending.get slot = some r := by
    rwa [refused.station_eq] at h
  have connected (network : String) (a : Address) (asking : Option Requester)
      (h : (t.connect env network a asking).2.station.pending.get slot = some r) :
      t.station.pending.get slot = some r ∨ (Slot.connect = slot ∧ asking = some r) := by
    rcases t.connect_cases env network a asking with refused | ⟨_, _, _, _, _, _, outcome⟩
    · exact .inl (kept refused h)
    · rw [outcome, station_begin] at h
      exact Pending.get_set_cases h
  cases op with
  | notify notification => exact .inl (t.drained_handle env notification slot r h)
  | scan asking =>
    rcases t.scan_cases env asking with refused | ⟨_, outcome⟩
    · exact .inl (kept refused h)
    · rw [perform, outcome, station_hold] at h
      simpa [Operation.slot?, Operation.requester?] using Pending.get_set_cases h
  | connect network a asking =>
    simpa [Operation.slot?, Operation.requester?] using connected network a asking h
  | connectNetwork network asking =>
    rcases t.connectNetwork_cases env network asking with refused | ⟨a, outcome⟩
    · exact .inl (kept refused h)
    · rw [perform, outcome] at h
      simpa [Operation.slot?, Operation.requester?] using connected network a asking h
  | disconnect asking =>
    rcases t.disconnect_cases env asking with refused | ⟨_, _, outcome⟩
    · exact .inl (kept refused h)
    · rw [perform, outcome, station_hold] at h
      simpa [Operation.slot?, Operation.requester?] using Pending.get_set_cases h
  | setPowered on asking =>
    rcases t.setPowered_cases env on asking with refused | outcome | ⟨_, outcome⟩
    · exact .inl (kept refused h)
    · rw [perform, outcome] at h
      exact .inl h
    · rw [perform, outcome, station_hold] at h
      simpa [Operation.slot?, Operation.requester?] using Pending.get_set_cases h
  | pushButton asking =>
    rcases t.pushButton_cases env asking with refused | ⟨_, _, _, outcome⟩
    · exact .inl (kept refused h)
    · rw [perform, outcome] at h
      exact .inl h
  | cancelEnrollment =>
    rcases t.cancelEnrollment_cases env with refused | outcome
    · exact .inl (kept refused h)
    · rw [perform, outcome, station_endEnrollment] at h
      exact .inl h
  | completeEnrollment result =>
    rcases t.completeEnrollment_cases env result with refused | ⟨credentials, _, outcome⟩
    · exact .inl (kept refused h)
    · rw [perform, outcome, station_endEnrollment, storeCredentials, station_foldl_record] at h
      exact .inl h
  | setSecret network settings =>
    rcases t.setSecret_cases env network settings with refused | outcome
    · exact .inl (kept refused h)
    · rw [perform, outcome] at h
      exact .inl h
  | setAutoconnect enabled =>
    rw [perform, station_setAutoconnect] at h
    split at h
    · exact .inl h
    · split at h
      · exact .inl h
      · split at h <;> exact .inl h
  | selectNext => exact .inl (t.drained_selectNext env slot r h)
  | subscribe _ _ => exact .inl h
  | unsubscribe id =>
    rw [perform, unsubscribe, station_foldl_record] at h
    exact .inl h
  | shutdown => exact absurd rfl live

theorem enroller_handleRegistrars (registrars : List Observation) {session : Enrollment.Session}
    (h : (t.handleRegistrars env registrars).station.enrollment = some session) :
    t.station.enrollment.map (·.requester) = some session.requester := by
  cases t.sought_handleRegistrars env registrars with
  | settled _ same =>
    rw [same] at h
    simp [h]
  | found enrolling _ _ outcome | again enrolling _ _ _ outcome =>
    rw [outcome] at h
    obtain rfl := Option.some.inj h
    simp [enrolling]
  | overlap _ _ _ outcome | refused _ _ _ _ outcome =>
    rw [outcome, station_endEnrollment] at h
    cases h

theorem enroller_handleScanResults (observations : List Observation) {session : Enrollment.Session}
    (h : (t.handleScanResults env observations).station.enrollment = some session) :
    t.station.enrollment.map (·.requester) = some session.requester := by
  have taken : (t.takeScan env observations).station.enrollment.map (·.requester) =
      t.station.enrollment.map (·.requester) := by
    simp [Function.comp_def]
  rw [handleScanResults_eq] at h
  split at h
  · simp [h]
  · split at h
    · exact taken.symm.trans (enroller_handleRegistrars _ env _ h)
    · refine taken.symm.trans ?_
      split at h
      · rw [(scans_selectNext _ env).2] at h
        exact congrArg _ h
      · exact congrArg _ h

/-- Whoever waits for an enrollment did so before, or has come with a request for one. -/
theorem enroller_perform {op : Operation} (live : op ≠ .shutdown) {session : Enrollment.Session}
    (h : (t.perform env op).2.station.enrollment = some session) :
    t.station.enrollment.map (·.requester) = some session.requester ∨
      op = .pushButton session.requester := by
  have kept {r : Option Requester} {outcome : Result × Turn} (refused : Refused env r t outcome)
      (h : outcome.2.station.enrollment = some session) :
      t.station.enrollment.map (·.requester) = some session.requester := by
    rw [refused.station_eq] at h
    exact congrArg (Option.map _) h
  cases touches : op.touchesScans with
  | false =>
    rw [(t.scans_perform env live touches).2] at h
    exact .inl (by simp [h])
  | true =>
    cases op with
    | notify notification =>
      cases notification with
      | down =>
        rw [perform, handle, station_handleDown] at h
        split at h
        · exact .inl (by simp [h])
        · cases h
      | scanTriggered result =>
        left
        rw [perform, handle, station_handleScanTriggered] at h
        cases result with
        | ok _ => exact congrArg (Option.map _) h
        | error e =>
          simp only at h
          split at h
          · exact congrArg (Option.map _) h
          · split at h
            · cases h
            · exact congrArg (Option.map _) h
      | scanResults observations => exact .inl (t.enroller_handleScanResults env observations h)
      | up | renamed _ | connectResult _ | disconnectResult _ | event _ => cases touches
      | powerResult _ => cases touches
    | scan r =>
      rcases t.scan_cases env r with refused | ⟨_, outcome⟩
      · exact .inl (kept refused h)
      · rw [perform, outcome, station_hold] at h
        exact .inl (congrArg (Option.map _) h)
    | pushButton r =>
      rcases t.pushButton_cases env r with refused | ⟨_, _, _, outcome⟩
      · exact .inl (kept refused h)
      · rw [perform, outcome] at h
        obtain rfl := Option.some.inj h
        exact .inr rfl
    | cancelEnrollment =>
      rcases t.cancelEnrollment_cases env with refused | outcome
      · exact .inl (kept refused h)
      · rw [perform, outcome, station_endEnrollment] at h
        cases h
    | completeEnrollment result =>
      rcases t.completeEnrollment_cases env result with refused | ⟨_, _, outcome⟩
      · exact .inl (kept refused h)
      · rw [perform, outcome, station_endEnrollment] at h
        cases h
    | connect _ _ _ | connectNetwork _ _ | disconnect _ | setPowered _ _ => cases touches
    | setSecret _ _ | setAutoconnect _ | selectNext | subscribe _ _ => cases touches
    | unsubscribe _ | shutdown => cases touches

end Turn

section Runs

variable {i : Interface} {config : Config} {moves : List Move} {s : Station}
  (run : Run (.new i config) moves s)

include run

/-- Whoever waits in a slot has come with a request for that slot. -/
theorem Run.of_pending {slot : Slot} {r : Requester} (waits : s.pending.get slot = some r) :
    ∃ m ∈ moves, m.op.slot? = some slot ∧ m.op.requester? = some r := by
  induction run with
  | start => cases slot <;> cases waits
  | @move moves s run env op live ih =>
    rcases Turn.pending_perform { station := s } env live slot waits with before | asked
    · obtain ⟨m, there, asked⟩ := ih before
      exact ⟨m, List.mem_append_left _ there, asked⟩
    · exact ⟨⟨s, env, op⟩, by simp, asked⟩

/-- Whoever waits for an enrollment has asked for one. -/
theorem Run.of_enrollment {r : Requester}
    (waits : s.enrollment.map (·.requester) = some r) :
    ∃ m ∈ moves, m.op = .pushButton r := by
  induction run with
  | start => cases waits
  | @move moves s run env op live ih =>
    obtain ⟨session, enrolling, rfl⟩ := Option.map_eq_some_iff.1 waits
    rcases Turn.enroller_perform { station := s } env live enrolling with before | asked
    · obtain ⟨m, there, asked⟩ := ih before
      exact ⟨m, List.mem_append_left _ there, asked⟩
    · exact ⟨⟨s, env, op⟩, by simp, asked⟩

end Runs

end Station

end WirelessStation
