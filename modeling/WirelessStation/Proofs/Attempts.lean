import WirelessStation.Proofs.Refusal

/-! # Attempts that the link layer accepts

An observer that looks at attempts alone (`Observer.OfAttempts`) picks nothing out of most
operations (`picked_perform_of_not_mayAttempt`).  Those that may make an attempt make one after the
other until the first is accepted, and only for a station that is free: a candidate that is refused
leaves the station to the next one as it was.  Seen by the observer of accepted attempts (`begun`),
one operation therefore begins at most one attempt, as the station plans it once it has taken in
what it was told of, and the station is connecting then (`Attempted`, `Move.attempts_cases`). -/

namespace WirelessStation.Station

variable {α : Type}

/-- An observer that looks at attempts alone. -/
class Observer.OfAttempts (φ : Observer α) : Prop where
  pick_other : ∀ before e, (∀ o context, e ≠ .link (.connect o context)) → φ.pick before e = none

namespace Observer.OfAttempts

variable (φ : Observer α) [φ.OfAttempts] (before : List Effect)

instance : φ.Overlooks where
  announce _ _ _ := pick_other _ _ (by simp)
  periodicScan _ _ := pick_other _ _ (by simp)

@[simp] theorem pick_answer (r : Requester) (result : Result) :
    φ.pick before (.answer r result) = none := pick_other _ _ (by simp)

@[simp] theorem pick_drop (r : Requester) : φ.pick before (.drop r) = none :=
  pick_other _ _ (by simp)

@[simp] theorem pick_store (c : StoreCall) : φ.pick before (.store c) = none :=
  pick_other _ _ (by simp)

@[simp] theorem pick_cleanup (w : Subscriber) : φ.pick before (.cleanup w) = none :=
  pick_other _ _ (by simp)

@[simp] theorem pick_scan (request : ScanRequest) : φ.pick before (.link (.scan request)) = none :=
  pick_other _ _ (by simp)

@[simp] theorem pick_disconnect : φ.pick before (.link .disconnect) = none :=
  pick_other _ _ (by simp)

@[simp] theorem pick_power (on : Bool) : φ.pick before (.link (.power on)) = none :=
  pick_other _ _ (by simp)

end Observer.OfAttempts

/-- Operations that may make an attempt. -/
def Operation.mayAttempt : Operation → Bool
  | .connect .. | .connectNetwork .. | .selectNext | .notify (.scanResults _) => true
  | _ => false

namespace Turn

/-! ### Operations without an attempt -/

section OfAttempts

variable (t : Turn) (φ : Observer α) [φ.OfAttempts] (env : Surroundings)

@[simp] theorem picked_reply_ofAttempts (slot : Slot) (result : Result) :
    (t.reply slot result).picked φ = t.picked φ := by
  simp [picked_reply]

@[simp] theorem picked_endEnrollment_ofAttempts (result : Result) :
    (t.endEnrollment result).picked φ = t.picked φ := by
  simp [picked_endEnrollment]

@[simp] theorem picked_dropRequester_ofAttempts (r : Option Requester) :
    (t.dropRequester r).picked φ = t.picked φ := by
  simp [picked_dropRequester]

@[simp] theorem picked_hold_ofAttempts (slot : Slot) (r : Option Requester) :
    (t.hold slot r).picked φ = t.picked φ := by
  simp [hold]

@[simp] theorem picked_refuse_ofAttempts (e : Error) (r : Option Requester) :
    (t.refuse e r).2.picked φ = t.picked φ := by
  simp [refuse]

theorem picked_handleUp : t.handleUp.picked φ = t.picked φ := by
  unfold handleUp
  split <;> simp

theorem picked_handleDown : t.handleDown.picked φ = t.picked φ := by
  unfold handleDown
  split <;> simp [abortRequests]

theorem picked_handleRenamed (name : String) : (t.handleRenamed name).picked φ = t.picked φ := by
  unfold handleRenamed
  split <;> simp

theorem picked_handleScanTriggered (result : Result) :
    (t.handleScanTriggered result).picked φ = t.picked φ := by
  unfold handleScanTriggered
  split
  next => simp
  next =>
    split
    · simp
    · split <;> simp

theorem picked_handleRegistrars (registrars : List Observation) :
    (t.handleRegistrars env registrars).picked φ = t.picked φ := by
  cases t.sought_handleRegistrars env registrars with
  | settled _ same => rw [same]
  | found _ _ _ outcome | overlap _ _ _ outcome => simp [outcome]
  | again _ _ _ _ outcome | refused _ _ _ _ outcome => simp [outcome]

theorem picked_handleConnectResult (outcome : Outcome) :
    (t.handleConnectResult outcome).picked φ = t.picked φ := by
  unfold handleConnectResult
  simp only
  rw [← t.picked_reply_ofAttempts φ .connect outcome.result]
  generalize t.reply .connect outcome.result = t
  split
  next => rfl
  split
  next => rfl
  next c _ =>
    cases outcome with
    | success => cases t.station.catalogue.network? c.network <;> simp
    | aborted | handshakeFailed | linkFailed => simp

theorem picked_handleDisconnectResult (success : Bool) :
    (t.handleDisconnectResult success).picked φ = t.picked φ := by
  unfold handleDisconnectResult
  simp only
  rw [← t.picked_reply_ofAttempts φ .disconnect (if success then .ok () else .error .linkFailed)]
  generalize t.reply .disconnect (if success then .ok () else .error .linkFailed) = t
  split <;> simp

theorem picked_keepSecret (network : String) : (t.keepSecret network).picked φ = t.picked φ := by
  unfold keepSecret
  split
  · rfl
  · rw [picked_foldl_record]
    · rfl
    · exact fun c _ before => Observer.OfAttempts.pick_store φ before c

theorem picked_handleLinkEvent (event : LinkEvent) :
    (t.handleLinkEvent event).picked φ = t.picked φ := by
  unfold handleLinkEvent
  split
  next => rfl
  next c _ =>
    cases event with
    | authenticating | associating | handshaking => rfl
    | settingKeys => exact t.picked_keepSecret φ c.network
    | lostBeacon => simp
    | apDisconnect =>
      simp only
      split <;> simp

theorem picked_scan (r : Requester) : (t.scan env r).2.picked φ = t.picked φ := by
  unfold scan
  split
  next => simp
  split
  next => simp
  next =>
    rw [call_eq]
    cases env.accepts t.log (.scan .passive) <;> simp

theorem picked_disconnect (r : Option Requester) :
    (t.disconnect env r).2.picked φ = t.picked φ := by
  unfold disconnect
  split
  next => simp
  split
  next => simp
  next =>
    rw [call_eq]
    cases env.accepts t.log .disconnect <;> simp

theorem picked_setPowered (on : Bool) (r : Requester) :
    (t.setPowered env on r).2.picked φ = t.picked φ := by
  unfold setPowered
  split
  next => simp
  split
  next => simp
  next =>
    rw [call_eq]
    cases env.accepts t.log (.power on) <;> simp

theorem picked_pushButton (r : Requester) : (t.pushButton env r).2.picked φ = t.picked φ := by
  unfold pushButton
  split
  next => simp
  split
  next => simp
  split
  next => simp
  next =>
    simp only [call_eq]
    cases env.accepts t.log (.scan (.enrolling
        (Enrollment.Probe.pushButton t.station.address env.namer))) <;>
      simp

theorem picked_cancelEnrollment : t.cancelEnrollment.2.picked φ = t.picked φ := by
  unfold cancelEnrollment
  split <;> simp

theorem picked_completeEnrollment (outcome : Except Error (List Enrollment.Credential)) :
    (t.completeEnrollment outcome).2.picked φ = t.picked φ := by
  unfold completeEnrollment
  split
  next =>
    cases outcome with
    | error e => simp
    | ok credentials =>
      simp only [picked_endEnrollment_ofAttempts, storeCredentials]
      exact picked_foldl_record _ _ _ _ fun c _ before => Observer.OfAttempts.pick_store φ before _
  next => rfl

omit [φ.OfAttempts] in
theorem picked_setSecret (network : String) (settings : Settings) :
    (t.setSecret network settings).2.picked φ = t.picked φ := by
  unfold setSecret
  split
  next => rfl
  next => split <;> rfl

theorem picked_setAutoconnect (enabled : Bool) :
    (t.setAutoconnect enabled).picked φ = t.picked φ := by
  unfold setAutoconnect
  split
  next => rfl
  simp only
  split
  next => simp
  split <;> simp

theorem picked_unsubscribe (id : Nat) : (t.unsubscribe id).2.picked φ = t.picked φ := by
  unfold unsubscribe
  simp only
  rw [picked_foldl_record]
  · rfl
  · exact fun w _ before => Observer.OfAttempts.pick_cleanup φ before w

theorem picked_shutdown : t.shutdown.picked φ = t.picked φ := by
  unfold shutdown
  simp only
  rw [picked_foldl_record]
  · simp [abortRequests]
  · exact fun w _ before => Observer.OfAttempts.pick_cleanup φ before w

theorem picked_perform_of_not_mayAttempt {op : Operation} (h : op.mayAttempt = false) :
    (t.perform env op).2.picked φ = t.picked φ := by
  cases op with
  | notify notification =>
    cases notification with
    | up => exact t.picked_handleUp φ
    | down => exact t.picked_handleDown φ
    | renamed name => exact t.picked_handleRenamed φ name
    | scanTriggered result => exact t.picked_handleScanTriggered φ result
    | scanResults _ => cases h
    | connectResult outcome => exact t.picked_handleConnectResult φ outcome
    | disconnectResult success => exact t.picked_handleDisconnectResult φ success
    | event event => exact t.picked_handleLinkEvent φ event
    | powerResult result => exact t.picked_reply_ofAttempts φ .power result
  | scan r => exact t.picked_scan φ env r
  | connect _ _ _ | connectNetwork _ _ | selectNext => cases h
  | disconnect r => exact t.picked_disconnect φ env r
  | setPowered on r => exact t.picked_setPowered φ env on r
  | pushButton r => exact t.picked_pushButton φ env r
  | cancelEnrollment => exact t.picked_cancelEnrollment φ
  | completeEnrollment outcome => exact t.picked_completeEnrollment φ outcome
  | setSecret network settings => exact t.picked_setSecret φ network settings
  | setAutoconnect enabled => exact t.picked_setAutoconnect φ enabled
  | subscribe _ _ => rfl
  | unsubscribe id => exact t.picked_unsubscribe φ id
  | shutdown => exact t.picked_shutdown φ

end OfAttempts

end Turn

/-! ### Operations with an attempt -/

/-- Picks out the attempts that the link layer accepts. -/
def begun (env : Surroundings) : Observer (Observation × Option Context) where
  pick
    | before, .link (.connect o context) =>
      if env.accepts before (.connect o context) then some (o, context) else none
    | _, _ => none

instance (env : Surroundings) : (begun env).OfAttempts where
  pick_other before e other := by simp only [begun]

@[simp] theorem begun_connect (env : Surroundings) (before : List Effect) (o : Observation)
    (context : Option Context) :
    (begun env).pick before (.link (.connect o context)) =
      if env.accepts before (.connect o context) then some (o, context) else none := rfl

theorem begun_of_refused {env : Surroundings} {before : List Effect} {c : LinkCall}
    (h : env.accepts before c = false) : (begun env).pick before (.link c) = none := by
  cases c with
  | connect o context => simp [h]
  | scan _ | disconnect | power _ | periodicScan _ => rfl

/-- From one turn to a later one the link layer accepted no attempt and the connection is as it was,
or it accepted one of a station that was free.  That one was made as station `s` plans it for a
network and an access point, and these are what the station is connecting to now. -/
inductive Attempted (env : Surroundings) (s : Station) (t t' : Turn) : Prop
  | none (same : t'.picked (begun env) = t.picked (begun env))
      (connection : t'.station.connection = t.station.connection)
  | one {c : Connection} {o : Observation} {context : Option Context}
      (free : t.station.isBusy = false) (connecting : t'.station.state = .connecting)
      (held : t'.station.connection = some c) (catalogue : t'.station.catalogue = s.catalogue)
      (planned : Turn.plan env s c.network c.address = .ok (o, context))
      (new : t'.picked (begun env) = t.picked (begun env) ++ [(o, context)])

/-- An attempt is planned by the catalogue, the address and the ciphers of a station. -/
theorem Turn.plan_congr {s s' : Station} (env : Surroundings) (network : String) (a : Address)
    (same : s'.catalogue = s.catalogue ∧ s'.address = s.address ∧ s'.ciphers = s.ciphers) :
    plan env s' network a = plan env s network a := by
  simp only [plan, same]

namespace Attempted

variable {env : Surroundings} {s s' : Station} {t t' u : Turn}

theorem of_plan (h : Attempted env s' t t')
    (same : s'.catalogue = s.catalogue ∧ s'.address = s.address ∧ s'.ciphers = s.ciphers) :
    Attempted env s t t' := by
  cases h with
  | none picked kept => exact .none picked kept
  | one free connecting held catalogue planned new =>
    rw [Turn.plan_congr env _ _ same] at planned
    exact .one free connecting held (catalogue.trans same.1) planned new

/-- What comes before an attempt may change everything that has nothing to do with attempts. -/
theorem of_same (h : Attempted env s u t') (busy : u.station.isBusy = t.station.isBusy)
    (connection : u.station.connection = t.station.connection)
    (picked : u.picked (begun env) = t.picked (begun env)) : Attempted env s t t' := by
  cases h with
  | none same kept => exact .none (same.trans picked) (kept.trans connection)
  | one free connecting held catalogue planned new =>
    exact .one (busy ▸ free) connecting held catalogue planned (picked ▸ new)

end Attempted

namespace Turn

variable (t : Turn) (env : Surroundings)

theorem picked_begun_of_refused {r : Option Requester} {outcome : Result × Turn}
    (h : Refused env r t outcome) : outcome.2.picked (begun env) = t.picked (begun env) := by
  cases h with
  | atOnce _ => simp
  | byLink refused => simp [begun_of_refused refused]

theorem attempted_of_refused (s : Station) {r : Option Requester} {outcome : Result × Turn}
    (h : Refused env r t outcome) : Attempted env s t outcome.2 :=
  .none (t.picked_begun_of_refused env h) (by rw [h.station_eq])

theorem attempted_connect (network : String) (a : Address) (r : Option Requester) :
    Attempted env t.station t (t.connect env network a r).2 := by
  rcases t.connect_cases env network a r with refused | ⟨o, context, _, free, planned, accepted, h⟩
  · exact t.attempted_of_refused env _ refused
  · rw [h]
    refine .one (c := ⟨network, a⟩) free (by simp) (by simp) (by simp) planned ?_
    simp [begin, accepted]

theorem attempted_tryCandidates (l : List Candidate) :
    Attempted env t.station t (t.tryCandidates env l) := by
  induction l generalizing t with
  | nil => exact .none rfl rfl
  | cons c rest ih =>
    let next := t.update fun s => { s with candidates := rest }
    have tried := next.attempted_connect env c.network c.address none
    unfold tryCandidates
    simp only
    split
    next t' h =>
      rw [h] at tried
      have tried : Attempted env t.station next t' := tried.of_plan ⟨rfl, rfl, rfl⟩
      exact tried.of_same rfl rfl rfl
    next e t' h =>
      -- A candidate that failed was refused, so the next one finds the station that this one found.
      have failed : (next.perform env (.connect c.network c.address none)).1 = .error e := by
        rw [perform, h]
      have refused := refused_of_error failed
      rw [perform, h] at refused
      have found : t'.station = next.station := refused.station_eq
      have later := (ih t').of_plan (s := t.station) (by simp [found, next])
      refine later.of_same (by simp [found, next, isBusy]) (by simp [found, next]) ?_
      exact next.picked_begun_of_refused env refused

theorem attempted_selectNext : Attempted env t.station t (t.selectNext env) := by
  unfold selectNext
  split
  · exact t.attempted_tryCandidates env _
  · exact .none rfl rfl

theorem attempted_handleScanResults (observations : List Observation) :
    Attempted env (t.takeScan env observations).station t
      (t.handleScanResults env observations) := by
  have taken : (t.takeScan env observations).picked (begun env) = t.picked (begun env) := by simp
  rw [handleScanResults_eq]
  split
  · exact .none rfl rfl
  · split
    · refine .none ((picked_handleRegistrars _ _ env _).trans taken) ?_
      rw [station_handleRegistrars]
      simp
    · split
      · refine (Attempted.of_plan (attempted_selectNext _ env) ?_).of_same ?_ ?_ ?_
        · simp
        · simp [isBusy]
        · simp
        · simp
      · exact .none taken (by simp)

end Turn

/-! ### Moves -/

namespace Move

/-- The results of a scan that a move takes in; an interface that is down takes in none. -/
def scan? (m : Move) : Option (List Observation) :=
  match m.op with
  | .notify (.scanResults observations) =>
    if m.before.state = .off then none else some observations
  | _ => none

/-- The station that makes the attempts of a move: a scan is taken in first. -/
def informed (m : Move) : Station :=
  match m.scan? with
  | some observations => (Turn.takeScan m.env observations { station := m.before }).station
  | none => m.before

theorem attempted_of_mayAttempt {m : Move} (may : m.op.mayAttempt = true) :
    Attempted m.env m.informed { station := m.before } (m.before.step m.env m.op).2 := by
  obtain ⟨before, env, op⟩ := m
  let t : Turn := { station := before }
  cases op with
  | connect network a r => exact t.attempted_connect env network a r
  | connectNetwork network r =>
    rcases t.connectNetwork_cases env network r with refused | ⟨a, h⟩
    · exact t.attempted_of_refused env _ refused
    · simp only [step, Turn.perform]
      rw [h]
      exact t.attempted_connect env network a r
  | selectNext => exact t.attempted_selectNext env
  | notify notification =>
    cases notification with
    | scanResults observations =>
      by_cases off : before.state = .off
      · refine .none ?_ ?_ <;>
          simp [step, Turn.perform, Turn.handle, Turn.handleScanResults, off]
      · simp only [informed, scan?, if_neg off]
        exact t.attempted_handleScanResults env observations
    | _ => cases may
  | _ => cases may

/-- How many attempts began in a move. -/
def attempts (m : Move) : Nat :=
  (m.picked (begun m.env)).length

theorem attempts_of_not_mayAttempt {m : Move} (h : m.op.mayAttempt = false) : m.attempts = 0 :=
  congrArg List.length (Turn.picked_perform_of_not_mayAttempt { station := m.before } _ m.env h)

/-- A move begins at most one attempt, and only at a station that was free and is connecting then.
-/
theorem attempts_cases (m : Move) :
    m.attempts = 0 ∨
      (m.attempts = 1 ∧ m.before.isBusy = false ∧ m.after.state = .connecting) := by
  have quiet : Turn.picked (begun m.env) { station := m.before } = [] := rfl
  cases may : m.op.mayAttempt with
  | false => exact .inl (attempts_of_not_mayAttempt may)
  | true =>
    cases attempted_of_mayAttempt may with
    | none same _ =>
      left
      rw [quiet] at same
      exact congrArg List.length same
    | one free connecting _ _ _ new =>
      rw [quiet, List.nil_append] at new
      exact .inr ⟨congrArg List.length new, free, connecting⟩

end Move

end WirelessStation.Station
