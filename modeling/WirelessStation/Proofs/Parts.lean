import Mathlib.Logic.Basic
import Mathlib.Logic.Relation
import WirelessStation.Proofs.Refusal

/-! # The parts of an operation

What an operation does to the state, to the autoconnect flag and to the background scan (`Modes`),
it does in a few small parts.  `Part` lists them, each with what is known when it comes: an attempt
is made where somebody asks for it or in autoconnect mode, a connection is up only after an attempt,
and so on.  Everything else that an operation does leaves the modes alone and neither asks for a
connection nor tells of a transition.

`unfolds_perform` takes every operation apart in this way, once.  A property of turns that each part
keeps is then kept by every operation (`Unfolds.keeps`). -/

namespace WirelessStation.Station

/-- The state, the autoconnect flag, and whether the background scan runs. -/
structure Modes where
  state : State
  autoconnect : Bool
  periodicScan : Bool

def modes (s : Station) : Modes :=
  ⟨s.state, s.autoconnect, s.periodicScan⟩

/-- Whether somebody asks for a connection. -/
def Operation.asksToConnect : Operation → Bool
  | .connect .. | .connectNetwork .. => true
  | _ => false

/-- Effects that neither ask for a connection nor switch the background scan nor tell of a
transition. -/
def Effect.isAside : Effect → Bool
  | .link (.connect ..) | .link (.periodicScan _) | .announce (.stateChanged ..) _ => false
  | _ => true

namespace Turn

/-- An attempt is made where somebody asks for one, or in autoconnect mode. -/
def IsWanted (op : Operation) (t : Turn) : Prop :=
  op.asksToConnect = true ∨ t.station.state = .autoconnect

/-- One part of an operation, and what is known when it comes. -/
inductive Part (op : Operation) : Turn → Turn → Prop
  | update {t : Turn} {f : Station → Station} (same : (f t.station).modes = t.station.modes) :
      Part op t (t.update f)
  | record {t : Turn} {e : Effect} (aside : e.isAside = true) : Part op t (t.record e)
  /-- The link layer is asked for a connection. -/
  | attempt {t : Turn} (o : Observation) (context : Option Context) (wanted : t.IsWanted op) :
      Part op t (t.record (.link (.connect o context)))
  | connecting {t : Turn} (wanted : t.IsWanted op) : Part op t (t.enter .connecting)
  /-- A connection that is up is one to come back to. -/
  | connected {t : Turn} (attempted : t.station.state = .connecting) :
      Part op t ((t.enter .connected).update fun s => { s with autoconnect := true })
  | disconnecting {t : Turn} : Part op t (t.enter .disconnecting)
  | idle {t : Turn} : Part op t t.enterIdle
  | up {t : Turn} (down : t.station.state = .off) :
      Part op t (t.enter (.idle t.station.autoconnect))
  | down {t : Turn} (reported : op = .notify .down) : Part op t (t.enter .off)
  | toggled {t : Turn} {enabled : Bool} (asked : op = .setAutoconnect enabled) :
      Part op t (t.setAutoconnect enabled)
  | stopped {t : Turn} (asked : op = .shutdown) : Part op t (t.setPeriodicScan false)

/-- The parts of an operation, one after the other. -/
def Unfolds (op : Operation) : Turn → Turn → Prop :=
  Relation.ReflTransGen (Part op)

namespace Unfolds

variable {op : Operation} {t₀ t : Turn}

theorem start : Unfolds op t t :=
  .refl

theorem part (h : Unfolds op t₀ t) {t' : Turn} (p : Part op t t') : Unfolds op t₀ t' :=
  .tail h p

/-- What each part of an operation keeps, all of them together keep. -/
theorem keeps (h : Unfolds op t₀ t) {P : Turn → Prop} (init : P t₀)
    (keep : ∀ t t', Part op t t' → P t → P t') : P t := by
  induction h with
  | refl => exact init
  | tail _ p ih => exact keep _ _ p ih

/-! ### What leaves the modes alone -/

theorem update (h : Unfolds op t₀ t) {f : Station → Station}
    (same : (f t.station).modes = t.station.modes) : Unfolds op t₀ (t.update f) :=
  h.part (.update same)

theorem record (h : Unfolds op t₀ t) {e : Effect} (aside : e.isAside = true) :
    Unfolds op t₀ (t.record e) :=
  h.part (.record aside)

theorem records (h : Unfolds op t₀ t) {β : Type} (f : β → Effect) (l : List β)
    (aside : ∀ b, (f b).isAside = true) :
    Unfolds op t₀ (l.foldl (fun t b => t.record (f b)) t) := by
  induction l generalizing t with
  | nil => exact h
  | cons b rest ih => exact ih (h.record (aside b))

theorem announce (h : Unfolds op t₀ t) {event : Event}
    (other : ∀ old new, event ≠ .stateChanged old new) : Unfolds op t₀ (t.announce event) := by
  refine h.record ?_
  cases event with
  | stateChanged old new => exact absurd rfl (other old new)
  | _ => rfl

theorem dropRequester (h : Unfolds op t₀ t) (r : Option Requester) :
    Unfolds op t₀ (t.dropRequester r) := by
  cases r with
  | none => exact h
  | some r => exact h.record rfl

theorem refuse (h : Unfolds op t₀ t) (e : Error) (r : Option Requester) :
    Unfolds op t₀ (t.refuse e r).2 :=
  h.dropRequester r

theorem reply (h : Unfolds op t₀ t) (slot : Slot) (result : Result) :
    Unfolds op t₀ (t.reply slot result) := by
  unfold Turn.reply
  split
  · exact h
  · exact (h.update rfl).record rfl

theorem hold (h : Unfolds op t₀ t) (slot : Slot) (r : Option Requester) :
    Unfolds op t₀ (t.hold slot r) :=
  (h.dropRequester _).update rfl

theorem endEnrollment (h : Unfolds op t₀ t) (result : Result) :
    Unfolds op t₀ (t.endEnrollment result) := by
  unfold Turn.endEnrollment
  split
  · exact h
  · exact (h.update rfl).record rfl

theorem abortRequests (h : Unfolds op t₀ t) : Unfolds op t₀ t.abortRequests :=
  ((h.reply .scan (.error .aborted)).reply .connect (.error .aborted)).reply .disconnect
    (.error .aborted)

theorem setScanning (h : Unfolds op t₀ t) (scanning : Bool) :
    Unfolds op t₀ (t.setScanning scanning) := by
  unfold Turn.setScanning
  split
  · exact h
  · exact (h.update rfl).announce (by simp)

theorem clearConnection (h : Unfolds op t₀ t) : Unfolds op t₀ t.clearConnection := by
  unfold Turn.clearConnection
  split
  · exact h
  · exact ((h.update rfl).announce (by simp)).announce (by simp)

theorem announceChanges (h : Unfolds op t₀ t) (changes : List Catalogue.Change) :
    Unfolds op t₀ (t.announceChanges changes) := by
  unfold Turn.announceChanges
  induction changes generalizing t with
  | nil => exact h
  | cons c rest ih => exact ih (h.announce (by cases c <;> simp [Event.ofChange]))

theorem dropCatalogue (h : Unfolds op t₀ t) : Unfolds op t₀ t.dropCatalogue := by
  have released : Unfolds op t₀ (t.clearConnection.update fun s => { s with candidates := [] }) :=
    h.clearConnection.update rfl
  unfold Turn.dropCatalogue
  exact (released.announceChanges _).update rfl

theorem disassociate (h : Unfolds op t₀ t) : Unfolds op t₀ t.disassociate :=
  h.clearConnection.part .idle

theorem takeIn (h : Unfolds op t₀ t) (env : Surroundings) (observations : List Observation) :
    Unfolds op t₀ (t.takeIn env observations) := by
  unfold Turn.takeIn
  exact (h.announceChanges _).update rfl

theorem takeScan (h : Unfolds op t₀ t) (env : Surroundings) (observations : List Observation) :
    Unfolds op t₀ (t.takeScan env observations) := by
  let stopped := (t.setScanning false).update fun s =>
    { s with enrollment := s.enrollment.map fun session => { session with scanning := false } }
  have ended : Unfolds op t₀ stopped := (h.setScanning false).update rfl
  unfold Turn.takeScan
  exact (ended.takeIn env observations).update rfl

/-! ### Attempts -/

theorem begin (h : Unfolds op t₀ t) (wanted : t.IsWanted op) (network : String) (a : Address)
    (r : Option Requester) : Unfolds op t₀ (t.begin network a r) := by
  have held : Unfolds op t₀
      ((t.update fun s => { s with connection := some ⟨network, a⟩ }).hold .connect r) :=
    (h.update rfl).hold .connect r
  have wanted : IsWanted op
      ((t.update fun s => { s with connection := some ⟨network, a⟩ }).hold .connect r) := by
    rw [IsWanted, station_hold]
    exact wanted
  exact ((held.part (.connecting wanted)).announce (by simp)).announce (by simp)

theorem connect (h : Unfolds op t₀ t) (wanted : t.IsWanted op) (env : Surroundings)
    (network : String) (a : Address) (r : Option Requester) :
    Unfolds op t₀ (t.connect env network a r).2 := by
  unfold Turn.connect
  split
  · exact h.refuse _ r
  split
  · exact h.refuse _ r
  split
  next e _ => exact h.refuse e r
  next o context _ =>
    have asked := h.part (.attempt o context wanted)
    rw [call_eq]
    cases env.accepts t.log (.connect o context) with
    | false => exact asked.refuse .rejected r
    | true => exact asked.begin wanted network a r

theorem tryCandidates (h : Unfolds op t₀ t) (wanted : t.IsWanted op) (env : Surroundings)
    (l : List Candidate) : Unfolds op t₀ (t.tryCandidates env l) := by
  induction l generalizing t with
  | nil => exact h.update rfl
  | cons c rest ih =>
    let next := t.update fun s => { s with candidates := rest }
    have start : Unfolds op t₀ next := h.update rfl
    have tried := start.connect wanted env c.network c.address none
    unfold Turn.tryCandidates
    simp only
    split
    next t' outcome => rwa [outcome] at tried
    next e t' outcome =>
      -- A candidate that failed was refused, and so the next one is wanted as much.
      have failed : (next.perform env (.connect c.network c.address none)).1 = .error e := by
        rw [perform, outcome]
      have same := (refused_of_error failed).station_eq
      rw [perform, outcome] at same
      rw [outcome] at tried
      refine ih tried ?_
      rw [IsWanted, same]
      exact wanted

theorem selectNext (h : Unfolds op t₀ t) (env : Surroundings) :
    Unfolds op t₀ (t.selectNext env) := by
  unfold Turn.selectNext
  split
  next idle => exact h.tryCandidates (.inr idle) env _
  next => exact h

/-! ### Reports of the link layer -/

theorem handleUp (h : Unfolds op t₀ t) : Unfolds op t₀ t.handleUp := by
  unfold Turn.handleUp
  split
  next => exact h
  next off => exact (h.part (.up (not_not.1 off))).announce (by simp)

theorem handleDown (h : Unfolds op t₀ t) (reported : op = .notify .down) :
    Unfolds op t₀ t.handleDown := by
  unfold Turn.handleDown
  split
  · exact h
  · have ended := ((h.part (.down reported)).abortRequests).endEnrollment (.error .aborted)
    exact (ended.dropCatalogue.setScanning false).announce (by simp)

theorem handleRenamed (h : Unfolds op t₀ t) (name : String) :
    Unfolds op t₀ (t.handleRenamed name) := by
  unfold Turn.handleRenamed
  split
  · exact h
  · exact (h.update rfl).announce (by simp)

theorem handleScanTriggered (h : Unfolds op t₀ t) (result : Result) :
    Unfolds op t₀ (t.handleScanTriggered result) := by
  unfold Turn.handleScanTriggered
  split
  next => exact (h.setScanning true).reply .scan (.ok ())
  next e =>
    split
    · exact h.reply .scan (.error e)
    · split
      · exact h.endEnrollment (.error e)
      · exact h

theorem handleRegistrars (h : Unfolds op t₀ t) (env : Surroundings)
    (registrars : List Observation) : Unfolds op t₀ (t.handleRegistrars env registrars) := by
  cases t.sought_handleRegistrars env registrars with
  | settled _ same =>
    rw [same]
    exact h
  | found _ _ _ outcome =>
    rw [outcome]
    exact (h.update rfl).announce (by simp)
  | overlap _ _ _ outcome =>
    rw [outcome]
    exact h.endEnrollment _
  | again _ _ _ _ outcome =>
    rw [outcome]
    exact (h.record rfl).update rfl
  | refused _ _ _ _ outcome =>
    rw [outcome]
    exact (h.record rfl).endEnrollment _

theorem handleScanResults (h : Unfolds op t₀ t) (env : Surroundings)
    (observations : List Observation) : Unfolds op t₀ (t.handleScanResults env observations) := by
  have taken := h.takeScan env observations
  rw [handleScanResults_eq]
  split
  · exact h
  · split
    · exact taken.handleRegistrars env _
    · split
      · exact (taken.update rfl).selectNext env
      · exact taken

theorem handleConnectResult (h : Unfolds op t₀ t) (outcome : Outcome) :
    Unfolds op t₀ (t.handleConnectResult outcome) := by
  have answered := h.reply .connect outcome.result
  unfold Turn.handleConnectResult
  simp only
  generalize t.reply .connect outcome.result = t at answered
  split
  next => exact answered
  next connecting =>
    have connecting : t.station.state = .connecting := not_not.1 connecting
    split
    next => exact answered
    next c _ =>
      cases outcome with
      | success =>
        cases t.station.catalogue.network? c.network with
        | none => exact answered.part (.connected connecting)
        | some n =>
          have stored : Unfolds op t₀ (t.record (.store n.connectedCall)) := answered.record rfl
          exact stored.part (.connected connecting)
      | aborted => exact answered.clearConnection.part .idle
      | handshakeFailed | linkFailed => exact (answered.update rfl).disassociate

theorem handleDisconnectResult (h : Unfolds op t₀ t) (success : Bool) :
    Unfolds op t₀ (t.handleDisconnectResult success) := by
  have answered := h.reply .disconnect (if success then .ok () else .error .linkFailed)
  unfold Turn.handleDisconnectResult
  simp only
  generalize t.reply .disconnect (if success then .ok () else .error .linkFailed) = t at answered ⊢
  split
  · exact answered
  · exact answered.disassociate

theorem keepSecret (h : Unfolds op t₀ t) (network : String) :
    Unfolds op t₀ (t.keepSecret network) := by
  unfold Turn.keepSecret
  split
  · exact h
  · exact (h.update rfl).records Effect.store _ fun _ => rfl

theorem handleLinkEvent (h : Unfolds op t₀ t) (event : LinkEvent) :
    Unfolds op t₀ (t.handleLinkEvent event) := by
  have answered := h.reply .connect (.error .linkFailed)
  unfold Turn.handleLinkEvent
  split
  next => exact h
  next c _ =>
    cases event with
    | authenticating | associating | handshaking => exact h
    | settingKeys => exact h.keepSecret c.network
    | lostBeacon => exact answered.disassociate
    | apDisconnect =>
      simp only
      split
      · exact (answered.update rfl).disassociate
      · exact h.disassociate

/-! ### Requests -/

theorem scan (h : Unfolds op t₀ t) (env : Surroundings) (r : Requester) :
    Unfolds op t₀ (t.scan env r).2 := by
  have asked : Unfolds op t₀ (t.record (.link (.scan .passive))) := h.record rfl
  unfold Turn.scan
  split
  · exact h.refuse _ (some r)
  split
  · exact h.refuse _ (some r)
  rw [call_eq]
  cases env.accepts t.log (.scan .passive) with
  | false => exact asked.refuse _ (some r)
  | true => exact asked.hold .scan (some r)

theorem connectNetwork (h : Unfolds op t₀ t) (wanted : t.IsWanted op) (env : Surroundings)
    (network : String) (r : Option Requester) :
    Unfolds op t₀ (t.connectNetwork env network r).2 := by
  unfold Turn.connectNetwork
  split
  next => exact h.refuse _ r
  next best _ => exact h.connect wanted env network best.address r

theorem disconnect (h : Unfolds op t₀ t) (env : Surroundings) (r : Option Requester) :
    Unfolds op t₀ (t.disconnect env r).2 := by
  have asked : Unfolds op t₀ (t.record (.link .disconnect)) := h.record rfl
  unfold Turn.disconnect
  split
  · exact h.refuse _ r
  split
  · exact h.refuse _ r
  rw [call_eq]
  cases env.accepts t.log .disconnect with
  | false => exact asked.refuse _ r
  | true => exact (asked.clearConnection.part .disconnecting).hold .disconnect r

theorem setPowered (h : Unfolds op t₀ t) (env : Surroundings) (on : Bool) (r : Requester) :
    Unfolds op t₀ (t.setPowered env on r).2 := by
  have asked : Unfolds op t₀ (t.record (.link (.power on))) := h.record rfl
  unfold Turn.setPowered
  split
  · exact h.record rfl
  split
  · exact h.refuse _ (some r)
  rw [call_eq]
  cases env.accepts t.log (.power on) with
  | false => exact asked.refuse _ (some r)
  | true => exact asked.hold .power (some r)

theorem pushButton (h : Unfolds op t₀ t) (env : Surroundings) (r : Requester) :
    Unfolds op t₀ (t.pushButton env r).2 := by
  let probe := Enrollment.Probe.pushButton t.station.address env.namer
  have asked : Unfolds op t₀ (t.record (.link (.scan (.enrolling probe)))) := h.record rfl
  unfold Turn.pushButton
  split
  · exact h.refuse _ (some r)
  split
  · exact h.refuse _ (some r)
  split
  · exact h.refuse _ (some r)
  simp only [call_eq]
  cases env.accepts t.log (.scan (.enrolling probe)) with
  | false => exact asked.refuse _ (some r)
  | true =>
    simp only
    exact asked.update rfl

theorem cancelEnrollment (h : Unfolds op t₀ t) : Unfolds op t₀ t.cancelEnrollment.2 := by
  unfold Turn.cancelEnrollment
  split
  · exact h.endEnrollment _
  · exact h

theorem completeEnrollment (h : Unfolds op t₀ t)
    (outcome : Except Error (List Enrollment.Credential)) :
    Unfolds op t₀ (t.completeEnrollment outcome).2 := by
  unfold Turn.completeEnrollment
  split
  · cases outcome with
    | error e => exact h.endEnrollment _
    | ok credentials =>
      have stored : Unfolds op t₀ (t.storeCredentials credentials) :=
        h.records (fun c : Enrollment.Credential =>
          .store (.sync c.settings.security c.ssid c.settings)) credentials fun _ => rfl
      exact stored.endEnrollment _
  · exact h

theorem setSecret (h : Unfolds op t₀ t) (network : String) (settings : Settings) :
    Unfolds op t₀ (t.setSecret network settings).2 := by
  unfold Turn.setSecret
  split
  · exact h
  · split
    · simp only
      exact h.update rfl
    · exact h

theorem unsubscribe (h : Unfolds op t₀ t) (id : Nat) : Unfolds op t₀ (t.unsubscribe id).2 :=
  records (h.update rfl) Effect.cleanup _ fun _ => rfl

theorem shutdown (h : Unfolds op t₀ t) (asked : op = .shutdown) : Unfolds op t₀ t.shutdown := by
  have ended := (h.abortRequests.reply .power (.error .aborted)).endEnrollment
    (.error .notAvailable)
  have stopped := ended.dropCatalogue.part (.stopped asked)
  exact records (stopped.update rfl) Effect.cleanup _ fun _ => rfl

end Unfolds

/-- Every operation is made of these parts. -/
theorem unfolds_perform (env : Surroundings) (op : Operation) (t : Turn) :
    Unfolds op t (t.perform env op).2 := by
  have start : Unfolds op t t := .start
  cases op with
  | notify notification =>
    cases notification with
    | up => exact start.handleUp
    | down => exact start.handleDown rfl
    | renamed name => exact start.handleRenamed name
    | scanTriggered result => exact start.handleScanTriggered result
    | scanResults observations => exact start.handleScanResults env observations
    | connectResult outcome => exact start.handleConnectResult outcome
    | disconnectResult success => exact start.handleDisconnectResult success
    | event event => exact start.handleLinkEvent event
    | powerResult result => exact start.reply .power result
  | scan r => exact start.scan env r
  | connect network a r => exact start.connect (.inl rfl) env network a r
  | connectNetwork network r => exact start.connectNetwork (.inl rfl) env network r
  | disconnect r => exact start.disconnect env r
  | setPowered on r => exact start.setPowered env on r
  | pushButton r => exact start.pushButton env r
  | cancelEnrollment => exact start.cancelEnrollment
  | completeEnrollment outcome => exact start.completeEnrollment outcome
  | setSecret network settings => exact start.setSecret network settings
  | setAutoconnect enabled => exact start.part (.toggled rfl)
  | selectNext => exact start.selectNext env
  | subscribe watcher hasCleanup =>
    simp only [perform, subscribe]
    exact start.update rfl
  | unsubscribe id => exact start.unsubscribe id
  | shutdown => exact start.shutdown rfl

end Turn

end WirelessStation.Station
