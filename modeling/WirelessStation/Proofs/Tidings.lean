import WirelessStation.Proofs.PushButton
import WirelessStation.Proofs.Refusal
import WirelessStation.Proofs.Reports
import WirelessStation.Proofs.Told

/-! # What only reports bring

Most of what a station tells or does may come with many operations.  A few things come only with
reports of the link layer: that a scan starts or ends, that a registrar is found, that a connection
is up and that the store hears of it (`Effect.isTidings`).  An observer that looks at these alone
(`Observer.OfTidings`) picks nothing out of any other operation
(`picked_perform_of_not_bringsTidings`), and of those four that bring tidings it sees what
`Move.tidings` says.

* `Move.picked_each`: what such an observer picks out of an operation.
* `Move.mem_told_iff`: the tidings among what watchers are told. -/

namespace WirelessStation.Station

variable {α : Type}

/-- Events that only reports of the link layer bring. -/
def Event.isTidings : Event → Bool
  | .propertyChanged .scanning | .registrarFound _ | .stateChanged _ .connected => true
  | _ => false

/-- Effects that only reports of the link layer bring. -/
def Effect.isTidings : Effect → Bool
  | .announce event _ => event.isTidings
  | .store (.markConnected ..) => true
  | _ => false

/-- An observer that looks at what only reports bring. -/
class Observer.OfTidings (φ : Observer α) : Prop where
  pick_other : ∀ before e, e.isTidings = false → φ.pick before e = none

namespace Observer

/-- Picks something out of each effect by itself. -/
def each (f : Effect → Option α) : Observer α where
  pick _ e := f e

theorem picks_each (f : Effect → Option α) (before l : List Effect) :
    (each f).picks before l = l.filterMap f := by
  induction l generalizing before with
  | nil => rfl
  | cons e rest ih =>
    rw [picks, ih, List.filterMap_cons]
    simp only [each]
    cases f e <;> rfl

end Observer

/-- The reports that may bring tidings. -/
def Operation.bringsTidings : Operation → Bool
  | .notify .down | .notify (.scanTriggered (.ok _)) | .notify (.scanResults _) => true
  | .notify (.connectResult .success) => true
  | _ => false

/-! ### The tidings of the reports -/

/-- A change of the scanning flag, with what watchers are shown. -/
def scanTidings (s : Station) (scanning : Bool) (shown : Properties) : List Effect :=
  if s.scanning = scanning then [] else [.announce (.propertyChanged .scanning) shown]

/-- Whether an enrollment looks for its registrar. -/
def isSearching (s : Station) : Bool :=
  s.enrollment.any fun session => session.target.isNone

/-- A registrar that an enrollment finds among all the observations of a scan. -/
def sighting (s : Station) (observations : List Observation) (shown : Properties) : List Effect :=
  if s.isSearching then
    match Enrollment.select observations with
    | .target a => [.announce (.registrarFound a) shown]
    | _ => []
  else []

/-- An attempt that succeeds: the store hears of the network if it is still known, and watchers of
the new state.  A station that is not connecting gets no such tidings. -/
def arrival (s : Station) : List Effect :=
  match s.state, s.connection with
  | .connecting, some c =>
    ((s.catalogue.network? c.network).map fun n => .store n.connectedCall).toList ++
      [.announce (.stateChanged .connecting .connected) { s with state := .connected }.properties]
  | _, _ => []

section Members

variable {s : Station} {e : Effect} {shown : Properties}

theorem eq_of_mem_scanTidings {scanning : Bool} (h : e ∈ s.scanTidings scanning shown) :
    e = .announce (.propertyChanged .scanning) shown := by
  unfold scanTidings at h
  split at h
  · cases h
  · exact List.mem_singleton.1 h

theorem eq_of_mem_sighting {l : List Observation} (h : e ∈ s.sighting l shown) :
    ∃ a, e = .announce (.registrarFound a) shown := by
  unfold sighting at h
  split at h
  · split at h
    next a _ => exact ⟨a, List.mem_singleton.1 h⟩
    next => cases h
  · cases h

theorem eq_of_mem_arrival (h : e ∈ s.arrival) :
    (∃ c, e = .store c) ∨ ∃ shown, e = .announce (.stateChanged .connecting .connected) shown := by
  unfold arrival at h
  split at h
  next c _ _ =>
    rcases List.mem_append.1 h with stored | told
    · obtain ⟨n, _, rfl⟩ := Option.map_eq_some_iff.1 (Option.mem_toList.1 stored)
      exact .inl ⟨_, rfl⟩
    · exact .inr ⟨_, List.mem_singleton.1 told⟩
  next => cases h

end Members

section Others

/-! Tidings of a kind that is not looked at. -/

variable {f : Effect → Option α} (s : Station)

theorem filterMap_scanTidings
    (other : ∀ shown, f (.announce (.propertyChanged .scanning) shown) = none)
    (scanning : Bool) (shown : Properties) : (s.scanTidings scanning shown).filterMap f = [] := by
  refine List.filterMap_eq_nil_iff.2 fun e he => ?_
  rw [eq_of_mem_scanTidings he, other]

theorem filterMap_sighting (other : ∀ a shown, f (.announce (.registrarFound a) shown) = none)
    (l : List Observation) (shown : Properties) : (s.sighting l shown).filterMap f = [] := by
  refine List.filterMap_eq_nil_iff.2 fun e he => ?_
  obtain ⟨a, rfl⟩ := eq_of_mem_sighting he
  exact other a shown

theorem filterMap_arrival (store : ∀ c, f (.store c) = none)
    (other : ∀ shown, f (.announce (.stateChanged .connecting .connected) shown) = none) :
    s.arrival.filterMap f = [] := by
  refine List.filterMap_eq_nil_iff.2 fun e he => ?_
  rcases eq_of_mem_arrival he with ⟨c, rfl⟩ | ⟨shown, rfl⟩
  · exact store c
  · exact other shown

end Others

/-- All the tidings of an operation. -/
def Move.tidings (m : Move) : List Effect :=
  match m.op with
  | .notify .down =>
    if m.before.state = .off then []
    else
      m.before.scanTidings false { m.before.properties with
        connectedNetwork := none, powered := false, scanning := false
        state := State.off.busText }
  | .notify (.scanTriggered (.ok ())) =>
    m.before.scanTidings true { m.before.properties with scanning := true }
  | .notify (.scanResults observations) =>
    if m.before.state = .off then []
    else
      let shown := { m.before.properties with scanning := false }
      m.before.scanTidings false shown ++ m.before.sighting observations shown
  | .notify (.connectResult .success) => m.before.arrival
  | _ => []

namespace Turn

variable (t : Turn) (φ : Observer α) [φ.OfTidings] (env : Surroundings)

/-! ### Parts of a turn -/

theorem picked_record_ofTidings {e : Effect} (other : e.isTidings = false) :
    (t.record e).picked φ = t.picked φ := by
  simp [Observer.OfTidings.pick_other t.log e other]

theorem picked_announce_ofTidings {event : Event} (other : event.isTidings = false) :
    (t.announce event).picked φ = t.picked φ :=
  t.picked_record_ofTidings φ other

theorem picked_link_ofTidings (c : LinkCall) : (t.record (.link c)).picked φ = t.picked φ :=
  t.picked_record_ofTidings φ rfl

theorem picked_records_ofTidings {β : Type} (f : β → Effect) (l : List β)
    (other : ∀ b, (f b).isTidings = false) :
    (l.foldl (fun t b => t.record (f b)) t).picked φ = t.picked φ :=
  t.picked_foldl_record φ f l fun b _ before => Observer.OfTidings.pick_other before _ (other b)

@[simp] theorem picked_reply_ofTidings (slot : Slot) (result : Result) :
    (t.reply slot result).picked φ = t.picked φ := by
  unfold reply
  split
  · rfl
  · exact picked_record_ofTidings _ φ rfl

@[simp] theorem picked_dropRequester_ofTidings (r : Option Requester) :
    (t.dropRequester r).picked φ = t.picked φ := by
  cases r with
  | none => rfl
  | some r => exact t.picked_record_ofTidings φ rfl

@[simp] theorem picked_hold_ofTidings (slot : Slot) (r : Option Requester) :
    (t.hold slot r).picked φ = t.picked φ :=
  t.picked_dropRequester_ofTidings φ _

@[simp] theorem picked_endEnrollment_ofTidings (result : Result) :
    (t.endEnrollment result).picked φ = t.picked φ := by
  unfold endEnrollment
  split
  · rfl
  · exact picked_record_ofTidings _ φ rfl

@[simp] theorem picked_abortRequests_ofTidings : t.abortRequests.picked φ = t.picked φ := by
  simp [abortRequests]

@[simp] theorem picked_refuse_ofTidings (e : Error) (r : Option Requester) :
    (t.refuse e r).2.picked φ = t.picked φ :=
  t.picked_dropRequester_ofTidings φ r

@[simp] theorem picked_setPeriodicScan_ofTidings (enabled : Bool) :
    (t.setPeriodicScan enabled).picked φ = t.picked φ := by
  unfold setPeriodicScan
  split
  · rfl
  · exact picked_record_ofTidings _ φ rfl

@[simp] theorem picked_scanFor_ofTidings (new : State) :
    (t.scanFor new).picked φ = t.picked φ := by
  cases new <;> simp [scanFor]

/-- A state other than that of a connection is entered without tidings. -/
theorem picked_enter_ofTidings {new : State} (other : new ≠ .connected) :
    (t.enter new).picked φ = t.picked φ := by
  have silent (old : State) : (Event.stateChanged old new).isTidings = false := by
    cases new with
    | connected => exact absurd rfl other
    | _ => rfl
  unfold enter
  simp only [picked_announce_ofTidings _ φ (silent _)]
  split
  · rw [picked_announce_ofTidings _ φ rfl, picked_update, picked_scanFor_ofTidings]
  · rw [picked_update, picked_scanFor_ofTidings]

@[simp] theorem picked_enterIdle_ofTidings : t.enterIdle.picked φ = t.picked φ := by
  unfold enterIdle
  simp only
  split <;> simp [picked_enter_ofTidings]

@[simp] theorem picked_clearConnection_ofTidings : t.clearConnection.picked φ = t.picked φ := by
  unfold clearConnection
  split
  · rfl
  · rw [picked_announce_ofTidings _ φ rfl, picked_announce_ofTidings _ φ rfl, picked_update]

@[simp] theorem picked_disassociate_ofTidings : t.disassociate.picked φ = t.picked φ := by
  simp [disassociate]

@[simp] theorem picked_announceChanges_ofTidings (changes : List Catalogue.Change) :
    (t.announceChanges changes).picked φ = t.picked φ := by
  unfold announceChanges
  induction changes generalizing t with
  | nil => rfl
  | cons c rest ih =>
    rw [List.foldl_cons, ih]
    exact t.picked_announce_ofTidings φ (by cases c <;> rfl)

@[simp] theorem picked_dropCatalogue_ofTidings : t.dropCatalogue.picked φ = t.picked φ := by
  simp [dropCatalogue]

/-! ### Requests -/

theorem picked_refused_ofTidings {r : Option Requester} {outcome : Result × Turn}
    (refused : Refused env r t outcome) : outcome.2.picked φ = t.picked φ := by
  cases refused with
  | atOnce _ => simp
  | byLink _ => rw [picked_refuse_ofTidings, picked_link_ofTidings]

theorem picked_connect_ofTidings (network : String) (a : Address) (r : Option Requester) :
    (t.connect env network a r).2.picked φ = t.picked φ := by
  rcases t.connect_cases env network a r with refused | ⟨o, context, _, _, _, _, h⟩
  · exact t.picked_refused_ofTidings φ env refused
  · simp only [h, begin]
    rw [picked_announce_ofTidings _ φ rfl, picked_announce_ofTidings _ φ rfl,
      picked_enter_ofTidings _ φ (by simp), picked_hold_ofTidings, picked_update,
      picked_link_ofTidings]

theorem picked_selectNext_ofTidings : (t.selectNext env).picked φ = t.picked φ := by
  refine selectNext_induct (P := fun u => u.picked φ = t.picked φ) ?_ ?_ rfl
  · exact fun u rest same => same
  · exact fun u network a same => (u.picked_connect_ofTidings φ env network a none).trans same

theorem picked_setAutoconnect_ofTidings (enabled : Bool) :
    (t.setAutoconnect enabled).picked φ = t.picked φ := by
  unfold setAutoconnect
  split
  · rfl
  simp only
  split
  · simp [picked_enter_ofTidings]
  split
  · simp [picked_enter_ofTidings]
  · simp

theorem picked_shutdown_ofTidings : t.shutdown.picked φ = t.picked φ := by
  unfold shutdown
  simp only
  rw [picked_records_ofTidings _ φ _ _ fun _ => rfl]
  simp

/-! ### Reports -/

theorem picked_handleUp_ofTidings : t.handleUp.picked φ = t.picked φ := by
  unfold handleUp
  split
  · rfl
  · rw [picked_announce_ofTidings _ φ rfl, picked_enter_ofTidings]
    split <;> simp

theorem picked_handleRenamed_ofTidings (name : String) :
    (t.handleRenamed name).picked φ = t.picked φ := by
  unfold handleRenamed
  split
  · rfl
  · exact picked_announce_ofTidings _ φ rfl

theorem picked_scanFailed_ofTidings (e : Error) :
    (t.handleScanTriggered (.error e)).picked φ = t.picked φ := by
  simp only [handleScanTriggered]
  split
  · simp
  · split <;> simp

/-- An attempt that fails is no tidings. -/
theorem picked_attemptFailed_ofTidings {outcome : Outcome} (failed : outcome ≠ .success) :
    (t.handleConnectResult outcome).picked φ = t.picked φ := by
  unfold handleConnectResult
  simp only
  rw [← t.picked_reply_ofTidings φ .connect outcome.result]
  generalize t.reply .connect outcome.result = t
  split
  · rfl
  · split
    · rfl
    · cases outcome with
      | success => exact absurd rfl failed
      | aborted | handshakeFailed | linkFailed => simp

theorem picked_handleDisconnectResult_ofTidings (success : Bool) :
    (t.handleDisconnectResult success).picked φ = t.picked φ := by
  unfold handleDisconnectResult
  simp only
  rw [← t.picked_reply_ofTidings φ .disconnect (if success then .ok () else .error .linkFailed)]
  generalize t.reply .disconnect (if success then .ok () else .error .linkFailed) = t
  split <;> simp

theorem picked_keepSecret_ofTidings (network : String) :
    (t.keepSecret network).picked φ = t.picked φ := by
  unfold keepSecret
  split
  next => rfl
  next n _ =>
    have synced : ∀ c ∈ n.syncCredentials.2, (Effect.store c).isTidings = false := by
      unfold Network.syncCredentials
      split <;> simp [Effect.isTidings]
    exact picked_foldl_record _ φ _ _ fun c hc before =>
      Observer.OfTidings.pick_other before _ (synced c hc)

theorem picked_handleLinkEvent_ofTidings (event : LinkEvent) :
    (t.handleLinkEvent event).picked φ = t.picked φ := by
  unfold handleLinkEvent
  split
  next => rfl
  next c _ =>
    cases event with
    | authenticating | associating | handshaking => rfl
    | settingKeys => exact t.picked_keepSecret_ofTidings φ c.network
    | lostBeacon => simp
    | apDisconnect =>
      simp only
      split <;> simp

/-! ### Operations without tidings -/

theorem picked_perform_of_not_bringsTidings {op : Operation} (h : op.bringsTidings = false) :
    (t.perform env op).2.picked φ = t.picked φ := by
  cases op with
  | notify notification =>
    cases notification with
    | up => exact t.picked_handleUp_ofTidings φ
    | renamed name => exact t.picked_handleRenamed_ofTidings φ name
    | scanTriggered result =>
      cases result with
      | ok _ => cases h
      | error e => exact t.picked_scanFailed_ofTidings φ e
    | connectResult outcome =>
      refine t.picked_attemptFailed_ofTidings φ ?_
      rintro rfl
      cases h
    | disconnectResult success => exact t.picked_handleDisconnectResult_ofTidings φ success
    | event event => exact t.picked_handleLinkEvent_ofTidings φ event
    | powerResult result => exact t.picked_reply_ofTidings φ .power result
    | down | scanResults _ => cases h
  | scan r =>
    rcases t.scan_cases env r with refused | ⟨_, outcome⟩
    · exact t.picked_refused_ofTidings φ env refused
    · rw [perform, outcome, picked_hold_ofTidings, picked_link_ofTidings]
  | connect network a r => exact t.picked_connect_ofTidings φ env network a r
  | connectNetwork network r =>
    rcases t.connectNetwork_cases env network r with refused | ⟨a, outcome⟩
    · exact t.picked_refused_ofTidings φ env refused
    · rw [perform, outcome]
      exact t.picked_connect_ofTidings φ env network a r
  | disconnect r =>
    rcases t.disconnect_cases env r with refused | ⟨_, _, outcome⟩
    · exact t.picked_refused_ofTidings φ env refused
    · rw [perform, outcome, picked_hold_ofTidings, picked_enter_ofTidings _ φ (by simp),
        picked_clearConnection_ofTidings, picked_link_ofTidings]
  | setPowered on r =>
    rcases t.setPowered_cases env on r with refused | outcome | ⟨_, outcome⟩
    · exact t.picked_refused_ofTidings φ env refused
    · rw [perform, outcome]
      exact t.picked_record_ofTidings φ rfl
    · rw [perform, outcome, picked_hold_ofTidings, picked_link_ofTidings]
  | pushButton r =>
    rcases t.pushButton_cases env r with refused | ⟨_, _, _, outcome⟩
    · exact t.picked_refused_ofTidings φ env refused
    · rw [perform, outcome, picked_update, picked_link_ofTidings]
  | cancelEnrollment =>
    rcases t.cancelEnrollment_cases env with refused | outcome
    · exact t.picked_refused_ofTidings φ env refused
    · rw [perform, outcome, picked_endEnrollment_ofTidings]
  | completeEnrollment result =>
    rcases t.completeEnrollment_cases env result with refused | ⟨credentials, result, outcome⟩
    · exact t.picked_refused_ofTidings φ env refused
    · rw [perform, outcome, picked_endEnrollment_ofTidings, storeCredentials]
      exact t.picked_records_ofTidings φ _ _ fun _ => rfl
  | setSecret network settings =>
    rcases t.setSecret_cases env network settings with refused | outcome
    · exact t.picked_refused_ofTidings φ env refused
    · rw [perform, outcome, picked_update]
  | setAutoconnect enabled => exact t.picked_setAutoconnect_ofTidings φ enabled
  | selectNext => exact t.picked_selectNext_ofTidings φ env
  | subscribe _ _ => rfl
  | unsubscribe id => exact picked_records_ofTidings _ φ _ _ fun _ => rfl
  | shutdown => exact t.picked_shutdown_ofTidings φ

/-! ### Operations with tidings -/

section Each

variable {f : Effect → Option α}

omit [φ.OfTidings] in
theorem picked_record_each (e : Effect) :
    (t.record e).picked (.each f) = t.picked (.each f) ++ [e].filterMap f := by
  rw [picked_record, List.filterMap_cons]
  simp only [Observer.each]
  cases f e <;> rfl

/-- A change of the scanning flag is told. -/
theorem picked_setScanning_each (scanning : Bool) :
    (t.setScanning scanning).picked (.each f) =
      t.picked (.each f) ++
        (t.station.scanTidings scanning { t.station.properties with scanning }).filterMap f := by
  unfold setScanning scanTidings
  split
  · simp
  · rw [announce, picked_record_each]
    rfl

variable [(Observer.each f).OfTidings]

/-- An interface that goes down is shown as down when the end of its scan is told. -/
theorem picked_handleDown_each (up : t.station.state ≠ .off) :
    t.handleDown.picked (.each f) =
      t.picked (.each f) ++
        (t.station.scanTidings false { t.station.properties with
          connectedNetwork := none, powered := false, scanning := false
          state := State.off.busText }).filterMap f := by
  unfold handleDown
  rw [if_neg up, picked_announce_ofTidings _ _ rfl, picked_setScanning_each]
  simp [picked_enter_ofTidings, scanTidings, properties, connectedNetwork, isPowered]

theorem picked_enterConnected_each :
    (t.enter .connected).picked (.each f) =
      t.picked (.each f) ++
        [Effect.announce (.stateChanged t.station.state .connected)
          { t.station with state := .connected }.properties].filterMap f := by
  have stated (u : Turn) (old : State) :
      (if old.externallyDistinct .connected then u.announce (.propertyChanged .state) else u).picked
        (.each f) = u.picked (.each f) := by
    split
    · exact picked_announce_ofTidings u _ rfl
    · rfl
  unfold enter
  simp only
  rw [announce, picked_record_each, stated, picked_update, picked_scanFor_ofTidings]
  congr 4
  split <;> simp [properties, connectedNetwork, isPowered]

/-- An attempt that succeeds brings the tidings of its arrival. -/
theorem picked_connectSucceeded_each :
    (t.handleConnectResult .success).picked (.each f) =
      t.picked (.each f) ++ t.station.arrival.filterMap f := by
  have same : t.station.arrival = (t.reply .connect Outcome.success.result).station.arrival := by
    rw [station_reply]
    rfl
  rw [same, ← t.picked_reply_ofTidings (.each f) .connect Outcome.success.result]
  unfold handleConnectResult arrival
  simp only
  generalize t.reply .connect Outcome.success.result = t
  cases state : t.station.state with
  | connecting =>
    cases held : t.station.connection with
    | none => simp
    | some c =>
      cases found : t.station.catalogue.network? c.network with
      | none => simp [picked_enterConnected_each, held, state, found]
      | some n =>
        simp [picked_enterConnected_each, picked_record_each, held, state, found, -picked_record,
          ← List.filterMap_append]
  | _ => simp

/-- A registrar that is found is told of; the other ends of a search are no tidings. -/
theorem picked_handleRegistrars_each (l : List Observation) :
    (t.handleRegistrars env (l.filter fun o => o.registrar.isSome)).picked (.each f) =
      t.picked (.each f) ++ (t.station.sighting l t.station.properties).filterMap f := by
  have selects := Enrollment.select_registrars l
  unfold sighting isSearching
  cases t.sought_handleRegistrars env (l.filter fun o => o.registrar.isSome) with
  | settled done outcome =>
    have idle : (t.station.enrollment.any fun session => session.target.isNone) = false := by
      cases enrolled : t.station.enrollment with
      | none => rfl
      | some session => simpa [Option.isSome_iff_ne_none] using done session enrolled
    simp [outcome, idle]
  | found enrolling searching selected outcome =>
    rw [outcome, announce, picked_record_each]
    simp [enrolling, searching, ← selects, selected]
    rfl
  | overlap enrolling searching selected outcome =>
    simp [outcome, enrolling, searching, ← selects, selected]
  | again enrolling searching selected _ outcome
  | refused enrolling searching selected _ outcome =>
    simp [outcome, picked_link_ofTidings, enrolling, searching, ← selects, selected, -picked_record]

theorem picked_handleScanResults_each (up : t.station.state ≠ .off) (l : List Observation) :
    (t.handleScanResults env l).picked (.each f) =
      t.picked (.each f) ++
        (t.station.scanTidings false { t.station.properties with scanning := false } ++
          t.station.sighting l { t.station.properties with scanning := false }).filterMap f := by
  have taken : (t.takeScan env l).picked (.each f) =
      t.picked (.each f) ++
        (t.station.scanTidings false
          { t.station.properties with scanning := false }).filterMap f := by
    rw [← picked_setScanning_each]
    simp [takeScan, takeIn]
  have searching : (t.takeScan env l).station.isSearching = t.station.isSearching := by
    simp [isSearching, Option.any_map]
  have shown : (t.takeScan env l).station.properties =
      { t.station.properties with scanning := false } := by
    rw [station_takeScan]
    rfl
  rw [handleScanResults_eq, if_neg up, List.filterMap_append, ← List.append_assoc, ← taken, ← shown]
  split
  · rw [picked_handleRegistrars_each, sighting, searching, ← sighting]
  next unenrolled =>
    have idle : t.station.isSearching = false := by
      rw [← searching]
      rw [isEnrolling, Option.not_isSome_iff_eq_none] at unenrolled
      rw [isSearching, unenrolled, Option.any_none]
    rw [sighting, idle]
    split
    · simp [picked_selectNext_ofTidings]
    · simp

end Each

end Turn

/-- An observer of tidings picks something out of the tidings of an operation and out of nothing
else. -/
theorem Move.picked_each {f : Effect → Option α} [(Observer.each f).OfTidings] (m : Move) :
    m.picked (.each f) = m.tidings.filterMap f := by
  obtain ⟨s, env, op⟩ := m
  have quiet (other : op.bringsTidings = false) : Move.picked (.each f) ⟨s, env, op⟩ = [] :=
    Turn.picked_perform_of_not_bringsTidings { station := s } (.each f) env other
  cases op with
  | notify notification =>
    cases notification with
    | down =>
      by_cases off : s.state = .off
      · have ignored : Turn.handleDown { station := s } = { station := s } := if_pos off
        simp only [tidings, if_pos off]
        exact congrArg (Turn.picked _) ignored
      · simp only [tidings, if_neg off]
        exact Turn.picked_handleDown_each { station := s } off
    | scanTriggered result =>
      cases result with
      | error e => exact quiet rfl
      | ok _ =>
        refine (Turn.picked_reply_ofTidings _ _ _ _).trans ?_
        exact Turn.picked_setScanning_each { station := s } true
    | scanResults observations =>
      by_cases off : s.state = .off
      · have ignored : Turn.handleScanResults env observations { station := s } =
            { station := s } := if_pos off
        simp only [tidings, if_pos off]
        exact congrArg (Turn.picked _) ignored
      · simp only [tidings, if_neg off]
        exact Turn.picked_handleScanResults_each { station := s } env off observations
    | connectResult outcome =>
      cases outcome with
      | success => exact Turn.picked_connectSucceeded_each { station := s }
      | aborted | handshakeFailed | linkFailed => exact quiet rfl
    | up | renamed _ | disconnectResult _ | event _ | powerResult _ => exact quiet rfl
  | _ => exact quiet rfl

/-! ### Tidings for watchers -/

/-- What watchers are told as tidings. -/
def Effect.tidings? : Effect → Option Telling
  | .announce event shown => if event.isTidings then some ⟨event, shown⟩ else none
  | _ => none

instance : (Observer.each Effect.tidings?).OfTidings where
  pick_other before e other := by
    cases e with
    | announce event shown => exact if_neg (ne_true_of_eq_false other)
    | _ => rfl

theorem mem_tidings?_iff {l : List Effect} {event : Event} {shown : Properties}
    (tidings : event.isTidings = true) :
    ⟨event, shown⟩ ∈ l.filterMap Effect.tidings? ↔ .announce event shown ∈ l := by
  rw [List.mem_filterMap]
  constructor
  · rintro ⟨e, he, picked⟩
    cases e with
    | announce _ _ =>
      dsimp only [Effect.tidings?] at picked
      split at picked <;> cases picked
      exact he
    | _ => cases picked
  · exact fun h => ⟨_, h, if_pos tidings⟩

theorem Turn.mem_told_iff (t : Turn) {event : Event} {shown : Properties} :
    ⟨event, shown⟩ ∈ t.told ↔ .announce event shown ∈ t.log := by
  have each : tellings = .each fun e => tellings.pick [] e := rfl
  rw [told, picked, each, Observer.picks_each, List.mem_filterMap]
  constructor
  · rintro ⟨e, he, picked⟩
    cases e <;> cases picked
    exact he
  · exact fun h => ⟨_, h, rfl⟩

/-- Of these kinds of events watchers are told the tidings of an operation. -/
theorem Move.mem_told_iff (m : Move) {event : Event} {shown : Properties}
    (tidings : event.isTidings = true) :
    ⟨event, shown⟩ ∈ m.told ↔ .announce event shown ∈ m.tidings := by
  rw [← mem_tidings?_iff tidings, ← m.picked_each, picked, Turn.picked, Observer.picks_each,
    mem_tidings?_iff tidings]
  exact Turn.mem_told_iff _

end WirelessStation.Station
