import WirelessStation.Proofs.Connection
import WirelessStation.Proofs.Relisting
import WirelessStation.Proofs.Told

/-! # What operations tell watchers

What watchers are told in an operation, and the properties at its moments, make a course, from what
there was to see before to what there is to see after it.  Each part of an operation goes on with a
course (`Turn.OnCourse.enter`, `Turn.OnCourse.clearConnection`, …), and so does each report and each
request, as long as the connection agrees with the state and the catalogue
(`Turn.OnCourse.perform`).  A whole run is then one course (`Run.course`). -/

namespace WirelessStation.Station

/-- The network in use is one of those that there are to see. -/
def View.Tied (v : View) : Prop :=
  ∀ network, v.connected = some network → network ∈ v.paths

theorem mem_paths_of_places {s : Station} {network : String} {a : Address}
    (h : s.catalogue.Places network a) : network ∈ s.view.paths := by
  obtain ⟨n, found, _⟩ := h.listed
  exact List.mem_map.2 ⟨n, List.mem_of_find?_eq_some found, Catalogue.path_of_network? found⟩

theorem Linked.tied {s : Station} (h : Linked s) : s.view.Tied := by
  intro network held
  obtain ⟨c, connected, rfl⟩ := Option.map_eq_some_iff.1 held
  exact mem_paths_of_places (h.placed c connected)

namespace Turn

/-- A turn in which what was told and the moments, from a view on, make a course. -/
def OnCourse (v : View) (due : Bool) (t : Turn) : Prop :=
  Course v due t.told t.moments t.station.view

namespace OnCourse

variable {v : View} {due : Bool} {t t' : Turn}

/-! ### Parts of operations -/

/-- Something changes that there is not to see. -/
theorem update (h : t.OnCourse v due) {f : Station → Station}
    (same : (f t.station).view = t.station.view) : (t.update f).OnCourse v due := by
  have aside := Course.aside h
  rw [← same] at aside
  exact aside

/-- Something is done that watchers are not told of. -/
theorem record (h : t.OnCourse v due) {e : Effect}
    (silent : ∀ event shown, e ≠ .announce event shown) : (t.record e).OnCourse v due := by
  rw [OnCourse, told_record t silent]
  exact h

theorem records {α : Type} (h : t.OnCourse v due) (f : α → Effect) (l : List α)
    (silent : ∀ a event shown, f a ≠ .announce event shown) :
    (l.foldl (fun t a => t.record (f a)) t).OnCourse v due := by
  induction l generalizing t with
  | nil => exact h
  | cons a rest ih => exact ih (h.record (silent a))

theorem link (h : t.OnCourse v due) (c : LinkCall) : (t.record (.link c)).OnCourse v due :=
  h.record (by simp)

theorem dropRequester (h : t.OnCourse v due) (r : Option Requester) :
    (t.dropRequester r).OnCourse v due := by
  cases r with
  | none => exact h
  | some r => exact h.record (by simp)

theorem reply (h : t.OnCourse v due) (slot : Slot) (result : Result) :
    (t.reply slot result).OnCourse v due := by
  unfold Turn.reply
  split
  next => exact h
  next => exact (h.update rfl).record (by simp)

theorem hold (h : t.OnCourse v due) (slot : Slot) (r : Option Requester) :
    (t.hold slot r).OnCourse v due :=
  (h.dropRequester _).update rfl

theorem endEnrollment (h : t.OnCourse v due) (result : Result) :
    (t.endEnrollment result).OnCourse v due := by
  unfold Turn.endEnrollment
  split
  next => exact h
  next => exact (h.update rfl).record (by simp)

theorem abortRequests (h : t.OnCourse v due) : t.abortRequests.OnCourse v due :=
  ((h.reply .scan (.error .aborted)).reply .connect (.error .aborted)).reply .disconnect
    (.error .aborted)

theorem setPeriodicScan (h : t.OnCourse v due) (enabled : Bool) :
    (t.setPeriodicScan enabled).OnCourse v due := by
  unfold Turn.setPeriodicScan
  split
  next => exact h
  next => exact (h.update rfl).link _

theorem scanFor (h : t.OnCourse v due) (new : State) : (t.scanFor new).OnCourse v due := by
  cases new with
  | autoconnect => exact h.setPeriodicScan true
  | off | disconnected | connected => exact h.setPeriodicScan false
  | connecting | disconnecting => exact h

theorem stroke {w : View} {moments : List Properties} {events : List Event}
    (h : t.OnCourse v due) (s : Stroke t.station.view moments events w)
    (seen : t'.station.view = w) (told : t'.told = t.told ++ w.tell events)
    (passed : t'.moments = t.moments ++ moments) : t'.OnCourse v due := by
  rw [OnCourse, seen, told, passed]
  exact Course.stroke h s

/-- Something changes and is told at once. -/
theorem announced (h : t.OnCourse v due) {f : Station → Station} {event : Event}
    (s : Stroke t.station.view [(f t.station).properties] [event] (f t.station).view) :
    ((t.update f).announce event).OnCourse v due :=
  h.stroke s rfl (told_announce ..) rfl

theorem enter {new : State} (h : t.OnCourse v due) (leads : t.station.view.state.leadsTo new)
    (up : t.station.view.state ≠ .off) (on : new ≠ .off) : (t.enter new).OnCourse v due := by
  have aside := h.scanFor new
  rw [← t.view_scanFor new] at leads up
  refine aside.stroke (.entered leads up on) ?_ ?_ ?_ <;> rw [view_scanFor]
  · exact view_enter ..
  · exact told_enter ..
  · exact moments_enter ..

/-- The idle states are entered by way of the one that is not autoconnect. -/
theorem enterIdle (h : t.OnCourse v due) (leads : t.station.view.state.leadsTo .disconnected)
    (up : t.station.view.state ≠ .off) : t.enterIdle.OnCourse v due := by
  have first := h.enter leads up (by simp)
  unfold Turn.enterIdle
  simp only
  split
  · refine first.enter ?_ ?_ (by simp) <;> rw [view_enter]
    · rfl
    · simp
  · exact first

theorem setScanning (h : t.OnCourse v due) (scanning : Bool) :
    (t.setScanning scanning).OnCourse v due := by
  unfold Turn.setScanning
  split
  next => exact h
  next new => exact h.announced (.scanning scanning new)

theorem clearConnection (h : t.OnCourse v due) (tied : t.station.view.Tied) :
    t.clearConnection.OnCourse v due := by
  cases connection : t.station.connection with
  | none => simpa [Turn.clearConnection, connection] using h
  | some c =>
    have held : t.station.view.connected = some c.network := by
      simp [view, connectedNetwork, connection]
    let released := t.update fun s => { s with connection := none }
    have cleared : t.clearConnection =
        (released.announce (.propertyChanged .connectedNetwork)).announce
          (.networkConnectedChanged c.network) := by
      rw [Turn.clearConnection, connection]
    rw [cleared]
    refine h.stroke (.released held (tied _ held)) rfl ?_ rfl
    rw [told_announce, told_announce, List.append_assoc]
    rfl

theorem disassociate (h : t.OnCourse v due) (tied : t.station.view.Tied)
    (leads : t.station.view.state.leadsTo .disconnected) (up : t.station.view.state ≠ .off) :
    t.disassociate.OnCourse v due := by
  refine (h.clearConnection tied).enterIdle ?_ ?_
  · rwa [view_clearConnection]
  · rwa [view_clearConnection]

/-- Changes of the catalogue are announced before they take place. -/
theorem relist {added removed : List String} (h : t.OnCourse v due) (reason : RemovalReason)
    (catalogue : Catalogue) (fresh : (t.station.view.paths ++ added).Nodup)
    (gone : removed.Sublist t.station.view.paths)
    (kept : ∀ network, t.station.connectedNetwork = some network → network ∉ removed)
    (named : ∀ path ∈ added, ∃ ssid security,
      path = networkPath t.station.catalogue.device ssid security)
    (device : catalogue.device = t.station.catalogue.device)
    (paths : catalogue.networks.map (·.path) =
      (t.station.view.paths ++ added).filter fun path => path ∉ removed) :
    ((t.announceChanges (added.map .added ++ removed.map fun path => .removed path reason)).update
      fun s => { s with catalogue }).OnCourse v due := by
  refine h.stroke (.relisted reason fresh gone kept named) ?_ ?_ ?_
  · rw [station_update, station_announceChanges, ← paths, view, device]
    rfl
  · rw [told_update, told_announceChanges, List.map_append, List.map_map, List.map_map]
    rfl
  · rw [moments_update, moments_announceChanges, station_announceChanges]
    rfl

/-- Every network is dropped once the connection is let go. -/
theorem dropCatalogue (h : t.OnCourse v due) (tied : t.station.view.Tied)
    (distinct : t.station.view.paths.Nodup) : t.dropCatalogue.OnCourse v due := by
  let released := t.clearConnection.update fun s => { s with candidates := [] }
  let paths := released.station.view.paths
  have free : released.OnCourse v due := (h.clearConnection tied).update rfl
  have same : paths = t.station.view.paths := by simp [paths, released, view]
  have fresh : (paths ++ []).Nodup := by rwa [List.append_nil, same]
  have dropped := free.relist .shutdown (released.station.catalogue.clear .shutdown).1 fresh
    (.refl _) (by simp [released, connectedNetwork]) (by simp) rfl (by simp [Catalogue.clear])
  have changes : (released.station.catalogue.clear .shutdown).2 =
      paths.map fun path => .removed path .shutdown := by
    simp [Catalogue.clear, paths, view]
  rw [List.map_nil, List.nil_append, ← changes] at dropped
  exact dropped

theorem takeIn (h : t.OnCourse v due) (linked : Linked t.station)
    (settled : t.station.catalogue.Settled) (env : Surroundings) (observations : List Observation) :
    (t.takeIn env observations).OnCourse v due := by
  let heard := Catalogue.heard observations
  show ((t.announceChanges (t.station.catalogue.ingest observations (pin t.station) env.store
    env.now).changes).update _).OnCourse v due
  rw [Catalogue.changes_ingest settled]
  refine h.relist .outOfRange _ ?_ (Catalogue.lost_sublist ..) ?_ ?_ (Catalogue.device_ingest ..)
    (Catalogue.paths_ingest settled ..)
  · have known := Catalogue.nodup_paths_known settled env.now heard
    rwa [Catalogue.paths_known] at known
  · intro network held
    obtain ⟨c, connected, rfl⟩ := Option.map_eq_some_iff.1 held
    rw [pin, connected]
    exact Catalogue.not_mem_lost settled env.now heard (linked.placed c connected)
  · intro path gained
    obtain ⟨home, _, rfl⟩ := List.mem_map.1 gained
    exact ⟨home.1, home.2, rfl⟩

theorem beginAttempt (h : t.OnCourse v due) {network : String} (a : Address) (r : Option Requester)
    (leads : t.station.view.state.leadsTo .connecting) (up : t.station.view.state ≠ .off)
    (free : t.station.view.connected = none) (there : network ∈ t.station.view.paths) :
    (t.begin network a r).OnCourse v due :=
  h.stroke (.began leads up free there) (view_begin ..) (told_begin ..) (moments_begin ..)

/-- The interface comes up or goes down, and that is yet to be told. -/
theorem turn {new : State} (h : t.OnCourse v false) (leads : t.station.view.state.leadsTo new)
    (power : t.station.view.state = .off ∨ new = .off) : (t.enter new).OnCourse v true := by
  have aside := h.scanFor new
  rw [OnCourse, view_scanFor] at aside
  rw [OnCourse, view_enter, told_enter, moments_enter]
  exact aside.turned leads power

theorem announcePowered (h : t.OnCourse v true) :
    (t.announce (.propertyChanged .powered)).OnCourse v false := by
  rw [OnCourse, told_announce]
  exact Course.powered h

/-! ### Reports of the link layer -/

variable (env : Surroundings)

theorem handleUp (h : t.OnCourse v false) : t.handleUp.OnCourse v false := by
  unfold Turn.handleUp
  split
  next => exact h
  next off =>
    have off : t.station.view.state = .off := not_not.1 off
    refine (h.turn ?_ (.inl off)).announcePowered
    cases t.station.autoconnect <;> simp [off, State.leadsTo]

theorem handleDown (h : t.OnCourse v false) (tied : t.station.view.Tied)
    (distinct : t.station.view.paths.Nodup) : t.handleDown.OnCourse v false := by
  unfold Turn.handleDown
  split
  next => exact h
  next up =>
    have leads : t.station.view.state.leadsTo .off := State.leadsTo_off up
    let ended := (t.enter .off).abortRequests.endEnrollment (.error .aborted)
    have aside : ended.OnCourse v true :=
      (h.turn leads (.inr rfl)).abortRequests.endEnrollment (.error .aborted)
    have seen : ended.station.view = { t.station.view with state := .off } := by
      rw [view_endEnrollment, view_abortRequests, view_enter]
    have dropped : ended.dropCatalogue.OnCourse v true := by
      refine aside.dropCatalogue ?_ ?_
      · rw [seen]
        exact tied
      · rw [seen]
        exact distinct
    exact (dropped.setScanning false).announcePowered

theorem handleRenamed (h : t.OnCourse v due) (name : String) :
    (t.handleRenamed name).OnCourse v due := by
  unfold Turn.handleRenamed
  split
  next => exact h
  next new => exact h.announced (.renamed name new)

theorem handleScanTriggered (h : t.OnCourse v due) (result : Result) :
    (t.handleScanTriggered result).OnCourse v due := by
  unfold Turn.handleScanTriggered
  cases result with
  | ok _ => exact (h.setScanning true).reply .scan (.ok ())
  | error e =>
    simp only
    split
    · exact h.reply .scan (.error e)
    · split
      · exact h.endEnrollment (.error e)
      · exact h

theorem handleRegistrars (h : t.OnCourse v due) (registrars : List Observation) :
    (t.handleRegistrars env registrars).OnCourse v due := by
  cases t.sought_handleRegistrars env registrars with
  | settled _ same =>
    rw [same]
    exact h
  | @found _ a _ _ _ outcome =>
    rw [outcome]
    exact h.announced (.registrarFound a)
  | overlap _ _ _ outcome =>
    rw [outcome]
    exact h.endEnrollment _
  | again _ _ _ _ outcome =>
    rw [outcome]
    exact (h.link _).update rfl
  | refused _ _ _ _ outcome =>
    rw [outcome]
    exact (h.link _).endEnrollment _

theorem keepSecret (h : t.OnCourse v due) (network : String) :
    (t.keepSecret network).OnCourse v due := by
  unfold Turn.keepSecret
  split
  next => exact h
  next n found =>
    have same := t.view_modify network (fun _ => n.syncCredentials.1) fun _ _ => by
      simpa using Catalogue.path_of_network? found
    exact (h.update same).records Effect.store _ (by simp)

theorem handleConnectResult (h : t.OnCourse v due) (tied : t.station.view.Tied)
    (outcome : Outcome) : (t.handleConnectResult outcome).OnCourse v due := by
  have answered := h.reply .connect outcome.result
  have seen := t.view_reply .connect outcome.result
  rw [← seen] at tied
  unfold Turn.handleConnectResult
  simp only
  generalize t.reply .connect outcome.result = t at *
  split
  next => exact answered
  next connecting =>
    have connecting : t.station.view.state = .connecting := not_not.1 connecting
    have up : t.station.view.state ≠ .off := by simp [connecting]
    have leads : t.station.view.state.leadsTo .disconnected := by simp [connecting, State.leadsTo]
    split
    next => exact answered
    next c _ =>
      cases outcome with
      | success =>
        have next : t.station.view.state.leadsTo .connected := by simp [connecting, State.leadsTo]
        cases found : t.station.catalogue.network? c.network with
        | none => exact (answered.enter next up (by simp)).update rfl
        | some n =>
          have stored : (t.record (.store n.connectedCall)).OnCourse v due :=
            answered.record (by simp)
          exact (stored.enter next up (by simp)).update rfl
      | aborted => exact answered.disassociate tied leads up
      | handshakeFailed | linkFailed =>
        have same := t.view_modify c.network Network.connectFailed (by simp)
        refine OnCourse.disassociate (answered.update same) ?_ ?_ ?_ <;> rwa [same]

theorem handleDisconnectResult (h : t.OnCourse v due) (tied : t.station.view.Tied)
    (success : Bool) : (t.handleDisconnectResult success).OnCourse v due := by
  have answered := h.reply .disconnect (if success then .ok () else .error .linkFailed)
  have seen := t.view_reply .disconnect (if success then .ok () else .error .linkFailed)
  rw [← seen] at tied
  unfold Turn.handleDisconnectResult
  simp only
  generalize t.reply .disconnect (if success then .ok () else .error .linkFailed) = t at *
  split
  next => exact answered
  next disconnecting =>
    have disconnecting : t.station.view.state = .disconnecting := not_not.1 disconnecting
    refine answered.disassociate tied ?_ ?_ <;> simp [disconnecting, State.leadsTo]

theorem handleLinkEvent (h : t.OnCourse v due) (linked : Linked t.station) (event : LinkEvent) :
    (t.handleLinkEvent event).OnCourse v due := by
  unfold Turn.handleLinkEvent
  split
  next => exact h
  next c held =>
    have busy := linked.held_iff.1 (Option.isSome_of_eq_some held)
    have leads : t.station.view.state.leadsTo .disconnected := by
      show t.station.state.leadsTo .disconnected
      rcases busy with state | state <;> simp [state, State.leadsTo]
    have up : t.station.view.state ≠ .off := by
      show t.station.state ≠ .off
      rcases busy with state | state <;> simp [state]
    have tied := linked.tied
    have answered := h.reply .connect (.error .linkFailed)
    have seen := t.view_reply .connect (.error .linkFailed)
    cases event with
    | authenticating | associating | handshaking => exact h
    | settingKeys => exact h.keepSecret c.network
    | lostBeacon => refine answered.disassociate ?_ ?_ ?_ <;> rwa [seen]
    | apDisconnect =>
      simp only
      split
      · have same := (t.reply .connect (.error .linkFailed)).view_modify c.network
          Network.connectFailed (by simp)
        refine OnCourse.disassociate (answered.update same) ?_ ?_ ?_ <;> rwa [same, seen]
      · exact h.disassociate tied leads up

/-! ### Requests -/

theorem refused {env : Surroundings} {r : Option Requester} {outcome : Result × Turn}
    (h : t.OnCourse v due) (refusal : Refused env r t outcome) : outcome.2.OnCourse v due := by
  cases refusal with
  | atOnce _ => exact h.dropRequester r
  | byLink _ => exact (h.link _).dropRequester r

theorem connect (h : t.OnCourse v due) (linked : Linked t.station) (network : String) (a : Address)
    (r : Option Requester) : (t.connect env network a r).2.OnCourse v due := by
  rcases t.connect_cases env network a r with refusal | ⟨o, context, up, free, planned, _, outcome⟩
  · exact h.refused refusal
  · rw [outcome]
    have idle : t.station.state.isConnectedSide = false := by
      simp only [isBusy, Bool.or_eq_false_iff] at free
      exact free.1.1
    have none : t.station.connection = none := by
      refine linked.connection_eq_none ?_ ?_ <;> intro state <;>
        simp [state, State.isConnectedSide, State.place] at idle
    refine (h.link _).beginAttempt a r (State.leadsTo_connecting up idle) up ?_ ?_
    · show t.station.connection.map _ = _
      rw [none]
      rfl
    · exact mem_paths_of_places (places_of_plan planned)

theorem selectNext (h : t.OnCourse v due) (linked : Linked t.station) :
    (t.selectNext env).OnCourse v due := by
  have kept : (t.selectNext env).OnCourse v due ∧ Linked (t.selectNext env).station := by
    refine selectNext_induct (P := fun u => u.OnCourse v due ∧ Linked u.station) ?_ ?_ ⟨h, linked⟩
    · rintro u rest ⟨h, linked⟩
      exact ⟨h.update rfl, linked.congr ⟨rfl, rfl, rfl⟩⟩
    · rintro u network a ⟨h, linked⟩
      exact ⟨h.connect env linked network a none, linked.connect env network a none⟩
  exact kept.1

theorem setAutoconnect (h : t.OnCourse v due) (enabled : Bool) :
    (t.setAutoconnect enabled).OnCourse v due := by
  unfold Turn.setAutoconnect
  split
  next => exact h
  simp only
  split
  next idle =>
    have state : t.station.view.state = .disconnected := idle.1
    have leads : t.station.view.state.leadsTo .autoconnect := by simp [state, State.leadsTo]
    have up : t.station.view.state ≠ .off := by simp [state]
    exact OnCourse.enter (h.update rfl) leads up (by simp)
  split
  next idle =>
    have state : t.station.view.state = .autoconnect := idle.1
    have leads : t.station.view.state.leadsTo .disconnected := by simp [state, State.leadsTo]
    have up : t.station.view.state ≠ .off := by simp [state]
    exact OnCourse.enter ((h.update rfl).update rfl) leads up (by simp)
  next => exact h.update rfl

/-! ### Scans -/

/-- A scan is taken in and what was under way because of an earlier one is over. -/
theorem takeScan (h : t.OnCourse v due) (linked : Linked t.station)
    (settled : t.station.catalogue.Settled) (observations : List Observation) :
    (t.takeScan env observations).OnCourse v due := by
  let stopped := (t.setScanning false).update fun s =>
    { s with enrollment := s.enrollment.map fun session => { session with scanning := false } }
  have ended : stopped.OnCourse v due := (h.setScanning false).update rfl
  have same : Linked stopped.station := linked.congr (by simp [stopped])
  have taken : (stopped.takeIn env observations).OnCourse v due :=
    ended.takeIn same (by simpa [stopped] using settled) env observations
  exact taken.update rfl

theorem handleScanResults (h : t.OnCourse v due) (linked : Linked t.station)
    (settled : t.station.catalogue.Settled) (observations : List Observation) :
    (t.handleScanResults env observations).OnCourse v due := by
  have taken := h.takeScan env linked settled observations
  have still := linked.takeScan env observations
  rw [handleScanResults_eq]
  split
  · exact h
  · split
    · exact taken.handleRegistrars env _
    · split
      · exact OnCourse.selectNext env (taken.update rfl) (still.congr ⟨rfl, rfl, rfl⟩)
      · exact taken

/-! ### Operations -/

theorem shutdown (h : t.OnCourse v due) (linked : Linked t.station)
    (settled : t.station.catalogue.Settled) : t.shutdown.OnCourse v due := by
  let ended := (t.abortRequests.reply .power (.error .aborted)).endEnrollment (.error .notAvailable)
  have aside : ended.OnCourse v due :=
    (h.abortRequests.reply .power (.error .aborted)).endEnrollment (.error .notAvailable)
  have seen : ended.station.view = t.station.view := by
    rw [view_endEnrollment, view_reply, view_abortRequests]
  have dropped : ended.dropCatalogue.OnCourse v due := by
    refine aside.dropCatalogue ?_ ?_
    · rw [seen]
      exact linked.tied
    · rw [seen]
      exact settled.paths
  exact ((dropped.setPeriodicScan false).update rfl).records Effect.cleanup _ (by simp)

/-- Whatever is done with a station, what watchers are told makes a course. -/
theorem perform (h : t.OnCourse v false) (linked : Linked t.station)
    (settled : t.station.catalogue.Settled) (op : Operation) :
    (t.perform env op).2.OnCourse v false := by
  cases op with
  | notify notification =>
    cases notification with
    | up => exact h.handleUp
    | down => exact h.handleDown linked.tied settled.paths
    | renamed name => exact h.handleRenamed name
    | scanTriggered result => exact h.handleScanTriggered result
    | scanResults observations => exact h.handleScanResults env linked settled observations
    | connectResult outcome => exact h.handleConnectResult linked.tied outcome
    | disconnectResult success => exact h.handleDisconnectResult linked.tied success
    | event event => exact h.handleLinkEvent linked event
    | powerResult result => exact h.reply .power result
  | scan r =>
    rcases t.scan_cases env r with refused | ⟨_, outcome⟩
    · exact h.refused refused
    · rw [Turn.perform, outcome]
      exact (h.link _).hold .scan (some r)
  | connect network a r => exact h.connect env linked network a r
  | connectNetwork network r =>
    rcases t.connectNetwork_cases env network r with refused | ⟨a, outcome⟩
    · exact h.refused refused
    · rw [Turn.perform, outcome]
      exact h.connect env linked network a r
  | disconnect r =>
    rcases t.disconnect_cases env r with refused | ⟨_, held, outcome⟩
    · exact h.refused refused
    · rw [Turn.perform, outcome]
      have released : (t.record (.link .disconnect)).clearConnection.OnCourse v false :=
        (h.link _).clearConnection linked.tied
      refine OnCourse.hold (released.enter ?_ ?_ (by simp)) .disconnect r <;>
        rw [view_clearConnection]
      · show t.station.state.leadsTo .disconnecting
        rcases linked.held_iff.1 held with state | state <;> simp [state, State.leadsTo]
      · show t.station.state ≠ .off
        rcases linked.held_iff.1 held with state | state <;> simp [state]
  | setPowered on r =>
    rcases t.setPowered_cases env on r with refused | outcome | ⟨_, outcome⟩
    · exact h.refused refused
    · rw [Turn.perform, outcome]
      exact h.record (by simp)
    · rw [Turn.perform, outcome]
      exact (h.link _).hold .power (some r)
  | pushButton r =>
    rcases t.pushButton_cases env r with refused | ⟨_, probe, _, outcome⟩
    · exact h.refused refused
    · rw [Turn.perform, outcome]
      exact (h.link _).update rfl
  | cancelEnrollment =>
    rcases t.cancelEnrollment_cases env with refused | outcome
    · exact h.refused refused
    · rw [Turn.perform, outcome]
      exact h.endEnrollment _
  | completeEnrollment outcome =>
    rcases t.completeEnrollment_cases env outcome with refused | ⟨credentials, result, outcome⟩
    · exact h.refused refused
    · rw [Turn.perform, outcome]
      have stored : (t.storeCredentials credentials).OnCourse v false :=
        h.records (fun c : Enrollment.Credential =>
          .store (.sync c.settings.security c.ssid c.settings)) credentials (by simp)
      exact stored.endEnrollment result
  | setSecret network settings =>
    rcases t.setSecret_cases env network settings with refused | outcome
    · exact h.refused refused
    · rw [Turn.perform, outcome]
      exact h.update (t.view_modify network _ fun n hn => by simpa using hn)
  | setAutoconnect enabled => exact h.setAutoconnect enabled
  | selectNext => exact h.selectNext env linked
  | subscribe watcher hasCleanup => exact h.update rfl
  | unsubscribe id => exact OnCourse.records (h.update rfl) Effect.cleanup _ (by simp)
  | shutdown => exact h.shutdown linked settled

end OnCourse

end Turn

/-! ### Runs -/

variable {i : Interface} {config : Config} {moves : List Move} {s : Station}

/-- What watchers are told in the next operation of a run makes a course. -/
theorem Run.course_move (run : Run (.new i config) moves s) (env : Surroundings)
    (op : Operation) :
    Course s.view false (Move.told ⟨s, env, op⟩) (Move.moments ⟨s, env, op⟩)
      (s.step env op).2.station.view :=
  Turn.OnCourse.perform (t := { station := s }) env .start run.linked run.settled op

/-- What watchers are told in a run makes a course. -/
theorem Run.course (run : Run (.new i config) moves s) :
    Course (Station.new i config).view false (moves.flatMap Move.told)
      (moves.flatMap Move.moments) s.view := by
  induction run with
  | start => exact .start
  | move run env op live ih =>
    rw [List.flatMap_append, List.flatMap_singleton, List.flatMap_append, List.flatMap_singleton]
    exact ih.trans (run.course_move env op)

end WirelessStation.Station
