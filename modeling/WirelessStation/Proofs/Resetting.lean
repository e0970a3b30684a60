import WirelessStation.Proofs.Enrolling
import WirelessStation.Proofs.Parts
import WirelessStation.Proofs.Rekeying
import WirelessStation.Proofs.Told

/-! # A link that goes down resets the station

When the link goes down everyone who waits for it is answered and every network goes.  What is left
is a station as new (`renewed`), but for its name, the autoconnect flag, a request to change the
power and its watchers.  While the interface is down it stays as new: results of requests from
before may still come in, and are told to nobody.

* `answers_handleDown`, `events_handleDown`, `station_handleDown`: who is answered, what watchers
  are told and what is left when the link goes down.
* `renewed_perform`: what no operation changes while the interface is down.
* `down_resets`: the main result. -/

namespace WirelessStation.Station

/-- Who is answered and how. -/
def outcomes : Observer (Requester × Result) where
  pick _ e :=
    match e with
    | .answer r result => some (r, result)
    | _ => none

instance : outcomes.Overlooks where
  announce _ _ _ := rfl
  periodicScan _ _ := rfl

/-- Everyone who waits for the link: all but those who wait for a change of the power. -/
def awaitingLink (s : Station) : List Requester :=
  s.pending.scan.toList ++ s.pending.connect.toList ++ s.pending.disconnect.toList ++
    (s.enrollment.map (·.requester)).toList

/-- The events that tell that a connection, if there is one, is let go. -/
def Event.releasing : Option Connection → List Event
  | none => []
  | some c => [.propertyChanged .connectedNetwork, .networkConnectedChanged c.network]

/-- The station as new, but for its name, its flags for autoconnect and scanning, a request to
change the power, and its watchers. -/
def renewed (i : Interface) (config : Config) (s : Station) : Station :=
  { Station.new i config with
    name := s.name, autoconnect := s.autoconnect, scanning := s.scanning
    pending := { power := s.pending.power }, watchers := s.watchers }

namespace Turn

variable (t : Turn)

/-! ### The link goes down -/

theorem outcomes_reply (slot : Slot) (result : Result) :
    (t.reply slot result).picked outcomes =
      t.picked outcomes ++ (t.station.pending.get slot).toList.map fun r => (r, result) := by
  rw [picked_reply]
  cases t.station.pending.get slot <;> rfl

theorem outcomes_endEnrollment (result : Result) :
    (t.endEnrollment result).picked outcomes =
      t.picked outcomes ++
        (t.station.enrollment.map (·.requester)).toList.map fun r => (r, result) := by
  rw [picked_endEnrollment]
  cases t.station.enrollment <;> rfl

/-- Everyone who waits for the link is answered. -/
theorem answers_handleDown (up : t.station.state ≠ .off) :
    t.handleDown.picked outcomes =
      t.picked outcomes ++ t.station.awaitingLink.map fun r => (r, .error .aborted) := by
  unfold handleDown abortRequests
  rw [if_neg up]
  simp [outcomes_endEnrollment, outcomes_reply, awaitingLink, Pending.get, Pending.set]

/-! ### What watchers hear -/

/-- The events that watchers have been told of in a turn. -/
def events (t : Turn) : List Event :=
  t.told.map (·.event)

theorem events_announce (e : Event) : (t.announce e).events = t.events ++ [e] := by
  simp [events, View.events_tell]

theorem events_record {e : Effect} (silent : ∀ event shown, e ≠ .announce event shown) :
    (t.record e).events = t.events := by
  rw [events, told_record t silent, events]

theorem events_setPeriodicScan (enabled : Bool) :
    (t.setPeriodicScan enabled).events = t.events := by
  unfold setPeriodicScan
  split
  · rfl
  · exact events_record _ (by simp)

theorem events_enter_off :
    (t.enter .off).events = t.events ++ t.station.state.entering .off := by
  have told := t.told_enter .off
  rw [events, told, List.map_append, View.events_tell]
  exact congrArg (· ++ _) (t.events_setPeriodicScan false)

theorem events_reply (slot : Slot) (result : Result) : (t.reply slot result).events = t.events := by
  unfold reply
  split
  · rfl
  · exact events_record _ (by simp)

theorem events_endEnrollment (result : Result) : (t.endEnrollment result).events = t.events := by
  unfold endEnrollment
  split
  · rfl
  · exact events_record _ (by simp)

theorem events_clearConnection :
    t.clearConnection.events = t.events ++ Event.releasing t.station.connection := by
  unfold clearConnection
  split
  next none => simp [none, Event.releasing]
  next c held =>
    rw [events_announce, events_announce, List.append_assoc, held]
    rfl

theorem events_announceChanges (changes : List Catalogue.Change) :
    (t.announceChanges changes).events = t.events ++ changes.map .ofChange := by
  rw [events, told_announceChanges, List.map_append, View.events_tell, events]

theorem events_dropCatalogue :
    t.dropCatalogue.events =
      t.events ++ Event.releasing t.station.connection ++
        t.station.catalogue.networks.map fun n => .networkRemoved n.path .shutdown := by
  have released : (t.clearConnection.update fun s => { s with candidates := [] }).events =
      t.events ++ Event.releasing t.station.connection := t.events_clearConnection
  unfold dropCatalogue
  show Turn.events (announceChanges _ _) = _
  rw [events_announceChanges, released]
  simp [Function.comp_def, Event.ofChange]

theorem events_setScanning (scanning : Bool) :
    (t.setScanning scanning).events =
      t.events ++ if t.station.scanning = scanning then [] else [.propertyChanged .scanning] := by
  unfold setScanning
  split
  · rw [List.append_nil]
  · exact events_announce _ _

/-- The state, the connection, every network and the end of a scan are told, and at last that the
interface is down. -/
theorem events_handleDown (up : t.station.state ≠ .off) :
    t.handleDown.events =
      t.events ++ t.station.state.entering .off ++ Event.releasing t.station.connection ++
        (t.station.catalogue.networks.map fun n => .networkRemoved n.path .shutdown) ++
        (if t.station.scanning = false then [] else [.propertyChanged .scanning]) ++
        [.propertyChanged .powered] := by
  unfold handleDown abortRequests
  rw [if_neg up]
  simp only [events_announce, events_setScanning, events_dropCatalogue, events_endEnrollment,
    events_reply, events_enter_off]
  simp

end Turn

/-! ### While the interface is down -/

variable {i : Interface} {config : Config}

namespace Turn

variable {t : Turn} {env : Surroundings} {op : Operation}

/-- Every request that fails leaves a station that is as new as it was. -/
theorem renewed_of_refused {r : Option Requester} {outcome : Result × Turn}
    (refused : Refused env r t outcome) {u : Station} (fresh : t.station = renewed i config u) :
    ∃ w, outcome.2.station = renewed i config w :=
  ⟨u, refused.station_eq.trans fresh⟩

/-- As long as the link does not come up, a station that is as new stays so: nothing is there that
an operation could change, but for the few things that are not as new. -/
theorem renewed_perform (live : op ≠ .shutdown) (still : op ≠ .notify .up) {u : Station}
    (fresh : t.station = renewed i config u) :
    ∃ w, (t.perform env op).2.station = renewed i config w := by
  have off : t.station.state = .off := by rw [fresh]; rfl
  have unheld : t.station.connection = none := by rw [fresh]; rfl
  have unlisted (network : String) : t.station.catalogue.network? network = none := by
    rw [fresh]; rfl
  have unenrolled : t.station.isEnrolling = false := by rw [fresh]; rfl
  cases op with
  | notify notification =>
    cases notification with
    | up => exact absurd rfl still
    | down => exact ⟨u, by rw [perform, handle, station_handleDown, if_pos off, fresh]⟩
    | renamed name =>
      refine ⟨{ u with name }, ?_⟩
      rw [perform, handle, station_handleRenamed, fresh]
      rfl
    | scanTriggered result =>
      rw [perform, handle, station_handleScanTriggered, fresh]
      cases result with
      | ok _ => exact ⟨{ u with scanning := true }, rfl⟩
      | error e => exact ⟨u, rfl⟩
    | scanResults observations =>
      exact ⟨u, by rw [perform, handle, handleScanResults, if_pos off, fresh]⟩
    | connectResult outcome =>
      refine ⟨u, ?_⟩
      rw [perform, handle, station_handleConnectResult, fresh]
      rfl
    | disconnectResult success =>
      refine ⟨u, ?_⟩
      rw [perform, handle, station_handleDisconnectResult, fresh]
      rfl
    | event event => exact ⟨u, by rw [perform, handle, handleLinkEvent, unheld, fresh]⟩
    | powerResult result =>
      refine ⟨{ u with pending := { u.pending with power := none } }, ?_⟩
      rw [perform, handle, handlePowerResult, station_reply, fresh]
      rfl
  | scan r =>
    refine ⟨u, ?_⟩
    rw [perform, scan, if_pos off, station_refuse, fresh]
  | connect network a r =>
    refine ⟨u, ?_⟩
    rw [perform, connect, if_pos off, station_refuse, fresh]
  | connectNetwork network r =>
    refine ⟨u, ?_⟩
    rw [perform, connectNetwork, unlisted]
    exact (station_refuse ..).trans fresh
  | disconnect r =>
    rcases t.disconnect_cases env r with refused | ⟨_, held, _⟩
    · exact renewed_of_refused refused fresh
    · rw [unheld] at held
      cases held
  | setPowered on r =>
    rcases t.setPowered_cases env on r with refused | h | ⟨_, h⟩
    · exact renewed_of_refused refused fresh
    · rw [perform, h]
      exact ⟨u, fresh⟩
    · refine ⟨{ u with pending := { u.pending with power := some r } }, ?_⟩
      rw [perform, h, station_hold, station_record, fresh]
      rfl
  | pushButton r =>
    refine ⟨u, ?_⟩
    rw [perform, pushButton, if_pos off, station_refuse, fresh]
  | cancelEnrollment =>
    refine ⟨u, ?_⟩
    rw [perform, cancelEnrollment, unenrolled]
    exact fresh
  | completeEnrollment outcome =>
    have refused : t.completeEnrollment outcome = (.error .notAvailable, t) := by
      simp [completeEnrollment, unenrolled]
    refine ⟨u, ?_⟩
    rw [perform, refused]
    exact fresh
  | setSecret network settings =>
    refine ⟨u, ?_⟩
    rw [perform, setSecret, unlisted]
    exact fresh
  | setAutoconnect enabled =>
    rw [perform, station_setAutoconnect]
    split
    · exact ⟨u, fresh⟩
    · refine ⟨{ u with autoconnect := enabled }, ?_⟩
      simp only [fresh]
      rfl
  | selectNext =>
    refine ⟨u, ?_⟩
    rw [perform, selectNext, off]
    exact fresh
  | subscribe watcher hasCleanup =>
    refine ⟨{ u with watchers := (u.watchers.add watcher hasCleanup).2 }, ?_⟩
    rw [perform, subscribe, station_update, fresh]
    rfl
  | unsubscribe id =>
    refine ⟨{ u with watchers := (u.watchers.remove id).2.1 }, ?_⟩
    rw [perform, unsubscribe]
    simp only
    rw [station_foldl_record, station_update, fresh]
    rfl
  | shutdown => exact absurd rfl live

/-- Nothing but the report that the link went down takes an interface down. -/
theorem up_perform (up : t.station.state ≠ .off) (other : op ≠ .notify .down) :
    (t.perform env op).2.station.state ≠ .off := by
  refine (t.unfolds_perform env op).keeps (P := (·.station.state ≠ .off)) up fun t t' p h => ?_
  have idle (flag : Bool) : State.idle flag ≠ .off := by cases flag <;> simp [State.idle]
  cases p with
  | update same => exact (congrArg Modes.state same).trans_ne h
  | record | attempt => exact h
  | connecting | disconnecting | connected => simp
  | idle | up => simp [idle]
  | down reported => exact absurd reported other
  | toggled =>
    rw [station_setAutoconnect]
    split
    · exact h
    split
    · simp
    split
    · simp
    · exact h
  | stopped =>
    rw [station_setPeriodicScan]
    exact h

end Turn

variable {moves : List Move} {s : Station}

/-- The catalogue is always that of the interface. -/
theorem Run.device_eq (run : Run (.new i config) moves s) :
    s.catalogue.device = (Station.new i config).catalogue.device := by
  induction run with
  | start => rfl
  | @move _ s run env op live ih =>
    rw [← ih]
    rcases Move.catalogue_cases (m := ⟨s, env, op⟩) live run.settled.toFiled with
      ⟨observations, _, taken⟩ | ⟨_, _, dropped⟩ | ⟨_, rekeyed⟩
    · exact (congrArg Catalogue.device taken).trans (Catalogue.device_ingest ..)
    · exact (congrArg Catalogue.device dropped).trans rfl
    · exact rekeyed.device

/-- A link that goes down leaves a station as new. -/
theorem Run.renewed_down (run : Run (.new i config) moves s) (up : s.state ≠ .off)
    (env : Surroundings) :
    (s.step env (.notify .down)).2.station = renewed i config { s with scanning := false } := by
  obtain ⟨index, path, adapter, address, ciphers⟩ := Own.mk.inj run.own_eq
  have catalogue : (s.catalogue.clear .shutdown).1 = (Station.new i config).catalogue := by
    simp [Catalogue.clear, run.device_eq, Station.new]
  rw [step, Turn.perform, Turn.handle, Turn.station_handleDown, if_neg up]
  simp only [index, path, adapter, address, ciphers, catalogue]
  rfl

/-- While the interface is down the station is as new. -/
theorem Run.renewed_of_off (run : Run (.new i config) moves s) (off : s.state = .off) :
    s = renewed i config s := by
  have fresh : ∃ w, s = renewed i config w := by
    induction run with
    | start => exact ⟨.new i config, rfl⟩
    | @move _ s run env op live ih =>
      by_cases down : s.state = .off
      · obtain ⟨u, fresh⟩ := ih down
        refine Turn.renewed_perform (t := { station := s }) live ?_ fresh
        -- A link that comes up does not leave the interface down.
        rintro rfl
        rw [step, Turn.perform, Turn.handle, Turn.station_handleUp, if_pos down] at off
        cases flag : s.autoconnect <;> simp [flag, State.idle] at off
      · obtain rfl : op = .notify .down := by
          by_contra other
          exact Turn.up_perform (t := { station := s }) down other off
        exact ⟨_, run.renewed_down down env⟩
  obtain ⟨w, rfl⟩ := fresh
  rfl

/-- A link that goes down resets the station, whatever was pending: everyone who waits for the link
is answered that the request was aborted, and nobody else is; watchers hear of every network of the
catalogue once, as gone by a shutdown, and the station is as new and does not scan.  At every moment
before the shutdown at which the interface is down the station is as new, but for its name, its
flags for autoconnect and scanning, a request to change the power, and its watchers. -/
theorem down_resets (run : Run (.new i config) moves s) :
    (s.state ≠ .off → ∀ env,
      let down : Move := ⟨s, env, .notify .down⟩
      down.picked outcomes = s.awaitingLink.map (fun r => (r, .error .aborted)) ∧
      down.told.map (·.event) =
        s.state.entering .off ++ Event.releasing s.connection ++
          (s.catalogue.networks.map fun n => .networkRemoved n.path .shutdown) ++
          (if s.scanning = false then [] else [.propertyChanged .scanning]) ++
          [.propertyChanged .powered] ∧
      (s.catalogue.networks.map (·.path)).Nodup ∧
      down.after = renewed i config { s with scanning := false }) ∧
    (s.state = .off → s = renewed i config s) := by
  refine ⟨fun up env => ?_, run.renewed_of_off⟩
  intro down
  exact ⟨Turn.answers_handleDown { station := s } up, Turn.events_handleDown { station := s } up,
    run.settled.paths, run.renewed_down up env⟩

/-- An attempt is under way and a scan was asked for. -/
def Sample.asking : List (Surroundings × Operation) :=
  Sample.connecting ++ [(Sample.surroundings true, .scan (.request 1))]

/-- The link goes down while two requests wait; afterwards both results come in late, and so do the
results of a scan. -/
theorem down_resets_asking :
    let env := Sample.surroundings true
    let s := Sample.station.played Sample.asking
    let down : Move := ⟨s, env, .notify .down⟩
    let late := Sample.asking ++
      [(env, .notify .down), (env, .notify (.connectResult .success)),
        (env, .notify (.scanTriggered (.ok ()))),
        (env, .notify (.scanResults [Sample.observation]))]
    let s' := Sample.station.played late
    Run Sample.station (Sample.station.play Sample.asking) s ∧ s.state = .connecting ∧
      down.picked outcomes = [(.request 1, .error .aborted), (.request 0, .error .aborted)] ∧
      .networkRemoved Sample.network .shutdown ∈ down.told.map (·.event) ∧
      Run Sample.station (Sample.station.play late) s' ∧ s'.scanning = true ∧
      s' = renewed Sample.interface {} s' := by
  intro env s down late s'
  have run : Run Sample.station (Sample.station.play Sample.asking) s :=
    Sample.run _ (by simp [Sample.asking, Sample.connecting, Sample.hearing])
  have connecting : s.state = .connecting := by decide +kernel
  have awaiting : s.awaitingLink = [.request 1, .request 0] := by decide +kernel
  have listed : s.catalogue.networks.map (·.path) = [Sample.network] := by decide +kernel
  obtain ⟨answered, told, _, _⟩ := (down_resets run).1 (by simp [connecting]) env
  have gone : Event.networkRemoved Sample.network .shutdown ∈ down.told.map (·.event) := by
    obtain ⟨n, there, path⟩ := List.mem_map.1 (listed ▸ List.mem_singleton_self Sample.network)
    rw [told, ← path]
    simp only [List.mem_append, List.mem_map]
    exact .inl (.inl (.inr ⟨n, there, rfl⟩))
  have run' : Run Sample.station (Sample.station.play late) s' :=
    Sample.run _ (by simp [late, Sample.asking, Sample.connecting, Sample.hearing])
  have off : s'.state = .off := by decide +kernel
  rw [awaiting] at answered
  exact ⟨run, connecting, answered, gone, run', by decide +kernel, (down_resets run').2 off⟩

end WirelessStation.Station
