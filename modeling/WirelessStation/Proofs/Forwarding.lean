import WirelessStation.Bus.Call
import WirelessStation.Proofs.Clients
import WirelessStation.Proofs.Signals

/-! # What a turn forwards to the pump

The pump watches a station, perhaps more than once, and is told of every event of a turn
(`forwards`).  When the turn makes a course, the events lead the tree from the networks that the
station had to those that it has (`Turn.OnCourse.kept`), and wherever a client would read something
new there is an event that lets it be signalled (`Turn.OnCourse.due`).

Every turn that is taken for the bus makes a course and leaves the station as sound as it was
(`Took`): what is done over the bus (`Took.order`), as well as every notification and every request
made in another way (`Took.step`). -/

namespace WirelessStation

open Bus

/-- The path of the device that a pump watches. -/
def Subscriber.device? : Subscriber → Option String
  | pump device => some device
  | client _ => none

namespace Station

/-- The event that an effect tells watchers of. -/
def Effect.event? : Effect → Option Event
  | announce event _ => some event
  | _ => none

/-- The pumps that watch a station, by the paths that they go by. -/
def pumps (s : Station) : List String :=
  s.watchers.watchers.filterMap Subscriber.device?

/-- What the pumps of a station are told in a turn. -/
def forwards (s : Station) (t : Turn) : List Forwarded :=
  forwarded (t.log.flatMap (Manager.notices s.index s.watchers.watchers))

theorem Turn.events_told (t : Turn) : t.told.map (·.event) = t.log.filterMap Effect.event? := by
  have picks (before log : List Effect) :
      (tellings.picks before log).map (·.event) = log.filterMap Effect.event? := by
    induction log generalizing before with
    | nil => rfl
    | cons e rest ih =>
      rw [Observer.picks, List.map_append, ih]
      cases e <;> rfl
  exact picks [] t.log

/-- Each pump is told of each event. -/
theorem forwards_eq (s : Station) (t : Turn) :
    s.forwards t =
      (t.told.map (·.event)).flatMap fun e => s.pumps.map fun d => ⟨s.index, d, e⟩ := by
  rw [Turn.events_told, forwards]
  induction t.log with
  | nil => rfl
  | cons effect rest ih =>
    rw [List.flatMap_cons, forwarded, List.filterMap_append, ← forwarded, ← forwarded, ih]
    cases effect with
    | announce e shown =>
      have told : forwarded (Manager.notices s.index s.watchers.watchers (.announce e shown)) =
          s.pumps.map fun d => ⟨s.index, d, e⟩ := by
        rw [Manager.notices, forwarded, List.filterMap_map, pumps, List.map_filterMap]
        refine List.filterMap_congr fun w _ => ?_
        cases w <;> rfl
      rw [told]
      rfl
    | link _ | store _ | answer _ _ | drop _ | cleanup _ => rfl

theorem forwards_of_unwatched {s : Station} (unwatched : s.pumps = []) (t : Turn) :
    s.forwards t = [] := by
  simp [forwards_eq, unwatched]

theorem forwarded_absorb (t : Manager.Turn) (s : Station) (turn : Turn) :
    forwarded (t.absorb s turn).log = forwarded t.log ++ s.forwards turn :=
  List.filterMap_append

/-- The watchers of interfaces are no pumps. -/
theorem forwarded_announce (t : Manager.Turn) (event : DeviceEvent) :
    forwarded (t.announce event).log = forwarded t.log := by
  rw [forwarded, Manager.Turn.announce, List.filterMap_append, List.filterMap_map]
  simp [Function.comp_def, Forwarded.ofNotice?, forwarded]

/-- Who is attached is watched by pumps only under its own path. -/
structure Sound (config : Config) (s : Station) : Prop where
  named : s.Named config
  linked : Linked s
  pumps_eq : ∀ d ∈ s.pumps, d = s.path

variable {config : Config} {s : Station} {t : Turn}

namespace Turn.OnCourse

/-- The events of a course are about the networks of its own station. -/
theorem sends (course : t.OnCourse s.view false) (sound : s.Sound config) :
    s.Sends (s.forwards t) := by
  have device : s.view.device = s.path := sound.named.device_eq
  have own : s.view.Named := by
    intro path listed
    rw [device]
    exact sound.named.owns path (List.mem_toFinset.2 listed)
  have named := (Course.named course own).2
  rw [device] at named
  intro f listed
  rw [forwards_eq] at listed
  obtain ⟨e, told, listed⟩ := List.mem_flatMap.1 listed
  obtain ⟨d, pump, rfl⟩ := List.mem_map.1 listed
  refine ⟨rfl, sound.pumps_eq d pump, ?_⟩
  cases e with
  | networkAdded path => exact named path (.inl told)
  | networkRemoved path reason => exact named path (.inr ⟨reason, told⟩)
  | _ => trivial

/-- The pump is led to the networks that the station has afterwards. -/
theorem foldl_keep (course : t.OnCourse s.view false) (settled : s.catalogue.Settled)
    (watched : s.pumps ≠ []) :
    (s.forwards t).foldl (fun known f => f.event.keep known) s.known = t.station.known := by
  rw [forwards_eq]
  exact (Course.replay course).foldl_keep settled.paths watched s.index

/-- Where something else is to be read than before, it is going to be signalled. -/
theorem due (course : t.OnCourse s.view false) (sound : s.Sound config) (watched : s.pumps ≠ [])
    {x : Subject} (other : x.read t.station.properties ≠ x.read s.properties) :
    ∃ f ∈ s.forwards t, f.device = s.path ∧ f.event = x.event := by
  have told := (Course.exactly course x).event_mem other
  obtain ⟨d, more, pumps⟩ := List.exists_cons_of_ne_nil watched
  have pump : d ∈ s.pumps := pumps ▸ List.mem_cons_self ..
  refine ⟨⟨s.index, d, x.event⟩, ?_, sound.pumps_eq d pump, rfl⟩
  rw [forwards_eq]
  exact List.mem_flatMap.2 ⟨x.event, told, List.mem_map.2 ⟨d, pump, rfl⟩⟩

end Turn.OnCourse

/-! ### Turns that are taken for the bus -/

/-- Operations that neither end a station nor change which pumps watch it. -/
def Operation.sparesPumps : Operation → Bool
  | .subscribe (.pump _) _ | .unsubscribe _ | .shutdown => false
  | _ => true

theorem pumps_perform (t : Turn) (env : Surroundings) {op : Operation}
    (spares : op.sparesPumps = true) : (t.perform env op).2.station.pumps = t.station.pumps := by
  cases watch : op.isWatch with
  | false =>
    exact congrArg (fun l : Own × Watchlist Subscriber =>
      l.2.watchers.filterMap Subscriber.device?) (t.lasting_perform env watch)
  | true =>
    cases op with
    | subscribe watcher hasCleanup =>
      cases watcher with
      | client label =>
        simp [pumps, Turn.perform, Turn.subscribe, Watchlist.add, Watchlist.watchers,
          Subscriber.device?]
      | pump device => cases spares
    | unsubscribe _ | shutdown => cases spares
    | _ => cases watch

/-- A turn of a station that makes a course and leaves the station sound. -/
structure Took (s : Station) (t : Turn) : Prop where
  course : t.OnCourse s.view false
  linked : Linked t.station
  settled : t.station.catalogue.Settled
  own_eq : t.station.own = s.own
  pumps_eq : t.station.pumps = s.pumps

namespace Took

theorem step (linked : Linked s) (settled : s.catalogue.Settled) (env : Surroundings)
    (op : Operation) (spares : op.sparesPumps = true) : Took s (s.step env op).2 where
  course := Turn.OnCourse.perform (t := { station := s }) env .start linked settled op
  linked := by
    refine linked.perform (t := { station := s }) env op ?_
    rintro rfl
    cases spares
  settled := (catalogue_step settled env op).1
  own_eq := s.own_step env op
  pumps_eq := pumps_perform { station := s } env spares

/-- Whatever a caller orders over the bus. -/
theorem order (linked : Linked s) (settled : s.catalogue.Settled) (env : Surroundings)
    (caller : Requester) (order : Order) :
    Took s (order.run env caller { station := s }).2 := by
  cases order with
  | scan => exact step linked settled env (.scan caller) rfl
  | pushButton => exact step linked settled env (.pushButton caller) rfl
  | cancel => exact step linked settled env .cancelEnrollment rfl
  | connect network => exact step linked settled env (.connectNetwork network (some caller)) rfl
  | setPowered on => exact step linked settled env (.setPowered on caller) rfl
  | disconnect =>
    -- Autoconnect goes first, and neither of the two touches the catalogue.
    let stopped := Turn.setAutoconnect false { station := s }
    have first : Took s stopped := step linked settled env (.setAutoconnect false) rfl
    let disconnect := Operation.disconnect (some caller)
    refine ⟨first.course.perform env first.linked first.settled disconnect,
      first.linked.disconnect env (some caller), ?_, ?_, ?_⟩
    · have same : (stopped.disconnect env (some caller)).2.station.catalogue =
          stopped.station.catalogue := by
        rcases stopped.disconnect_cases env (some caller) with refused | ⟨_, _, outcome⟩
        · rw [refused.station_eq]
        · simp [outcome]
      exact same ▸ first.settled
    · have live : disconnect ≠ .shutdown := Operation.noConfusion
      exact (stopped.own_perform env live).trans first.own_eq
    · have spares : disconnect.sparesPumps = true := rfl
      exact (pumps_perform stopped env spares).trans first.pumps_eq

theorem sound (took : Took s t) (before : s.Sound config) : t.station.Sound config := by
  have path : t.station.path = s.path := congrArg Own.path took.own_eq
  have index : t.station.index = s.index := congrArg Own.index took.own_eq
  refine ⟨⟨?_, ?_, took.settled⟩, took.linked, ?_⟩
  · rw [path, index]
    exact before.named.path_eq
  · rw [path, ← before.named.device_eq]
    exact Course.device_eq took.course
  · rw [took.pumps_eq, path]
    exact before.pumps_eq

end Took

end Station

end WirelessStation
