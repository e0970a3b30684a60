import Mathlib.Data.Finset.Basic
import WirelessStation.Proofs.BackgroundScan
import WirelessStation.Proofs.Resolving

/-! # Interfaces that come up and go away

A watcher of interfaces is told in two places: when a notification turns a station on or off, and
when a station that is on is removed.  One that puts an index in when it is inserted and takes it
out when it is removed holds the interfaces that are up, as long as its watch lasts, and each index
goes in and out by turns (`device_events_replay`).  The watch ends with the shutdown of the manager.

* `Station.Grounded`: an interface that is down has no connection.  So only a notification turns a
  station on or off (`Station.isPowered_step`).
* `DeviceEvent.Follows`: events that each change what a watcher holds.  What is heard in one
  operation follows from the interfaces that were up to those that are (`Turn.Leads`). -/

namespace WirelessStation

namespace Station

/-! ### What turns a station on or off -/

/-- An interface that is down has no connection. -/
def Grounded (s : Station) : Prop :=
  s.state = .off → s.connection = none

/-- Whether the link layer reports something. -/
def Operation.isNotification : Operation → Bool
  | .notify _ => true
  | _ => false

namespace Grounded

variable {s s' : Station}

theorem congr (h : Grounded s) (state : s'.state = s.state)
    (connection : s'.connection = s.connection) : Grounded s' := by
  intro off
  rw [connection]
  exact h (state ▸ off)

theorem of_none (connection : s.connection = none) : Grounded s :=
  fun _ => connection

theorem of_up (up : s.state ≠ .off) : Grounded s :=
  fun off => absurd off up

/-- A station that has a connection is not off. -/
theorem up (h : Grounded s) (held : s.connection.isSome = true) : s.state ≠ .off := by
  intro off
  rw [h off] at held
  cases held

variable {t : Turn} (h : Grounded t.station) (env : Surroundings)

include h

theorem connect (network : String) (a : Address) (r : Option Requester) :
    Grounded (t.connect env network a r).2.station := by
  rcases t.connect_cases env network a r with refused | ⟨_, _, _, _, _, _, outcome⟩
  · rw [refused.station_eq]
    exact h
  · rw [outcome]
    exact of_up (by simp)

theorem selectNext : Grounded (t.selectNext env).station := by
  refine Turn.selectNext_induct (P := fun u => Grounded u.station) ?_ ?_ h
  · intro u rest h
    exact h.congr rfl rfl
  · intro u network a h
    exact h.connect env network a none

theorem notify (notification : Notification) :
    Grounded (t.perform env (.notify notification)).2.station := by
  cases aside : (Operation.notify notification).isAside with
  | true =>
    rw [t.station_aside env aside]
    exact h.congr rfl rfl
  | false =>
    cases notification with
    | up =>
      rw [Turn.perform, Turn.handle, Turn.station_handleUp]
      split
      · exact of_up (by cases flag : t.station.autoconnect <;> simp [State.idle])
      · exact h
    | down =>
      rw [Turn.perform, Turn.handle, Turn.station_handleDown]
      split
      · exact h
      · exact of_none rfl
    | scanResults observations =>
      have taken : Grounded (t.takeScan env observations).station := h.congr (by simp) (by simp)
      rw [Turn.perform, Turn.handle, Turn.handleScanResults_eq]
      split
      · exact h
      split
      · rw [Turn.station_handleRegistrars]
        exact taken.congr rfl rfl
      split
      · refine selectNext ?_ env
        exact taken.congr rfl rfl
      · exact taken
    | connectResult outcome =>
      rw [Turn.perform, Turn.handle, Turn.station_handleConnectResult]
      split
      next connecting =>
        have up : t.station.state ≠ .off := by simp [connecting]
        split
        · exact of_up up
        · exact of_up (by simp)
        all_goals exact of_none rfl
      next => exact h.congr rfl rfl
    | disconnectResult success =>
      rw [Turn.perform, Turn.handle, Turn.station_handleDisconnectResult]
      split
      · exact of_none rfl
      · exact h.congr rfl rfl
    | event event =>
      rw [Turn.perform, Turn.handle, Turn.station_handleLinkEvent]
      split
      case h_5 =>
        rw [Turn.station_keepSecret]
        exact h.congr rfl rfl
      case h_6 | h_7 => exact of_none rfl
      all_goals exact h
    | renamed _ | scanTriggered _ | powerResult _ => cases aside

end Grounded

/-- What an operation that is no report leaves of a station that was on or off: it still is, and
still has no connection if it is off. -/
structure Unmoved (s s' : Station) : Prop where
  grounded : Grounded s'
  powered : s'.isPowered = s.isPowered

namespace Unmoved

variable {s s' : Station}

theorem of_state (h : Grounded s) (state : s'.state = s.state)
    (connection : s'.connection = s.connection) : Unmoved s s' :=
  ⟨h.congr state connection, by rw [isPowered, isPowered, state]⟩

theorem of_up (before : s.state ≠ .off) (after : s'.state ≠ .off) : Unmoved s s' :=
  ⟨.of_up after, (bne_iff_ne.2 after).trans (bne_iff_ne.2 before).symm⟩

theorem trans {s'' : Station} (h : Unmoved s s') (h' : Unmoved s' s'') : Unmoved s s'' :=
  ⟨h'.grounded, h'.powered.trans h.powered⟩

variable {t : Turn} (h : Grounded t.station) (env : Surroundings)

include h

theorem refused {r : Option Requester} {outcome : Result × Turn}
    (refusal : Refused env r t outcome) : Unmoved t.station outcome.2.station := by
  rw [refusal.station_eq]
  exact of_state h rfl rfl

theorem connect (network : String) (a : Address) (r : Option Requester) :
    Unmoved t.station (t.connect env network a r).2.station := by
  rcases t.connect_cases env network a r with refusal | ⟨_, _, up, _, _, _, outcome⟩
  · exact refused h env refusal
  · rw [outcome]
    exact of_up up (by simp)

theorem selectNext : Unmoved t.station (t.selectNext env).station := by
  refine Turn.selectNext_induct (P := fun u => Unmoved t.station u.station) ?_ ?_
    (of_state h rfl rfl)
  · intro u rest moved
    exact moved.trans (of_state moved.grounded rfl rfl)
  · intro u network a moved
    exact moved.trans (connect moved.grounded env network a none)

theorem perform {op : Operation} (quiet : op.isNotification = false) :
    Unmoved t.station (t.perform env op).2.station := by
  cases aside : op.isAside with
  | true =>
    rw [t.station_aside env aside]
    exact of_state h rfl rfl
  | false =>
    cases op with
    | notify notification => cases quiet
    | connect network a r => exact connect h env network a r
    | connectNetwork network r =>
      rcases t.connectNetwork_cases env network r with refusal | ⟨a, outcome⟩
      · exact refused h env refusal
      · rw [Turn.perform, outcome]
        exact connect h env network a r
    | disconnect r =>
      rcases t.disconnect_cases env r with refusal | ⟨_, held, outcome⟩
      · exact refused h env refusal
      · rw [Turn.perform, outcome]
        exact of_up (h.up held) (by simp)
    | setSecret network settings =>
      rcases t.setSecret_cases env network settings with refusal | outcome
      · exact refused h env refusal
      · rw [Turn.perform, outcome]
        exact of_state h rfl rfl
    | setAutoconnect enabled =>
      rw [Turn.perform, Turn.station_setAutoconnect]
      split
      · exact of_state h rfl rfl
      split
      next idle => exact of_up (by simp [idle.1]) (by simp)
      split
      next idle => exact of_up (by simp [idle.1]) (by simp)
      next => exact of_state h rfl rfl
    | selectNext => exact selectNext h env
    | shutdown =>
      rw [Turn.perform, Turn.station_shutdown]
      exact ⟨.of_none rfl, rfl⟩
    | scan _ | setPowered _ _ | pushButton _ | subscribe _ _ | unsubscribe _ => cases aside
    | cancelEnrollment | completeEnrollment _ => cases aside

end Unmoved

variable {s : Station}

theorem grounded_step (h : Grounded s) (env : Surroundings) (op : Operation) :
    Grounded (s.step env op).2.station := by
  cases report : op.isNotification with
  | true =>
    cases op with
    | notify notification => exact Grounded.notify (t := { station := s }) h env notification
    | _ => cases report
  | false => exact (Unmoved.perform (t := { station := s }) h env report).grounded

/-- Only a report of the link layer turns a station on or off. -/
theorem isPowered_step (h : Grounded s) (env : Surroundings) {op : Operation}
    (quiet : op.isNotification = false) : (s.step env op).2.station.isPowered = s.isPowered :=
  (Unmoved.perform (t := { station := s }) h env quiet).powered

end Station

/-! ### What a watcher of interfaces holds -/

namespace DeviceEvent

/-- The indexes that a watcher holds once it has heard an event. -/
def follow (held : Finset Nat) : DeviceEvent → Finset Nat
  | inserted index => insert index held
  | removed index => held.erase index

/-- Whether an event puts an index in or takes it out, if it is about this one. -/
def about? (index : Nat) : DeviceEvent → Option Bool
  | inserted i => if i = index then some true else none
  | removed i => if i = index then some false else none

/-- Events that each change what a watcher holds, from what it holds before to what it holds after
them. -/
inductive Follows : Finset Nat → List DeviceEvent → Finset Nat → Prop
  | nil (held : Finset Nat) : Follows held [] held
  | inserted {held held' : Finset Nat} {index : Nat} {rest : List DeviceEvent}
      (new : index ∉ held) (on : Follows (insert index held) rest held') :
      Follows held (.inserted index :: rest) held'
  | removed {held held' : Finset Nat} {index : Nat} {rest : List DeviceEvent}
      (there : index ∈ held) (on : Follows (held.erase index) rest held') :
      Follows held (.removed index :: rest) held'

namespace Follows

variable {p p' p'' : Finset Nat} {l l' : List DeviceEvent}

theorem append (h : Follows p l p') (h' : Follows p' l' p'') : Follows p (l ++ l') p'' := by
  induction h with
  | nil => exact h'
  | inserted new _ ih => exact .inserted new (ih h')
  | removed there _ ih => exact .removed there (ih h')

theorem foldl_eq (h : Follows p l p') : l.foldl follow p = p' := by
  induction h with
  | nil => rfl
  | inserted _ _ ih => exact ih
  | removed _ _ ih => exact ih

/-- Each index goes in and out by turns. -/
theorem alternate (h : Follows p l p') (index : Nat) :
    Station.Alternate (decide (index ∈ p)) (l.filterMap (about? index)) (decide (index ∈ p')) := by
  induction h with
  | nil => exact .none_thrown
  | @inserted held _ i rest new on ih =>
    by_cases here : i = index
    · subst here
      have first : Station.Alternate (decide (i ∈ held)) [true] (decide (i ∈ insert i held)) := by
        simpa [new] using Station.Alternate.thrown (by decide : false ≠ true)
      simpa [about?] using first.append ih
    · have same : (index ∈ insert i held) ↔ index ∈ held := by simp [Ne.symm here]
      simpa [about?, here, same] using ih
  | @removed held _ i rest there on ih =>
    by_cases here : i = index
    · subst here
      have first : Station.Alternate (decide (i ∈ held)) [false] (decide (i ∈ held.erase i)) := by
        simpa [there] using Station.Alternate.thrown (by decide : true ≠ false)
      simpa [about?] using first.append ih
    · have same : (index ∈ held.erase i) ↔ index ∈ held := by simp [Ne.symm here]
      simpa [about?, here, same] using ih

end Follows

end DeviceEvent

namespace Manager

variable {m m' : Manager} {s : Station} {index : Nat} {w : String}

/-! ### The interfaces that are up -/

/-- The indexes of the managed interfaces that are up. -/
def powered (m : Manager) : Finset Nat :=
  ((m.stations.filter (·.isPowered)).map (·.index)).toFinset

theorem mem_powered : index ∈ m.powered ↔ ∃ s ∈ m.stations, s.isPowered = true ∧ s.index = index := by
  simp [powered, and_assoc]

/-- Whether an interface is up is read off its station. -/
theorem Ascending.mem_powered_iff (h : m.Ascending) (found : m.station? index = some s) :
    index ∈ m.powered ↔ s.isPowered = true := by
  rw [mem_powered]
  constructor
  · rintro ⟨t, there, on, same⟩
    rwa [h.eq_of_index (mem_of_station? found) there ((index_of_station? found).trans same.symm)]
  · intro on
    exact ⟨s, mem_of_station? found, on, index_of_station? found⟩

/-- A station that has taken a turn is up or not, and nothing else changes. -/
theorem powered_put {s' : Station} (found : m.station? index = some s) (same : s'.index = index) :
    (m.put s').powered =
      if s'.isPowered then insert index m.powered else m.powered.erase index := by
  obtain rfl := same
  ext i
  have there : ∃ t ∈ m.stations, t.index = s'.index :=
    ⟨s, mem_of_station? found, index_of_station? found⟩
  rw [mem_powered]
  split
  next on =>
    rw [Finset.mem_insert, mem_powered]
    constructor
    · rintro ⟨t, ht, up, rfl⟩
      rcases (mem_put there).1 ht with rfl | ⟨ht, _⟩
      · exact .inl rfl
      · exact .inr ⟨t, ht, up, rfl⟩
    · intro h
      by_cases here : i = s'.index
      · exact ⟨s', (mem_put there).2 (.inl rfl), on, here.symm⟩
      · obtain ⟨t, ht, up, rfl⟩ := h.resolve_left here
        exact ⟨t, (mem_put there).2 (.inr ⟨ht, here⟩), up, rfl⟩
  next off =>
    rw [Finset.mem_erase, mem_powered]
    constructor
    · rintro ⟨t, ht, up, rfl⟩
      rcases (mem_put there).1 ht with rfl | ⟨ht, other⟩
      · exact absurd up off
      · exact ⟨other, t, ht, up, rfl⟩
    · rintro ⟨other, t, ht, up, rfl⟩
      exact ⟨t, (mem_put there).2 (.inr ⟨ht, other⟩), up, rfl⟩

/-- A new interface is down. -/
theorem powered_insertStation {i : Interface} {config : Config}
    (stations : m'.stations = insertStation (.new i config) m.stations) :
    m'.powered = m.powered := by
  ext index
  rw [mem_powered, mem_powered]
  constructor
  · rintro ⟨s, there, up, same⟩
    rw [stations, mem_insertStation] at there
    rcases there with rfl | there
    · cases up
    · exact ⟨s, there, up, same⟩
  · rintro ⟨s, there, up, same⟩
    refine ⟨s, ?_, up, same⟩
    rw [stations, mem_insertStation]
    exact .inr there

/-! ### What a watcher hears -/

/-- What a watcher of interfaces hears of a notice. -/
def Notice.heard? (w : String) : Notice → Option DeviceEvent
  | .device watcher event => if watcher = w then some event else none
  | .did _ _ | .told _ _ _ => none

/-- How often a watcher is told of an event. -/
def watching (w : String) (m : Manager) : Nat :=
  m.watchers.watchers.count w

namespace Turn

/-- What a watcher of interfaces has heard in a turn. -/
def heard (w : String) (t : Turn) : List DeviceEvent :=
  t.log.filterMap (Notice.heard? w)

variable (t : Turn)

theorem heard_announce (event : DeviceEvent) :
    (t.announce event).heard w = t.heard w ++ List.replicate (t.manager.watching w) event := by
  simp only [heard, announce, List.filterMap_append, List.append_cancel_left_eq, watching]
  induction t.manager.watchers.watchers with
  | nil => rfl
  | cons v rest ih =>
    rw [List.map_cons, List.filterMap_cons, ih]
    by_cases here : v = w
    · simp [Notice.heard?, here, List.replicate_succ]
    · simp [Notice.heard?, here, List.count_cons_of_ne here]

/-- Nothing that a station does is said to watchers of interfaces. -/
theorem heard_absorb (before : Station) (turn : Station.Turn) :
    (t.absorb before turn).heard w = t.heard w := by
  have silent : (turn.log.flatMap (notices before.index before.watchers.watchers)).filterMap
      (Notice.heard? w) = [] := by
    rw [List.filterMap_eq_nil_iff]
    intro notice there
    obtain ⟨effect, _, given⟩ := List.mem_flatMap.1 there
    cases effect with
    | announce event shown =>
      obtain ⟨_, _, rfl⟩ := List.mem_map.1 given
      rfl
    | _ =>
      rw [List.mem_singleton.1 given]
      rfl
  simp only [heard, absorb, List.filterMap_append]
  rw [silent, List.append_nil]

/-- What a watcher hears from one moment of a turn to another, each event as often as it is told,
leads from the interfaces that were up to those that are. -/
def Leads (w : String) (t t' : Turn) : Prop :=
  ∃ events : List DeviceEvent,
    t'.heard w = t.heard w ++ events.flatMap (List.replicate (t.manager.watching w)) ∧
      DeviceEvent.Follows t.manager.powered events t'.manager.powered

namespace Leads

variable {t t' t'' : Turn}

theorem silent (heard : t'.heard w = t.heard w)
    (same : t'.manager.powered = t.manager.powered) : Leads w t t' := by
  refine ⟨[], by simp [heard], ?_⟩
  rw [same]
  exact .nil _

theorem told {event : DeviceEvent}
    (heard : t'.heard w = t.heard w ++ List.replicate (t.manager.watching w) event)
    (follows : DeviceEvent.Follows t.manager.powered [event] t'.manager.powered) :
    Leads w t t' :=
  ⟨[event], by simp [heard], follows⟩

theorem trans (h : Leads w t t') (h' : Leads w t' t'')
    (same : t'.manager.watchers = t.manager.watchers) : Leads w t t'' := by
  obtain ⟨events, heard, follows⟩ := h
  obtain ⟨more, heard', follows'⟩ := h'
  refine ⟨events ++ more, ?_, follows.append follows'⟩
  have watching : t'.manager.watching w = t.manager.watching w := by
    rw [Manager.watching, same, Manager.watching]
  rw [heard', heard, watching, List.flatMap_append, List.append_assoc]

end Leads

variable {t}

/-- A station that is removed is said to be if it is up. -/
theorem leads_remove (ascending : t.manager.Ascending) (index : Nat) :
    Leads w t (t.remove index).2 := by
  have left : (t.remove index).2.manager.powered = t.manager.powered.erase index := by
    ext i
    simp only [mem_powered, stations_remove, Finset.mem_erase, List.mem_filter, bne_iff_ne]
    constructor
    · rintro ⟨s, ⟨there, other⟩, up, rfl⟩
      exact ⟨other, s, there, up, rfl⟩
    · rintro ⟨other, s, there, up, rfl⟩
      exact ⟨s, ⟨there, other⟩, up, rfl⟩
  cases found : t.manager.station? index with
  | none =>
    have same : (t.remove index).2 = t := by simp [remove, found]
    rw [same]
    exact .silent rfl rfl
  | some s =>
    have here := ascending.mem_powered_iff found
    by_cases up : s.isPowered = true
    · have heard : (t.remove index).2.heard w =
          t.heard w ++ List.replicate (t.manager.watching w) (.removed index) := by
        rw [← heard_announce]
        simp only [remove, found, if_pos up]
        exact heard_absorb _ _ _
      refine .told heard ?_
      rw [left]
      exact .removed (here.2 up) (.nil _)
    · refine .silent ?_ ?_
      · simp only [remove, found, if_neg up]
        exact heard_absorb _ _ _
      · rw [left, Finset.erase_eq_of_notMem (mt here.1 up)]

theorem leads_removeAll (ascending : t.manager.Ascending) (indexes : List Nat) :
    Leads w t (indexes.foldl (fun t index => (t.remove index).2) t) := by
  induction indexes generalizing t with
  | nil => exact .silent rfl rfl
  | cons index rest ih =>
    have still := (Changed.removed index (stations_remove t index)).ascending ascending
    exact (leads_remove ascending index).trans (ih still) (watchers_remove t index)

/-- A notification that turns a station on or off is said to. -/
theorem leads_dispatch (ascending : t.manager.Ascending) (env : Surroundings) (index : Nat)
    (notification : Notification) : Leads w t (t.dispatch env index notification).2 := by
  cases found : t.manager.station? index with
  | none =>
    simp only [dispatch, found]
    exact .silent rfl rfl
  | some s =>
    have here := ascending.mem_powered_iff found
    let turn := Station.Turn.handle (env.at index) notification { station := s }
    have same : turn.station.index = index :=
      (s.index_step (env.at index) (.notify notification)).trans (index_of_station? found)
    have put : (t.absorb s turn).manager.powered =
        if turn.station.isPowered then insert index t.manager.powered
        else t.manager.powered.erase index := powered_put found same
    have told (event : DeviceEvent) : ((t.absorb s turn).announce event).heard w =
        t.heard w ++ List.replicate (t.manager.watching w) event := by
      rw [heard_announce, heard_absorb]
      rfl
    simp only [dispatch, found]
    split
    next before after =>
      refine .told (told _) ?_
      rw [manager_announce, put, if_pos after]
      exact .inserted (by simp [here, before]) (.nil _)
    next before after =>
      refine .told (told _) ?_
      rw [manager_announce, put, if_neg (by simp [turn, after])]
      exact .removed (here.2 before) (.nil _)
    next up down =>
      refine .silent (heard_absorb _ _ _) (put.trans ?_)
      -- The station is as it was: on both times, or off both times.
      split
      next after =>
        cases before : s.isPowered with
        | true => exact Finset.insert_eq_of_mem (here.2 before)
        | false => exact absurd after (up before)
      next after =>
        cases before : s.isPowered with
        | true => exact absurd (Bool.eq_false_of_not_eq_true after) (down before)
        | false => exact Finset.erase_eq_of_notMem (by simp [here, before])

end Turn

/-! ### Operations and runs -/

/-- Operations that leave the watchers of interfaces alone, and bring no notification past the
manager. -/
def Operation.isOrdinary : Operation → Bool
  | .watch _ | .unwatch _ => false
  | .ask _ op => !op.isNotification
  | .add _ | .remove _ | .dispatch _ _ | .shutdown => true

section step

variable (env : Surroundings)

/-- What a watcher hears in an operation leads from the interfaces that were up to those that are.
-/
theorem leads_step (ascending : m.Ascending) (grounded : ∀ s ∈ m.stations, s.Grounded)
    {op : Operation} (ordinary : op.isOrdinary = true) :
    Turn.Leads w { manager := m } (m.step env op).2 := by
  cases op with
  | add i =>
    rcases m.add_cases i with ⟨_, outcome⟩ | ⟨_, outcome⟩
    · simp only [step, outcome]
      exact .silent rfl (powered_insertStation rfl)
    · simp only [step, outcome]
      exact .silent rfl rfl
  | remove index => exact Turn.leads_remove (t := { manager := m }) ascending index
  | dispatch index notification =>
    exact Turn.leads_dispatch (t := { manager := m }) ascending env index notification
  | ask index op =>
    have quiet : op.isNotification = false := by simpa [Operation.isOrdinary] using ordinary
    cases found : m.station? index with
    | none =>
      simp only [step, withStation?_eq, found]
      exact .silent rfl rfl
    | some s =>
      simp only [step, withStation?_eq, found]
      have same : (s.step (env.at index) op).2.station.index = index :=
        (s.index_step ..).trans (index_of_station? found)
      have on := Station.isPowered_step (grounded s (mem_of_station? found)) (env.at index) quiet
      have here := ascending.mem_powered_iff found
      refine .silent (Turn.heard_absorb _ _ _) ((powered_put found same).trans ?_)
      rw [on]
      split
      next up => exact Finset.insert_eq_of_mem (here.2 up)
      next down => exact Finset.erase_eq_of_notMem (mt here.1 down)
  | shutdown =>
    exact Turn.leads_removeAll (t := { manager := m }) ascending (m.stations.map (·.index))
  | watch _ | unwatch _ => cases ordinary

theorem watchers_step {op : Operation} (ordinary : op.isOrdinary = true) (live : op ≠ .shutdown) :
    (m.step env op).2.manager.watchers = m.watchers := by
  let idle : Turn := { manager := m }
  cases op with
  | add i => rcases m.add_cases i with ⟨_, outcome⟩ | ⟨_, outcome⟩ <;> simp only [step, outcome]
  | remove index => exact Turn.watchers_remove idle index
  | dispatch index notification =>
    cases found : m.station? index with
    | none => simp only [step, Turn.dispatch, found]
    | some s =>
      have turned := Turn.manager_dispatch idle index env notification found
      exact (congrArg Manager.watchers turned).trans rfl
  | ask index op =>
    cases found : m.station? index with
    | none => simp only [step, withStation?_eq, found]; rfl
    | some s => simp only [step, withStation?_eq, found]; rfl
  | shutdown => exact absurd rfl live
  | watch _ | unwatch _ => cases ordinary

/-- What is refused by the manager itself changes nothing and says nothing. -/
theorem step_of_refused {op : Operation} {e : Error} (direct : ∀ index asked, op ≠ .ask index asked)
    (refused : (m.step env op).1 = .error e) : (m.step env op).2 = { manager := m } := by
  cases op with
  | add i =>
    rcases m.add_cases i with ⟨_, outcome⟩ | ⟨_, outcome⟩
    · simp [step, outcome] at refused
    · simp only [step, outcome]
  | remove index =>
    cases found : m.station? index with
    | none => simp only [step, Turn.remove, found]
    | some s => simp [step, Turn.remove, found] at refused
  | dispatch index notification =>
    cases found : m.station? index with
    | none => simp only [step, Turn.dispatch, found]
    | some s =>
      simp only [step, Turn.dispatch, found] at refused
      split at refused <;> cases refused
  | ask index asked => exact absurd rfl (direct index asked)
  | watch _ | unwatch _ | shutdown => simp [step] at refused

end step

/-- What a watcher of interfaces hears in a move. -/
def Move.heard (w : String) (v : Move) : List DeviceEvent :=
  v.turn.heard w

namespace Run

variable {start : Manager} {moves : List Move}

theorem grounded (run : Run start moves m) (init : ∀ s ∈ start.stations, s.Grounded) :
    ∀ s ∈ m.stations, s.Grounded :=
  run.forall_stations init (fun _ _ => rfl) fun _ env op h => Station.grounded_step h env op

theorem watching_eq (run : Run start moves m) (ordinary : ∀ v ∈ moves, v.op.isOrdinary = true)
    (live : ∀ v ∈ moves, v.op ≠ .shutdown) : m.watching w = start.watching w := by
  induction run with
  | start => rfl
  | @move moves m run env op ih =>
    have before := ih (fun v hv => ordinary v (by simp [hv])) fun v hv => live v (by simp [hv])
    have same : (m.step env op).2.manager.watchers = m.watchers :=
      watchers_step env (ordinary ⟨m, env, op⟩ (by simp)) (live ⟨m, env, op⟩ (by simp))
    rw [watching, same]
    exact before

section whole

variable (ordinary : ∀ v ∈ moves, v.op.isOrdinary = true)

include ordinary

/-- A watcher follows the interfaces that are up, up to the end of the first shutdown. -/
theorem follows (run : Run start moves m) (fresh : start.stations = [])
    (watched : start.watching w = 1) (live : ∀ v ∈ moves.dropLast, v.op ≠ .shutdown) :
    DeviceEvent.Follows ∅ (moves.flatMap (Move.heard w)) m.powered := by
  induction run with
  | start =>
    have down : start.powered = ∅ := by simp [powered, fresh]
    rw [down]
    exact .nil _
  | @move moves m run env op ih =>
    rw [List.dropLast_concat] at live
    have earlier : ∀ v ∈ moves, v.op.isOrdinary = true := fun v hv => ordinary v (by simp [hv])
    have before := ih earlier fun v hv => live v (List.mem_of_mem_dropLast hv)
    have ascending : m.Ascending := run.ascending (by simp [Ascending, fresh])
    obtain ⟨events, heard, on⟩ := leads_step (w := w) env ascending
      (run.grounded (by simp [fresh])) (ordinary ⟨m, env, op⟩ (by simp))
    have once : Move.heard w ⟨m, env, op⟩ = events := by
      rw [run.watching_eq earlier live, watched] at heard
      exact heard.trans (List.flatMap_singleton' events)
    rw [List.flatMap_append, List.flatMap_singleton, once]
    exact before.append on

/-- Whoever does not watch hears nothing. -/
theorem unheard (run : Run start moves m) (ascending : start.Ascending)
    (grounded : ∀ s ∈ start.stations, s.Grounded) (unwatched : start.watching w = 0) :
    m.watching w = 0 ∧ moves.flatMap (Move.heard w) = [] := by
  induction run with
  | start => exact ⟨unwatched, rfl⟩
  | @move moves m run env op ih =>
    obtain ⟨still, silent⟩ := ih fun v hv => ordinary v (by simp [hv])
    have now : op.isOrdinary = true := ordinary ⟨m, env, op⟩ (by simp)
    constructor
    · by_cases last : op = .shutdown
      · rw [last]
        rfl
      · rwa [watching, watchers_step env now last]
    · obtain ⟨events, heard, _⟩ :=
        leads_step (w := w) env (run.ascending ascending) (run.grounded grounded) now
      rw [still] at heard
      rw [List.flatMap_append, List.flatMap_singleton, silent, List.nil_append]
      exact heard.trans (List.flatMap_eq_nil_iff.2 fun _ _ => rfl)

end whole

/-- After a shutdown nothing is heard. -/
theorem unheard_of_ended {earlier later : List Move} (run : Run start (earlier ++ later) m)
    (fresh : start.stations = []) (ordinary : ∀ v ∈ earlier ++ later, v.op.isOrdinary = true)
    (ended : ∃ v ∈ earlier, v.op = .shutdown) : later.flatMap (Move.heard w) = [] := by
  obtain ⟨v, there, shutdown⟩ := ended
  obtain ⟨before, after, rfl⟩ := List.append_of_mem there
  have parts : before ++ v :: after ++ later = (before ++ [v]) ++ (after ++ later) := by simp
  rw [parts] at run ordinary
  obtain ⟨mid, first, rest⟩ := run.split
  obtain ⟨_, rfl⟩ := first.concat_inv
  have unwatched : v.turn.manager.watching w = 0 := by
    rw [Move.turn, shutdown]
    rfl
  have silent := (rest.unheard (fun v hv => ordinary v (List.mem_append_right _ hv))
    (first.ascending (by simp [Ascending, fresh])) (first.grounded (by simp [fresh]))
    unwatched).2
  rw [List.flatMap_append, List.append_eq_nil_iff] at silent
  exact silent.2

/-- What a watcher hears in a whole run changes what it holds each time. -/
theorem exists_follows (run : Run start moves m) (fresh : start.stations = [])
    (watched : start.watching w = 1) (ordinary : ∀ v ∈ moves, v.op.isOrdinary = true) :
    ∃ held, DeviceEvent.Follows ∅ (moves.flatMap (Move.heard w)) held := by
  induction run with
  | start => exact ⟨_, .nil _⟩
  | @move moves m run env op ih =>
    have whole := run.move env op
    by_cases live : ∀ v ∈ moves, v.op ≠ .shutdown
    · exact ⟨_, whole.follows ordinary fresh watched (by rwa [List.dropLast_concat])⟩
    · have ended : ∃ v ∈ moves, v.op = .shutdown := by simpa using live
      obtain ⟨held, before⟩ := ih fun v hv => ordinary v (by simp [hv])
      rw [List.flatMap_append, whole.unheard_of_ended fresh ordinary ended, List.append_nil]
      exact ⟨held, before⟩

end Run

/-- Let a manager have a watcher from the start, before any interface.  Whatever happens to the
manager, as long as notifications go by way of it: up to and including the first shutdown, a watcher
that puts in what is inserted and takes out what is removed holds the indexes of the interfaces that
are up, after every operation.  The shutdown ends the watch, and nothing is heard after it.  Each
index is inserted and removed by turns, beginning with an insertion, also where it is managed anew.
An operation that the manager refuses changes nothing and is not heard of. -/
theorem device_events_replay {start : Manager} {moves : List Move} (run : Run start moves m)
    (fresh : start.stations = []) (watched : start.watching w = 1)
    (ordinary : ∀ v ∈ moves, v.op.isOrdinary = true) :
    let heard := moves.flatMap (Move.heard w)
    let held := heard.foldl DeviceEvent.follow ∅
    ((∀ v ∈ moves.dropLast, v.op ≠ .shutdown) → held = m.powered) ∧
    (∀ earlier later, moves = earlier ++ later → (∃ v ∈ earlier, v.op = .shutdown) →
      later.flatMap (Move.heard w) = []) ∧
    (∀ index, Station.Alternate false (heard.filterMap (DeviceEvent.about? index))
      (decide (index ∈ held))) ∧
    ∀ env op e, (∀ index asked, op ≠ .ask index asked) → (m.step env op).1 = .error e →
      (m.step env op).2 = { manager := m } := by
  intro heard held
  refine ⟨fun live => ?_, ?_, fun index => ?_, fun env op e direct refused => ?_⟩
  · exact (run.follows ordinary fresh watched live).foldl_eq
  · rintro earlier later rfl ended
    exact run.unheard_of_ended fresh ordinary ended
  · obtain ⟨last, follows⟩ := run.exists_follows fresh watched ordinary
    have same : held = last := follows.foldl_eq
    rw [same]
    simpa using follows.alternate index
  · exact step_of_refused env direct refused

/-- A manager without interfaces that has one watcher. -/
def Sample.watched : Manager :=
  { config := {}, watchers := (({} : Watchlist String).add "w").2 }

/-- An interface comes up twice in a row, is removed while it is up, managed anew, reported down
while it is, asked to disconnect, and comes up again. -/
theorem device_events_replay_reused :
    let asked : List (Surroundings × Operation) :=
      [.add (Sample.interface 3), .dispatch 3 .up, .dispatch 3 .up, .remove 3,
        .add (Sample.interface 3), .dispatch 3 .down, .ask 3 (.disconnect none), .dispatch 3 .up,
        .add (Sample.interface 3)].map fun op => (Sample.surroundings, op)
    let moves := Sample.watched.play asked
    let m := Sample.watched.played asked
    let heard := moves.flatMap (Move.heard "w")
    Run Sample.watched moves m ∧ Sample.watched.stations = [] ∧ Sample.watched.watching "w" = 1 ∧
      (∀ v ∈ moves, v.op.isOrdinary = true) ∧
      heard = [.inserted 3, .removed 3, .inserted 3] ∧
      heard.foldl DeviceEvent.follow ∅ = m.powered ∧
      Station.Alternate false (heard.filterMap (DeviceEvent.about? 3)) true := by
  intro asked moves m heard
  have run : Run Sample.watched moves m := by simpa using Run.start.play asked
  have watched : Sample.watched.watching "w" = 1 := by decide +kernel
  have ordinary : ∀ v ∈ moves, v.op.isOrdinary = true := by decide +kernel
  have all : heard = [.inserted 3, .removed 3, .inserted 3] := by decide +kernel
  have live : ∀ v ∈ moves.dropLast, v.op ≠ .shutdown := by
    simp [moves, asked, play]
  obtain ⟨replay, _, turns, _⟩ := device_events_replay run rfl watched ordinary
  have held : (decide (3 ∈ heard.foldl DeviceEvent.follow ∅)) = true := by decide +kernel
  exact ⟨run, rfl, watched, ordinary, all, replay live, held ▸ turns 3⟩

/-- A manager that is used again after its shutdown has no watcher any more: an interface comes up,
and whoever watched before holds nothing. -/
theorem watch_ends_with_shutdown :
    ¬∀ (start m : Manager) (moves : List Move) (w : String), Run start moves m →
      start.stations = [] → start.watching w = 1 → (∀ v ∈ moves, v.op.isOrdinary = true) →
      (moves.flatMap (Move.heard w)).foldl DeviceEvent.follow ∅ = m.powered := by
  intro claimed
  let asked : List (Surroundings × Operation) :=
    [.add (Sample.interface 3), .shutdown, .add (Sample.interface 3), .dispatch 3 .up].map
      fun op => (Sample.surroundings, op)
  let moves := Sample.watched.play asked
  let m := Sample.watched.played asked
  have run : Run Sample.watched moves m := by simpa using Run.start.play asked
  have held := claimed _ _ _ "w" run rfl (by decide +kernel) (by decide +kernel)
  have nothing : (moves.flatMap (Move.heard "w")).foldl DeviceEvent.follow ∅ = ∅ := by
    decide +kernel
  have up : 3 ∈ m.powered := by decide +kernel
  rw [← held, nothing] at up
  cases up

end Manager

end WirelessStation
