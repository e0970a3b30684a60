import Mathlib.Data.List.Infix
import WirelessStation.Proofs.Courses

/-! # Changes are told exactly

Clients are told when a property changes, and when the connection to a network comes or goes
(`Subject`).  A `Ledger` keeps account of such a subject: how often it has changed, how often that
was told, and what a watcher holds that reads again whenever it is told.  A change makes the account
uneven (`Ledger.change`) and its event evens it out (`Ledger.tellOwn`).

* `Stroke.count_event`: a stroke has one event about what it changes and none about the rest.
* `Course.ledger`: in a course, only a change of power is ever owed for longer.
* `signals_exact`: in every operation of a run the events about a subject are its changes, each told
  once it is in place, and the watcher has the current value afterwards.

Changes are counted over the moments of an operation, so that one which is taken back at once counts
twice. -/

namespace WirelessStation.Station

/-- What is read of a property. -/
inductive Reading where
  | text (t : String)
  | path (p : Option String)
  | flag (b : Bool)
deriving DecidableEq, Repr

/-- What clients are told the changes of: a property, or whether the network with a path is the
connected one. -/
inductive Subject where
  | property (p : Property)
  | connected (path : String)
deriving DecidableEq, Repr

namespace Subject

/-- The event that tells of a change. -/
def event : Subject → Event
  | property p => .propertyChanged p
  | connected path => .networkConnectedChanged path

/-- What a watcher reads that looks at the properties. -/
def read (shown : Properties) : Subject → Reading
  | property .name => .text shown.name
  | property .connectedNetwork => .path shown.connectedNetwork
  | property .powered => .flag shown.powered
  | property .scanning => .flag shown.scanning
  | property .state => .text shown.state
  | connected path => .flag (shown.connectedNetwork == some path)

variable (x : Subject)

/-- How often the reading changes, from what was read before. -/
def changes (held : Reading) : List Properties → Nat
  | [] => 0
  | next :: rest => (if x.read next = held then 0 else 1) + changes (x.read next) rest

/-- The last reading, or what was read before if there is none. -/
def last (held : Reading) (moments : List Properties) : Reading :=
  moments.foldl (fun _ next => x.read next) held

/-- What a watcher holds that reads again whenever it is told of a change. -/
def watch (held : Reading) (told : List Telling) : Reading :=
  told.foldl (fun held t => if t.event = x.event then x.read t.shown else held) held

theorem last_append (held : Reading) (l m : List Properties) :
    x.last held (l ++ m) = x.last (x.last held l) m :=
  List.foldl_append

theorem changes_append (held : Reading) (l m : List Properties) :
    x.changes held (l ++ m) = x.changes held l + x.changes (x.last held l) m := by
  induction l generalizing held with
  | nil => simp [changes, last]
  | cons p rest ih =>
    rw [List.cons_append, changes, ih, changes, Nat.add_assoc]
    rfl

theorem changes_concat (held : Reading) (l : List Properties) (next : Properties) :
    x.changes held (l ++ [next]) =
      x.changes held l + if x.read next = x.last held l then 0 else 1 :=
  x.changes_append held l [next]

theorem watch_concat (held : Reading) (told : List Telling) (t : Telling) :
    x.watch held (told ++ [t]) =
      if t.event = x.event then x.read t.shown else x.watch held told := by
  simp [watch]

end Subject

/-- Over some moments what is read changes at most once, from what it is before to what it is after.
-/
structure Subject.Direct (x : Subject) (before : Properties) (moments : List Properties)
    (after : Properties) : Prop where
  changes_eq : x.changes (x.read before) moments = if x.read after = x.read before then 0 else 1
  last_eq : x.last (x.read before) moments = x.read after

namespace Subject.Direct

variable {x : Subject} {before after : Properties}

theorem one (x : Subject) (before after : Properties) : x.Direct before [after] after :=
  ⟨rfl, rfl⟩

/-- By way of properties that agree with those before or with those after. -/
theorem through {between : Properties}
    (agree : x.read between = x.read before ∨ x.read between = x.read after) :
    x.Direct before [between, between, after] after := by
  refine ⟨?_, rfl⟩
  rcases agree with agree | agree <;> simp [Subject.changes, agree]

end Subject.Direct

/-- What has been told about a subject, and how it has changed, since some properties were in place
and up to now.  The flag says whether the last change is yet to be told. -/
structure Ledger (x : Subject) (before : Properties) (owed : Bool) (told : List Telling)
    (moments : List Properties) (now : Properties) : Prop where
  changes_eq : x.changes (x.read before) moments =
    (told.map (·.event)).count x.event + owed.toNat
  last_eq : x.last (x.read before) moments = x.read now
  shown_eq : x.changes (x.read before) (told.map (·.shown) ++ [now]) =
    (told.map (·.event)).count x.event + owed.toNat
  seen : owed = false → x.last (x.read before) (told.map (·.shown)) = x.read now
  held_iff : x.watch (x.read before) told = x.read now ↔ owed = false
  timely : ∀ earlier shown, earlier ++ [⟨x.event, shown⟩] <+: told →
    x.changes (x.read before) (earlier.map (·.shown) ++ [shown]) =
      (earlier.map (·.event)).count x.event + 1 ∧
    x.watch (x.read before) earlier ≠ x.read shown

namespace Ledger

variable {x : Subject} {before now next : Properties} {owed : Bool} {told : List Telling}
  {moments more : List Properties}

theorem start (x : Subject) (now : Properties) : Ledger x now false [] [] now where
  changes_eq := by simp [Subject.changes]
  last_eq := rfl
  shown_eq := by simp [Subject.changes]
  seen _ := rfl
  held_iff := by simp [Subject.watch]
  timely := by simp

/-- Other things change. -/
theorem same (h : Ledger x before owed told moments now) (direct : x.Direct now more next)
    (same : x.read next = x.read now) : Ledger x before owed told (moments ++ more) next where
  changes_eq := by
    rw [Subject.changes_append, h.last_eq, direct.changes_eq, if_pos same, h.changes_eq]
    rfl
  last_eq := by rw [Subject.last_append, h.last_eq, direct.last_eq]
  shown_eq := by
    have counted := h.shown_eq
    rw [Subject.changes_concat] at counted ⊢
    rwa [same]
  seen := by
    rw [same]
    exact h.seen
  held_iff := by
    rw [same]
    exact h.held_iff
  timely := h.timely

/-- A change is yet to be told. -/
theorem change (h : Ledger x before false told moments now) (direct : x.Direct now more next)
    (new : x.read next ≠ x.read now) : Ledger x before true told (moments ++ more) next where
  changes_eq := by
    rw [Subject.changes_append, h.last_eq, direct.changes_eq, if_neg new, h.changes_eq]
    rfl
  last_eq := by rw [Subject.last_append, h.last_eq, direct.last_eq]
  shown_eq := by
    have counted := h.shown_eq
    have seen := h.seen rfl
    rw [Subject.changes_concat, seen] at counted ⊢
    simpa [new] using counted
  seen := by simp
  held_iff := by
    have held := h.held_iff.2 rfl
    rw [held]
    simpa using new.symm
  timely := h.timely

/-- An event is told that is about something else. -/
theorem tellOther (h : Ledger x before owed told moments now) {e : Event} (other : e ≠ x.event) :
    Ledger x before owed (told ++ [⟨e, now⟩]) moments now where
  changes_eq := by
    rw [List.map_append, List.count_append, h.changes_eq]
    simp [other]
  last_eq := h.last_eq
  shown_eq := by
    rw [List.map_append, List.map_append, List.count_append, Subject.changes_concat]
    have counted := h.shown_eq
    simp [other, counted, Subject.last]
  seen _ := by simp [Subject.last]
  held_iff := by
    rw [Subject.watch_concat, if_neg other]
    exact h.held_iff
  timely := by
    intro earlier shown upTo
    rcases List.prefix_concat_iff.1 upTo with last | before
    · obtain ⟨_, same⟩ := List.append_inj' last rfl
      have event : x.event = e := congrArg Telling.event (List.head_eq_of_cons_eq same)
      exact absurd event.symm other
    · exact h.timely earlier shown before

/-- A change is told. -/
theorem tellOwn (h : Ledger x before true told moments now) :
    Ledger x before false (told ++ [⟨x.event, now⟩]) moments now where
  changes_eq := by
    rw [List.map_append, List.count_append, h.changes_eq]
    simp
  last_eq := h.last_eq
  shown_eq := by
    have counted := h.shown_eq
    rw [List.map_append, List.map_append, List.count_append, Subject.changes_concat]
    simp [counted, Subject.last]
  seen _ := by simp [Subject.last]
  held_iff := by
    rw [Subject.watch_concat]
    simp
  timely := by
    intro earlier shown upTo
    rcases List.prefix_concat_iff.1 upTo with last | before
    · obtain ⟨rfl, same⟩ := List.append_inj' last rfl
      have now_eq : shown = now := congrArg Telling.shown (List.head_eq_of_cons_eq same)
      subst now_eq
      have stale : x.watch (x.read before) earlier ≠ x.read shown := by simp [h.held_iff]
      exact ⟨h.shown_eq, stale⟩
    · exact h.timely earlier shown before

/-- Events are told, the one about the subject among them if it is due. -/
theorem tell {owed' : Bool} {events : List Event} (h : Ledger x before owed told moments now)
    (due : events.count x.event + owed'.toNat = owed.toNat) :
    Ledger x before owed' (told ++ events.map fun event => ⟨event, now⟩) moments now := by
  induction events generalizing told owed with
  | nil =>
    have same : owed' = owed := by cases owed <;> cases owed' <;> simp_all
    simpa [same] using h
  | cons e rest ih =>
    rw [List.map_cons, List.append_cons]
    by_cases own : e = x.event
    · subst own
      have one : owed = true := by cases owed <;> simp_all
      subst one
      rw [List.count_cons_self, Bool.toNat_true] at due
      have none : rest.count x.event + owed'.toNat = false.toNat := by
        rw [Bool.toNat_false]
        omega
      exact ih h.tellOwn none
    · exact ih (h.tellOther own) (by rwa [List.count_cons_of_ne own] at due)

/-- Something changes and is told, with everything else that there is to tell of it. -/
theorem turn {events : List Event} (h : Ledger x before false told moments now)
    (direct : x.Direct now more next)
    (count : events.count x.event = if x.read next = x.read now then 0 else 1) :
    Ledger x before false (told ++ events.map fun event => ⟨event, next⟩) (moments ++ more)
      next := by
  by_cases same : x.read next = x.read now
  · exact (h.same direct same).tell (by simp [count, same])
  · exact (h.change direct same).tell (by simp [count, same])

end Ledger

/-! ### Strokes are exact -/

namespace Subject

variable {x : Subject}

theorem event_eq_propertyChanged_iff {p : Property} :
    .propertyChanged p = x.event ↔ x = .property p := by
  cases x <;> simp [event, eq_comm]

theorem stateChanged_ne_event {old new : State} : .stateChanged old new ≠ x.event := by
  cases x <;> simp [event]

end Subject

/-- A transition is told exactly if clients see a difference. -/
theorem State.count_entering (old new : State) (x : Subject) :
    (old.entering new).count x.event =
      if x = .property .state ∧ old.externallyDistinct new = true then 1 else 0 := by
  unfold entering
  cases old.externallyDistinct new <;>
    simp [List.count_cons, Subject.event_eq_propertyChanged_iff, Subject.stateChanged_ne_event]

/-- Apart from power, a transition changes what it tells of. -/
theorem View.count_entering (v : View) (new : State) {x : Subject}
    (power : x = .property .powered → (v.state = .off ↔ new = .off)) :
    (v.state.entering new).count x.event =
      if x.read { v with state := new }.properties = x.read v.properties then 0 else 1 := by
  rw [State.count_entering]
  cases x with
  | connected path => simp [Subject.read, properties]
  | property p =>
    cases p with
    | name | connectedNetwork | scanning => simp [Subject.read, properties]
    | powered =>
      have same : (new != .off) = (v.state != .off) := by
        rw [Bool.eq_iff_iff, bne_iff_ne, bne_iff_ne, ne_eq, ne_eq, power rfl]
      simp [Subject.read, properties, same]
    | state =>
      have distinct := State.externallyDistinct_iff v.state new
      by_cases same : v.state.busText = new.busText
      · simp [Subject.read, properties, distinct, same]
      · simp [Subject.read, properties, distinct, same, Ne.symm same]

/-- Going over to a connection changes what its events tell of. -/
theorem View.count_connected {v : View} (free : v.connected = none) (network : String)
    (x : Subject) :
    [.propertyChanged .connectedNetwork, .networkConnectedChanged network].count x.event =
      if x.read { v with connected := some network }.properties = x.read v.properties then 0
      else 1 := by
  cases x with
  | connected path =>
    by_cases same : network = path <;> simp [Subject.read, properties, Subject.event, free, same]
  | property p => cases p <;> simp [Subject.read, properties, Subject.event, free]

theorem Stroke.count_event {v w : View} {moments : List Properties} {events : List Event}
    (s : Stroke v moments events w) (x : Subject) :
    events.count x.event = if x.read w.properties = x.read v.properties then 0 else 1 := by
  cases s with
  | renamed name new =>
    cases x with
    | connected path => simp [Subject.read, View.properties, Subject.event]
    | property p => cases p <;> simp [Subject.read, View.properties, Subject.event, new.symm]
  | scanning scanning new =>
    cases x with
    | connected path => simp [Subject.read, View.properties, Subject.event]
    | property p => cases p <;> simp [Subject.read, View.properties, Subject.event, new.symm]
  | registrarFound a => cases x <;> simp [Subject.event]
  | entered leads up on => exact v.count_entering _ fun _ => iff_of_false up on
  | @released network held there =>
    have count := View.count_connected (v := { v with connected := none }) rfl network x
    rw [count, ← held]
    exact if_congr eq_comm rfl rfl
  | @began network leads up free there =>
    have entered := v.count_entering .connecting (x := x) fun _ => by simp [up]
    have connected := View.count_connected (v := { v with state := .connecting }) free network x
    rw [List.count_append, entered, connected]
    cases x with
    | connected path => simp [Subject.read, View.properties]
    | property p => cases p <;> simp [Subject.read, View.properties]
  | @relisted added removed reason fresh gone kept _ =>
    have silent : x.event ∉ added.map .networkAdded ++
        removed.map fun path => .networkRemoved path reason := by
      cases x <;> simp [Subject.event]
    rw [List.count_eq_zero.2 silent]
    exact (if_pos rfl).symm

/-- A stroke changes nothing twice. -/
theorem Stroke.direct {v w : View} {moments : List Properties} {events : List Event}
    (s : Stroke v moments events w) (x : Subject) :
    x.Direct v.properties moments w.properties := by
  cases s with
  | renamed _ _ | scanning _ _ | registrarFound _ | entered _ _ _ | released _ _ =>
    exact .one x _ _
  | relisted _ _ _ _ _ => exact .one x _ _
  | began _ _ _ _ =>
    refine .through ?_
    cases x with
    | connected path => exact .inr rfl
    | property p =>
      cases p with
      | connectedNetwork => exact .inr rfl
      | name | powered | scanning | state => exact .inl rfl

/-- A stroke leaves the power alone. -/
theorem Stroke.powered_eq {v w : View} {moments : List Properties} {events : List Event}
    (s : Stroke v moments events w) :
    w.properties.powered = v.properties.powered := by
  cases s with
  | renamed _ _ | scanning _ _ | registrarFound _ | released _ _ | relisted _ _ _ _ _ => rfl
  | entered _ up on =>
    have before : (v.state != .off) = true := bne_iff_ne.2 up
    exact (bne_iff_ne.2 on).trans before.symm
  | began _ up _ _ =>
    have before : (v.state != .off) = true := bne_iff_ne.2 up
    exact before.symm

/-- A course keeps account of what it tells.  Only power may be owed. -/
theorem Course.ledger {v w : View} {due : Bool} {told : List Telling} {moments : List Properties}
    (c : Course v due told moments w) (x : Subject) :
    Ledger x v.properties (due && x = .property .powered) told moments w.properties := by
  induction c with
  | start => exact .start x v.properties
  | @aside due told moments u c ih => exact ih.same (.one x _ _) rfl
  | @stroke due told moments more u w events c s ih =>
    have direct := s.direct x
    have count := s.count_event x
    by_cases power : x = .property .powered
    · have same : x.read w.properties = x.read u.properties := by
        rw [power]
        exact congrArg Reading.flag s.powered_eq
      exact (ih.same direct same).tell (by simp [count, same])
    · have none : (due && decide (x = .property .powered)) = false := by simp [power]
      rw [none] at ih ⊢
      exact ih.turn direct count
  | @turned told moments u new c leads power ih =>
    rw [Bool.false_and] at ih
    have direct := Subject.Direct.one x u.properties (View.properties { u with state := new })
    by_cases powered : x = .property .powered
    · have other : x.read { u with state := new }.properties ≠ x.read u.properties := by
        subst powered
        intro same
        have flags : (new != .off) = (u.state != .off) := Reading.flag.inj same
        have both : u.state = .off ∧ new = .off := by rcases power with off | off <;> simp_all
        rw [both.1, both.2] at leads
        cases leads
      refine (ih.change direct other).tell ?_
      simp [powered, State.count_entering]
    · rw [Bool.true_and, decide_eq_false powered]
      exact ih.turn direct (u.count_entering new fun h => absurd h powered)
  | powered c ih =>
    refine ih.tell ?_
    cases x with
    | connected path => simp [Subject.event]
    | property p => cases p <;> simp [Subject.event]

/-- How what was told about a subject agrees with how it changed over the moments since some
properties were in place. -/
structure Exact (x : Subject) (before : Properties) (told : List Telling)
    (moments : List Properties) (after : Properties) : Prop where
  /-- There are as many events as changes. -/
  count_eq : (told.map (·.event)).count x.event = x.changes (x.read before) moments
  /-- Each change is seen by one who looks at every event. -/
  shown_eq : x.changes (x.read before) (told.map (·.shown)) = x.changes (x.read before) moments
  /-- An event tells of the last change that was seen, and that has not been told of before. -/
  timely : ∀ earlier shown, earlier ++ [⟨x.event, shown⟩] <+: told →
    x.changes (x.read before) (earlier.map (·.shown) ++ [shown]) =
      (earlier.map (·.event)).count x.event + 1
  /-- A watcher that reads again whenever it is told finds something new each time. -/
  news : ∀ earlier shown, earlier ++ [⟨x.event, shown⟩] <+: told →
    x.watch (x.read before) earlier ≠ x.read shown
  /-- It ends up with what is there. -/
  current : x.watch (x.read before) told = x.read after

/-- A reading that is not the one from before has been told of. -/
theorem Exact.event_mem {x : Subject} {before after : Properties} {told : List Telling}
    {moments : List Properties} (h : Exact x before told moments after)
    (other : x.read after ≠ x.read before) : x.event ∈ told.map (·.event) := by
  by_contra silent
  have held : x.watch (x.read before) told = x.read before := by
    refine List.foldlRecOn (motive := (· = x.read before)) told _ rfl fun held same t ht => ?_
    rw [if_neg fun here => silent (List.mem_map.2 ⟨t, ht, here⟩)]
    exact same
  exact other (h.current.symm.trans held)

theorem Course.exactly {v w : View} {told : List Telling} {moments : List Properties}
    (c : Course v false told moments w) (x : Subject) :
    Exact x v.properties told moments w.properties := by
  have ledger := c.ledger x
  rw [Bool.false_and] at ledger
  have seen : x.changes (x.read v.properties) (told.map (·.shown)) =
      (told.map (·.event)).count x.event := by
    have counted := ledger.shown_eq
    rwa [Subject.changes_concat, ledger.seen rfl, if_pos rfl] at counted
  exact
    { count_eq := ledger.changes_eq.symm
      shown_eq := seen.trans ledger.changes_eq.symm
      timely := fun earlier shown h => (ledger.timely earlier shown h).1
      news := fun earlier shown h => (ledger.timely earlier shown h).2
      current := ledger.held_iff.2 rfl }

/-- In every operation of every run, the events about a property, and those about the connection to
a network, are exactly its changes, each told once the new value is in place.  A watcher that reads
again whenever it is told of a change, from the start on, has the current value after every
operation. -/
theorem signals_exact {i : Interface} {config : Config} {moves : List Move} {s : Station}
    (run : Run (.new i config) moves s) (env : Surroundings) (op : Operation) (x : Subject) :
    let told := Move.told ⟨s, env, op⟩
    let after := (s.step env op).2.station
    Exact x s.properties told (Move.moments ⟨s, env, op⟩) after.properties ∧
      x.watch (x.read (Station.new i config).properties) (moves.flatMap Move.told ++ told) =
        x.read after.properties := by
  intro told after
  have move := run.course_move env op
  exact ⟨move.exactly x, ((run.course.trans move).exactly x).current⟩

/-- An interface that goes down while it is connecting: power is the last to be told. -/
theorem signals_exact_down :
    let s := Sample.station.played Sample.connecting
    let env := Sample.surroundings true
    let op := Operation.notify .down
    let told := Move.told ⟨s, env, op⟩
    Exact (.property .powered) s.properties told (Move.moments ⟨s, env, op⟩)
        (s.step env op).2.station.properties ∧
      told.map (·.event) =
        [.propertyChanged .state, .stateChanged .connecting .off,
          .propertyChanged .connectedNetwork, .networkConnectedChanged Sample.network,
          .networkRemoved Sample.network .shutdown, .propertyChanged .powered] ∧
      told.map (·.shown.powered) = [false, false, false, false, false, false] := by
  intro s env op told
  have told_exactly := signals_exact Sample.run_connecting env op (.property .powered)
  exact ⟨told_exactly.1, by decide +kernel, by decide +kernel⟩

end WirelessStation.Station
