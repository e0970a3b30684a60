import WirelessStation.Station.Step

/-! # What the parts of a turn leave behind

Every operation of a station is put together from a few parts: answering a slot, entering a state,
letting go of the connection and so on.  Each part gets two kinds of equations here, and the
operations are then reasoned about by these alone.

* **The station.**  `station_enter`, `station_reply`, … give the station after the part as an update
  of the one before it, so that every field that the update does not name is seen to stay.
* **The log.**  An `Observer` picks something out of each effect, and may look at everything done
  before it.  What an observer picks out of a turn grows by what it picks out of each new effect
  (`picked_record`).  The parts that only tell watchers and switch the background scan add nothing
  for an observer that overlooks these two kinds of effects (`picked_enter`,
  `picked_dropCatalogue`, …). -/

namespace WirelessStation

namespace Pending

theorem set_none_of_get {p : Pending} {slot : Slot} (h : p.get slot = none) :
    p.set slot none = p := by
  cases p
  cases slot <;> simp_all [get, set]

end Pending

namespace Station

/-- Whether the background scan runs once a state is entered, from whether it ran before. -/
def State.periodicScan : State → Bool → Bool
  | .autoconnect, _ => true
  | .off, _ | .disconnected, _ | .connected, _ => false
  | .connecting, now | .disconnecting, now => now

/-- The idle state that an autoconnect flag wants. -/
def State.idle (autoconnect : Bool) : State :=
  if autoconnect then .autoconnect else .disconnected

/-! ### Observers -/

/-- Picks something out of an effect, given everything done before it. -/
structure Observer (α : Type) where
  pick : List Effect → Effect → Option α

variable {α : Type}

/-- What an observer picks out of a log, after `before`. -/
def Observer.picks (φ : Observer α) (before : List Effect) : List Effect → List α
  | [] => []
  | e :: rest => (φ.pick before e).toList ++ φ.picks (before ++ [e]) rest

theorem Observer.picks_append (φ : Observer α) (before l m : List Effect) :
    φ.picks before (l ++ m) = φ.picks before l ++ φ.picks (before ++ l) m := by
  induction l generalizing before with
  | nil => simp [picks]
  | cons e rest ih => simp [picks, ih]

/-- An observer that picks nothing out of announcements and switches of the background scan. -/
class Observer.Overlooks (φ : Observer α) : Prop where
  announce : ∀ before event shown, φ.pick before (.announce event shown) = none
  periodicScan : ∀ before enabled, φ.pick before (.link (.periodicScan enabled)) = none

attribute [simp] Observer.Overlooks.announce Observer.Overlooks.periodicScan

namespace Turn

/-- What an observer picks out of everything done in a turn so far. -/
def picked (φ : Observer α) (t : Turn) : List α :=
  φ.picks [] t.log

variable (t : Turn) (φ : Observer α)

/-! ### Single effects and updates -/

@[simp] theorem station_record (e : Effect) : (t.record e).station = t.station := rfl

@[simp] theorem log_record (e : Effect) : (t.record e).log = t.log ++ [e] := rfl

@[simp] theorem picked_record (e : Effect) :
    (t.record e).picked φ = t.picked φ ++ (φ.pick t.log e).toList := by
  simp [picked, Observer.picks_append, Observer.picks]

@[simp] theorem station_update (f : Station → Station) : (t.update f).station = f t.station := rfl

@[simp] theorem log_update (f : Station → Station) : (t.update f).log = t.log := rfl

@[simp] theorem picked_update (f : Station → Station) : (t.update f).picked φ = t.picked φ := rfl

@[simp] theorem station_announce (e : Event) : (t.announce e).station = t.station := rfl

@[simp] theorem picked_announce [φ.Overlooks] (e : Event) :
    (t.announce e).picked φ = t.picked φ := by
  simp [announce]

/-- Effects recorded one after the other, none of which the observer looks at. -/
theorem picked_foldl_record {β : Type} (f : β → Effect) (l : List β)
    (h : ∀ b ∈ l, ∀ before, φ.pick before (f b) = none) :
    (l.foldl (fun t b => t.record (f b)) t).picked φ = t.picked φ := by
  induction l generalizing t with
  | nil => rfl
  | cons b rest ih =>
    have hb : ∀ before, φ.pick before (f b) = none := h b (by simp)
    have hrest : ∀ c ∈ rest, ∀ before, φ.pick before (f c) = none := fun c hc => h c (by simp [hc])
    rw [List.foldl_cons, ih _ hrest]
    simp [hb]

theorem station_foldl_record {β : Type} (f : β → Effect) (l : List β) :
    (l.foldl (fun t b => t.record (f b)) t).station = t.station := by
  induction l generalizing t with
  | nil => rfl
  | cons b rest ih => rw [List.foldl_cons, ih, station_record]

theorem call_eq (env : Surroundings) (c : LinkCall) :
    t.call env c = (env.accepts t.log c, t.record (.link c)) := rfl

/-! ### Requesters -/

@[simp] theorem station_reply (slot : Slot) (result : Result) :
    (t.reply slot result).station =
      { t.station with pending := t.station.pending.set slot none } := by
  unfold reply
  split
  next h => rw [Pending.set_none_of_get h]
  next => rfl

theorem picked_reply (slot : Slot) (result : Result) :
    (t.reply slot result).picked φ =
      t.picked φ ++
        (t.station.pending.get slot).toList.flatMap
          fun r => (φ.pick t.log (.answer r result)).toList := by
  unfold reply
  split
  next h => simp [h]
  next r h => simp [h]

@[simp] theorem station_dropRequester (r : Option Requester) :
    (t.dropRequester r).station = t.station := by
  cases r <;> rfl

@[simp] theorem log_dropRequester (r : Option Requester) :
    (t.dropRequester r).log = t.log ++ (r.map Effect.drop).toList := by
  cases r <;> simp [dropRequester]

theorem picked_dropRequester (r : Option Requester) :
    (t.dropRequester r).picked φ =
      t.picked φ ++ r.toList.flatMap fun r => (φ.pick t.log (.drop r)).toList := by
  cases r <;> simp [dropRequester]

@[simp] theorem station_hold (slot : Slot) (r : Option Requester) :
    (t.hold slot r).station = { t.station with pending := t.station.pending.set slot r } := by
  simp [hold]

/-- A requester that goes into an empty slot does so without any effect. -/
theorem hold_of_empty {slot : Slot} (h : t.station.pending.get slot = none)
    (r : Option Requester) :
    t.hold slot r = t.update fun s => { s with pending := s.pending.set slot r } := by
  simp [hold, h, dropRequester]

@[simp] theorem station_endEnrollment (result : Result) :
    (t.endEnrollment result).station = { t.station with enrollment := none } := by
  unfold endEnrollment
  split
  next h => rw [← h]
  next => rfl

theorem picked_endEnrollment (result : Result) :
    (t.endEnrollment result).picked φ =
      t.picked φ ++
        t.station.enrollment.toList.flatMap
          fun session => (φ.pick t.log (.answer session.requester result)).toList := by
  unfold endEnrollment
  split
  next h => simp [h]
  next session h => simp [h]

@[simp] theorem station_abortRequests :
    t.abortRequests.station =
      { t.station with
        pending :=
          { t.station.pending with scan := none, connect := none, disconnect := none } } := by
  simp [abortRequests, Pending.set]

@[simp] theorem station_refuse (error : Error) (r : Option Requester) :
    (t.refuse error r).2.station = t.station := by
  simp [refuse]

/-! ### States and the connection -/

@[simp] theorem station_setPeriodicScan (enabled : Bool) :
    (t.setPeriodicScan enabled).station = { t.station with periodicScan := enabled } := by
  unfold setPeriodicScan
  split
  next h => rw [← h]
  next => rfl

@[simp] theorem picked_setPeriodicScan [φ.Overlooks] (enabled : Bool) :
    (t.setPeriodicScan enabled).picked φ = t.picked φ := by
  unfold setPeriodicScan
  split <;> simp

@[simp] theorem station_setScanning (scanning : Bool) :
    (t.setScanning scanning).station = { t.station with scanning } := by
  unfold setScanning
  split
  next h => rw [← h]
  next => rfl

@[simp] theorem picked_setScanning [φ.Overlooks] (scanning : Bool) :
    (t.setScanning scanning).picked φ = t.picked φ := by
  unfold setScanning
  split <;> simp

@[simp] theorem station_scanFor (new : State) :
    (t.scanFor new).station =
      { t.station with periodicScan := new.periodicScan t.station.periodicScan } := by
  cases new <;> simp [scanFor, State.periodicScan]

@[simp] theorem picked_scanFor [φ.Overlooks] (new : State) :
    (t.scanFor new).picked φ = t.picked φ := by
  cases new <;> simp [scanFor]

@[simp] theorem station_enter (new : State) :
    (t.enter new).station =
      { t.station with
        state := new, periodicScan := new.periodicScan t.station.periodicScan } := by
  unfold enter
  simp only [station_announce]
  split <;> simp

@[simp] theorem picked_enter [φ.Overlooks] (new : State) :
    (t.enter new).picked φ = t.picked φ := by
  unfold enter
  simp only [picked_announce]
  split <;> simp

@[simp] theorem station_enterIdle :
    t.enterIdle.station =
      { t.station with
        state := .idle t.station.autoconnect, periodicScan := t.station.autoconnect } := by
  unfold enterIdle State.idle
  simp only [station_enter]
  split
  next h => simp [h, State.periodicScan]
  next h => simp [h, State.periodicScan]

@[simp] theorem picked_enterIdle [φ.Overlooks] : t.enterIdle.picked φ = t.picked φ := by
  unfold enterIdle
  simp only
  split <;> simp

@[simp] theorem station_clearConnection :
    t.clearConnection.station = { t.station with connection := none } := by
  unfold clearConnection
  split
  next h => rw [← h]
  next => rfl

@[simp] theorem picked_clearConnection [φ.Overlooks] :
    t.clearConnection.picked φ = t.picked φ := by
  unfold clearConnection
  split <;> simp

@[simp] theorem station_disassociate :
    t.disassociate.station =
      { t.station with
        connection := none
        state := .idle t.station.autoconnect, periodicScan := t.station.autoconnect } := by
  simp [disassociate]

@[simp] theorem picked_disassociate [φ.Overlooks] : t.disassociate.picked φ = t.picked φ := by
  simp [disassociate]

/-! ### The catalogue -/

@[simp] theorem station_announceChanges (changes : List Catalogue.Change) :
    (t.announceChanges changes).station = t.station := by
  unfold announceChanges
  induction changes generalizing t with
  | nil => rfl
  | cons c rest ih => rw [List.foldl_cons, ih, station_announce]

@[simp] theorem picked_announceChanges [φ.Overlooks] (changes : List Catalogue.Change) :
    (t.announceChanges changes).picked φ = t.picked φ := by
  unfold announceChanges
  induction changes generalizing t with
  | nil => rfl
  | cons c rest ih => rw [List.foldl_cons, ih, picked_announce]

@[simp] theorem station_dropCatalogue :
    t.dropCatalogue.station =
      { t.station with
        connection := none, candidates := []
        catalogue := (t.station.catalogue.clear .shutdown).1 } := by
  simp [dropCatalogue]

@[simp] theorem picked_dropCatalogue [φ.Overlooks] : t.dropCatalogue.picked φ = t.picked φ := by
  simp [dropCatalogue]

/-- What a scan is taken in with: the access point in use is pinned. -/
def pin (s : Station) : Option Catalogue.Pin :=
  s.connection.map fun c => ⟨c.network, c.address⟩

/-- The first half of handling a scan: its results go to the catalogue, and what was under way
because of an earlier scan is over. -/
def takeScan (env : Surroundings) (observations : List Observation) (t : Turn) : Turn :=
  let t := (t.setScanning false).update fun s =>
    { s with enrollment := s.enrollment.map fun session => { session with scanning := false } }
  (t.takeIn env observations).update fun s => { s with candidates := [] }

theorem handleScanResults_eq (env : Surroundings) (observations : List Observation) :
    t.handleScanResults env observations =
      if t.station.state = .off then t
      else if (t.takeScan env observations).station.isEnrolling then
        (t.takeScan env observations).handleRegistrars env
          (observations.filter fun o => o.registrar.isSome)
      else if (t.takeScan env observations).station.state = .autoconnect then
        ((t.takeScan env observations).update fun s =>
          { s with candidates := Candidate.ofCatalogue env.store s.catalogue }).selectNext env
      else t.takeScan env observations := rfl

@[simp] theorem station_takeScan (env : Surroundings) (observations : List Observation) :
    (t.takeScan env observations).station =
      { t.station with
        scanning := false
        enrollment := t.station.enrollment.map fun session => { session with scanning := false }
        catalogue :=
          (t.station.catalogue.ingest observations (pin t.station) env.store env.now).catalogue
        candidates := [] } := by
  simp [takeScan, takeIn, pin]

/-- The ways in which looking for a registrar may end: no enrollment looks for one, or one is found,
or more than one invites, or none does and another scan is accepted or refused. -/
inductive Sought (env : Surroundings) (registrars : List Observation) (t t' : Turn) : Prop
  | settled (done : ∀ session, t.station.enrollment = some session → session.target ≠ none)
      (same : t' = t)
  | found {session : Enrollment.Session} {a : Address}
      (enrolling : t.station.enrollment = some session) (searching : session.target = none)
      (selected : Enrollment.select registrars = .target a)
      (outcome : t' = (t.update fun s =>
        { s with enrollment := some { session with target := some a } }).announce
          (.registrarFound a))
  | overlap {session : Enrollment.Session} (enrolling : t.station.enrollment = some session)
      (searching : session.target = none) (selected : Enrollment.select registrars = .overlap)
      (outcome : t' = t.endEnrollment (.error .sessionOverlap))
  | again {session : Enrollment.Session} (enrolling : t.station.enrollment = some session)
      (searching : session.target = none) (selected : Enrollment.select registrars = .nobody)
      (accepted : env.accepts t.log (.scan (.enrolling session.probe)) = true)
      (outcome : t' = (t.record (.link (.scan (.enrolling session.probe)))).update fun s =>
        { s with enrollment := some { session with scanning := true } })
  | refused {session : Enrollment.Session} (enrolling : t.station.enrollment = some session)
      (searching : session.target = none) (selected : Enrollment.select registrars = .nobody)
      (rejected : env.accepts t.log (.scan (.enrolling session.probe)) = false)
      (outcome : t' =
        (t.record (.link (.scan (.enrolling session.probe)))).endEnrollment (.error .rejected))

theorem sought_handleRegistrars (env : Surroundings) (registrars : List Observation) :
    Sought env registrars t (t.handleRegistrars env registrars) := by
  unfold handleRegistrars
  split
  next none => exact .settled (by simp [none]) rfl
  next session enrolling =>
    split
    next found =>
      refine .settled ?_ rfl
      rintro _ again
      obtain rfl := Option.some.inj (enrolling.symm.trans again)
      exact Option.isSome_iff_ne_none.1 found
    next searching =>
      have searching : session.target = none := Option.not_isSome_iff_eq_none.1 searching
      split
      next a selected => exact .found enrolling searching selected rfl
      next selected => exact .overlap enrolling searching selected rfl
      next selected =>
        rw [call_eq]
        cases accepted : env.accepts t.log (.scan (.enrolling session.probe)) with
        | true => exact .again enrolling searching selected accepted rfl
        | false => exact .refused enrolling searching selected accepted rfl

/-- Looking for a registrar concerns the enrollment alone. -/
theorem station_handleRegistrars (env : Surroundings) (registrars : List Observation) :
    (t.handleRegistrars env registrars).station =
      { t.station with enrollment := (t.handleRegistrars env registrars).station.enrollment } := by
  cases t.sought_handleRegistrars env registrars with
  | settled _ same => rw [same]
  | found _ _ _ outcome | again _ _ _ _ outcome => rw [outcome]; rfl
  | overlap _ _ _ outcome | refused _ _ _ _ outcome => rw [outcome]; simp

@[simp] theorem picked_takeScan [φ.Overlooks] (env : Surroundings) (l : List Observation) :
    (t.takeScan env l).picked φ = t.picked φ := by
  simp [takeScan, takeIn]

end Turn

end Station

end WirelessStation
