import WirelessStation.Proofs.Orderly
import WirelessStation.Proofs.Refusal
import WirelessStation.Proofs.Strokes

/-! # What the parts of a turn tell

As there are equations for what the parts of a turn do to the station and to the log, there are some
for what they tell watchers (`told_enter`, `told_announceChanges`, …), for the properties at the
moments of the turn (`moments_enter`, …) and for what there is to see afterwards (`view_enter`,
`view_clearConnection`, …). -/

namespace WirelessStation.Station

/-- Picks out what watchers are told. -/
def tellings : Observer Telling where
  pick _ e :=
    match e with
    | .announce event shown => some ⟨event, shown⟩
    | _ => none

namespace Turn

/-- What watchers have been told in a turn. -/
def told (t : Turn) : List Telling :=
  t.picked tellings

variable (t : Turn)

/-! ### What is told -/

@[simp] theorem told_update (f : Station → Station) : (t.update f).told = t.told := rfl

@[simp] theorem told_announce (e : Event) :
    (t.announce e).told = t.told ++ t.station.view.tell [e] := by
  simp [told, announce, tellings, View.tell, properties_view]

/-- Every other effect is nothing to watchers. -/
theorem told_record {e : Effect} (silent : ∀ event shown, e ≠ .announce event shown) :
    (t.record e).told = t.told := by
  have nothing : tellings.pick t.log e = none := by
    cases e with
    | announce event shown => exact absurd rfl (silent event shown)
    | link _ | store _ | answer _ _ | drop _ | cleanup _ => rfl
  simp [told, nothing]

theorem told_dropRequester (r : Option Requester) : (t.dropRequester r).told = t.told := by
  cases r with
  | none => rfl
  | some r => exact t.told_record (by simp)

theorem told_hold (slot : Slot) (r : Option Requester) : (t.hold slot r).told = t.told := by
  rw [hold, told_update, told_dropRequester]

theorem told_enter (new : State) :
    (t.enter new).told =
      (t.scanFor new).told ++
        View.tell { t.station.view with state := new } (t.station.state.entering new) := by
  unfold enter State.entering
  cases distinct : t.station.state.externallyDistinct new <;>
    simp [distinct, View.tell, view, connectedNetwork]

theorem told_begin (network : String) (a : Address) (r : Option Requester) :
    (t.begin network a r).told =
      t.told ++ View.tell { t.station.view with state := .connecting, connected := some network }
        (t.station.state.entering .connecting ++
          [.propertyChanged .connectedNetwork, .networkConnectedChanged network]) := by
  simp only [begin, told_announce, told_enter, scanFor, told_hold, told_update, station_announce,
    station_enter, station_hold, station_update, List.append_assoc, View.tell, List.map_append]
  rfl

theorem told_announceChanges (changes : List Catalogue.Change) :
    (t.announceChanges changes).told = t.told ++ t.station.view.tell (changes.map .ofChange) := by
  unfold announceChanges
  induction changes generalizing t with
  | nil => simp [View.tell]
  | cons c rest ih =>
    rw [List.foldl_cons, ih, told_announce, List.append_assoc]
    rfl

/-! ### The moments of a turn -/

@[simp] theorem moments_update (f : Station → Station) :
    (t.update f).moments = t.moments ++ [(f t.station).properties] := rfl

@[simp] theorem moments_record (e : Effect) : (t.record e).moments = t.moments := rfl

@[simp] theorem moments_announce (e : Event) : (t.announce e).moments = t.moments := rfl

@[simp] theorem moments_dropRequester (r : Option Requester) :
    (t.dropRequester r).moments = t.moments := by
  cases r <;> rfl

theorem moments_hold (slot : Slot) (r : Option Requester) :
    (t.hold slot r).moments = t.moments ++ [t.station.properties] := by
  rw [hold, moments_update, moments_dropRequester, station_dropRequester]
  rfl

theorem moments_enter (new : State) :
    (t.enter new).moments =
      (t.scanFor new).moments ++ [View.properties { t.station.view with state := new }] := by
  unfold enter
  cases distinct : t.station.state.externallyDistinct new <;>
    simp [distinct, ← properties_view, view, connectedNetwork]

theorem moments_begin (network : String) (a : Address) (r : Option Requester) :
    (t.begin network a r).moments =
      t.moments ++
        [View.properties { t.station.view with connected := some network },
          View.properties { t.station.view with connected := some network },
          View.properties
            { t.station.view with state := .connecting, connected := some network }] := by
  simp only [begin, moments_announce, moments_enter, scanFor, moments_hold, moments_update,
    station_hold, station_update, List.append_assoc]
  rfl

@[simp] theorem moments_announceChanges (changes : List Catalogue.Change) :
    (t.announceChanges changes).moments = t.moments := by
  unfold announceChanges
  induction changes generalizing t with
  | nil => rfl
  | cons c rest ih => rw [List.foldl_cons, ih, moments_announce]

/-! ### What there is to see -/

theorem view_reply (slot : Slot) (result : Result) :
    (t.reply slot result).station.view = t.station.view := by
  rw [station_reply]
  rfl

theorem view_endEnrollment (result : Result) :
    (t.endEnrollment result).station.view = t.station.view := by
  rw [station_endEnrollment]
  rfl

theorem view_abortRequests : t.abortRequests.station.view = t.station.view := by
  rw [station_abortRequests]
  rfl

theorem view_scanFor (new : State) : (t.scanFor new).station.view = t.station.view := by
  rw [station_scanFor]
  rfl

theorem view_enter (new : State) :
    (t.enter new).station.view = { t.station.view with state := new } := by
  rw [station_enter]
  rfl

theorem view_begin (network : String) (a : Address) (r : Option Requester) :
    (t.begin network a r).station.view =
      { t.station.view with state := .connecting, connected := some network } := by
  rw [station_begin]
  rfl

theorem view_clearConnection :
    t.clearConnection.station.view = { t.station.view with connected := none } := by
  rw [station_clearConnection]
  rfl

/-- What is known about the secret of a network is nothing to see. -/
theorem view_modify (path : String) (change : Network → Network)
    (keeps : ∀ n, n.path = path → (change n).path = path) :
    (t.update fun s => { s with catalogue := s.catalogue.modify path change }).station.view =
      t.station.view := by
  rw [station_update, view, Catalogue.paths_modify keeps]
  rfl

end Turn

/-- What watchers are told in an operation. -/
def Move.told (m : Move) : List Telling :=
  m.picked tellings

/-- The properties after each change that an operation makes. -/
def Move.moments (m : Move) : List Properties :=
  (m.before.step m.env m.op).2.moments

end WirelessStation.Station
