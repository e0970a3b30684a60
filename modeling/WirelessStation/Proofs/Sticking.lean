import WirelessStation.Bus.Call
import WirelessStation.Proofs.Parts

/-! # A disconnect sticks

A client that ends the connection over the bus wants the station to stay off: autoconnect is
switched off with it.  A result of the attempt that was torn down may still arrive, also a success,
and the link may go down and come up again.  None of this brings the station back: it stays at rest
until somebody asks for a connection or switches autoconnect on (`disconnect_sticks`).

A turn at rest (`Turn.AtRest`) stays at rest through every part of an operation that does not want a
connection: the parts that lead to one come only where they are wanted, or after an attempt. -/

namespace WirelessStation.Station

/-- The states of a station that has a connection, makes one or looks for one. -/
def State.isActive : State → Bool
  | .autoconnect | .connecting | .connected => true
  | .off | .disconnected | .disconnecting => false

/-- Whether an operation asks for a connection or switches autoconnect on. -/
def Operation.wantsConnection : Operation → Bool
  | .setAutoconnect enabled => enabled
  | op => op.asksToConnect

/-- Effects of a station at rest: no connection is asked for, and no active state is entered. -/
def Effect.isRestful : Effect → Bool
  | .link (.connect ..) => false
  | .announce (.stateChanged _ new) _ => !new.isActive
  | _ => true

theorem Effect.isRestful_of_isAside {e : Effect} (aside : e.isAside = true) :
    e.isRestful = true := by
  cases e with
  | link call => cases call <;> simp_all [isAside, isRestful]
  | announce event shown => cases event <;> simp_all [isAside, isRestful]
  | store _ | answer _ _ | drop _ | cleanup _ => rfl

namespace Turn

/-- Nothing in the turn so far has led to a connection, and nothing in the station will. -/
structure AtRest (t : Turn) : Prop where
  flag : t.station.autoconnect = false
  state : t.station.state.isActive = false
  log : ∀ e ∈ t.log, e.isRestful = true

namespace AtRest

variable {op : Operation} {t t' : Turn}

theorem update (h : t.AtRest) {f : Station → Station}
    (same : (f t.station).modes = t.station.modes) : (t.update f).AtRest where
  flag := (congrArg Modes.autoconnect same).trans h.flag
  state := by
    have kept : (f t.station).state = t.station.state := congrArg Modes.state same
    rw [station_update, kept]
    exact h.state
  log := h.log

theorem record (h : t.AtRest) {e : Effect} (restful : e.isRestful = true) :
    (t.record e).AtRest where
  flag := h.flag
  state := h.state
  log := by
    intro e' logged
    rcases List.mem_append.1 logged with before | new
    · exact h.log e' before
    · rw [List.mem_singleton.1 new]
      exact restful

theorem setPeriodicScan (h : t.AtRest) (enabled : Bool) : (t.setPeriodicScan enabled).AtRest := by
  have thrown : (t.update fun s => { s with periodicScan := enabled }).AtRest :=
    ⟨h.flag, h.state, h.log⟩
  unfold Turn.setPeriodicScan
  split
  · exact h
  · exact thrown.record rfl

theorem scanFor (h : t.AtRest) (new : State) : (t.scanFor new).AtRest := by
  cases new with
  | off | disconnected | autoconnect | connected => exact h.setPeriodicScan _
  | connecting | disconnecting => exact h

theorem enter (h : t.AtRest) {new : State} (inactive : new.isActive = false) :
    (t.enter new).AtRest := by
  have entered : ((t.scanFor new).update fun s => { s with state := new }).AtRest :=
    ⟨(h.scanFor new).flag, inactive, (h.scanFor new).log⟩
  have told (shown : Properties) :
      (Effect.announce (.stateChanged t.station.state new) shown).isRestful = true := by
    simp [Effect.isRestful, inactive]
  unfold Turn.enter
  simp only
  split
  · exact (entered.record rfl).record (told _)
  · exact entered.record (told _)

/-- The idle state of a station at rest is not autoconnect. -/
theorem enterIdle (h : t.AtRest) : t.enterIdle.AtRest := by
  have entered : (t.enter .disconnected).AtRest := h.enter rfl
  unfold Turn.enterIdle
  simp only
  rw [if_neg (Bool.not_eq_true _ ▸ entered.flag)]
  exact entered

/-- An operation that does not want a connection leaves a station at rest in each of its parts. -/
theorem part (h : t.AtRest) (unwanted : op.wantsConnection = false) (p : Part op t t') :
    t'.AtRest := by
  have unasked : ¬ t.IsWanted op := by
    rintro (asks | auto)
    · cases op <;> simp_all [Operation.wantsConnection, Operation.asksToConnect]
    · have := h.state
      rw [auto] at this
      cases this
  cases p with
  | update same => exact h.update same
  | record aside => exact h.record (Effect.isRestful_of_isAside aside)
  | attempt _ _ wanted | connecting wanted => exact absurd wanted unasked
  | connected attempted =>
    have := h.state
    rw [attempted] at this
    cases this
  | disconnecting | down => exact h.enter rfl
  | idle => exact h.enterIdle
  | up =>
    rw [h.flag]
    exact h.enter rfl
  | @toggled enabled asked =>
    subst asked
    obtain rfl : enabled = false := unwanted
    rw [setAutoconnect, if_pos h.flag]
    exact h
  | stopped => exact h.setPeriodicScan false

end AtRest

/-- An operation that does not want a connection leaves a station at rest. -/
theorem atRest_perform {s : Station} (flag : s.autoconnect = false)
    (rest : s.state.isActive = false) (env : Surroundings) {op : Operation}
    (unwanted : op.wantsConnection = false) :
    (s.step env op).2.AtRest :=
  (unfolds_perform env op _).keeps ⟨flag, rest, by simp⟩ fun _ _ p h => h.part unwanted p

end Turn

/-- A move that neither asks the link layer for a connection nor enters an active state. -/
structure Move.Rests (m : Move) : Prop where
  uncalled : ∀ o context, .link (.connect o context) ∉ (m.before.step m.env m.op).2.log
  untold : ∀ old new shown, .announce (.stateChanged old new) shown ∈
    (m.before.step m.env m.op).2.log → new.isActive = false
  after : m.after.state.isActive = false

theorem Turn.AtRest.rests {m : Move} (h : (m.before.step m.env m.op).2.AtRest) : m.Rests where
  uncalled _ _ called := nomatch h.log _ called
  untold _ _ _ told := by simpa [Effect.isRestful] using h.log _ told
  after := h.state

variable {s s' : Station} {moves : List Move}

/-- A station at rest stays at rest while nobody wants a connection. -/
theorem Run.stays_at_rest (run : Run s moves s')
    (unwanted : ∀ m ∈ moves, m.op.wantsConnection = false) (flag : s.autoconnect = false)
    (rest : s.state.isActive = false) :
    (s'.autoconnect = false ∧ s'.state.isActive = false) ∧ ∀ m ∈ moves, m.Rests := by
  induction run with
  | start => exact ⟨⟨flag, rest⟩, by simp⟩
  | @move _ s' _ env op _ ih =>
    obtain ⟨⟨flag', rest'⟩, before⟩ := ih fun m earlier => unwanted m (by simp [earlier])
    have stays := Turn.atRest_perform flag' rest' env (unwanted ⟨s', env, op⟩ (by simp))
    refine ⟨⟨stays.flag, stays.state⟩, fun m made => ?_⟩
    rcases List.mem_append.1 made with earlier | last
    · exact before m earlier
    · obtain rfl := List.mem_singleton.1 last
      exact stays.rests

/-- A disconnect over the bus that is accepted leaves the station disconnecting, with autoconnect
switched off. -/
theorem station_disconnect_over_bus {env : Surroundings} {caller : Requester}
    (accepted : (Bus.Order.run env caller .disconnect { station := s }).1 = .ok ()) :
    (Bus.Order.run env caller .disconnect { station := s }).2.station.autoconnect = false ∧
      (Bus.Order.run env caller .disconnect { station := s }).2.station.state = .disconnecting := by
  have off : (Turn.setAutoconnect false { station := s }).station.autoconnect = false := by
    rw [Turn.station_setAutoconnect]
    split
    next h => exact h
    split
    · rfl
    split <;> rfl
  simp only [Bus.Order.run] at accepted ⊢
  generalize Turn.setAutoconnect false { station := s } = t at accepted off ⊢
  rcases t.disconnect_cases env (some caller) with refused | ⟨_, _, followed⟩
  · exact absurd accepted refused.result_ne_ok
  · rw [followed]
    simp [off]

/-- A disconnect that a client asked for over the bus sticks.  However the run goes on from there,
with whatever results and events of the link layer, as long as nobody asks for a connection or
switches autoconnect on: the link layer is not asked for a connection, and the station neither has
one nor makes one nor looks for one.  This holds for the shutdown as well. -/
theorem disconnect_sticks {env : Surroundings} {caller : Requester}
    (accepted : (Bus.Order.run env caller .disconnect { station := s }).1 = .ok ())
    (run : Run (Bus.Order.run env caller .disconnect { station := s }).2.station moves s')
    (unwanted : ∀ m ∈ moves, m.op.wantsConnection = false) :
    s'.state.isActive = false ∧ ∀ last, ∀ m ∈ moves ++ [⟨s', last, .shutdown⟩], m.Rests := by
  obtain ⟨flag, state⟩ := station_disconnect_over_bus accepted
  obtain ⟨⟨flag', rest⟩, rests⟩ := run.stays_at_rest unwanted flag (by rw [state]; rfl)
  refine ⟨rest, fun last m made => ?_⟩
  rcases List.mem_append.1 made with earlier | ended
  · exact rests m earlier
  · obtain rfl := List.mem_singleton.1 ended
    exact (Turn.atRest_perform flag' rest last rfl).rests

/-- The disconnect comes while a connection is made.  Then the attempt succeeds all the same, the
link goes down and comes up again, and the access point is heard once more. -/
theorem disconnect_sticks_after_success :
    let env := Sample.surroundings true
    let s := Sample.station.played Sample.connecting
    let left := (Bus.Order.run env (.call 1) .disconnect { station := s }).2.station
    let asked : List (Surroundings × Operation) :=
      [(env, .notify (.connectResult .success)), (env, .notify (.disconnectResult true)),
        (env, .notify .down), (env, .notify .up),
        (env, .notify (.scanResults [Sample.observation])), (env, .selectNext)]
    Run Sample.station (Sample.station.play Sample.connecting) s ∧
      (Bus.Order.run env (.call 1) .disconnect { station := s }).1 = .ok () ∧
      Run left (left.play asked) (left.played asked) ∧
      (left.played asked).state = .disconnected ∧ ∀ m ∈ left.play asked, m.Rests := by
  intro env s left asked
  have accepted : (Bus.Order.run env (.call 1) .disconnect { station := s }).1 = .ok () :=
    Sample.failure?_eq_none.1 (by decide +kernel)
  have run : Run left (left.play asked) (left.played asked) := by
    simpa using Run.start.play asked (by simp [asked])
  have unwanted : ∀ m ∈ left.play asked, m.op.wantsConnection = false := by
    simp [asked, play, Operation.wantsConnection, Operation.asksToConnect]
  have sticks := (disconnect_sticks accepted run unwanted).2 env
  have idle : (left.played asked).state = .disconnected := by decide +kernel
  exact ⟨Sample.run_connecting, accepted, run, idle, fun m made => sticks m (by simp [made])⟩

end WirelessStation.Station
