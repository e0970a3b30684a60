import Mathlib.Data.List.Basic
import WirelessStation.Proofs.Parts

/-! # The background scan

The link layer scans in the background while the station looks for a network by itself.  The switch
is thrown on entering some states only, and the autoconnect flag may change at any moment.  Two
invariants tie them together, and each is kept by every part of an operation:

* `Modes.Agree`: what the two idle states, and the states that must be quiet, say about the flag and
  the switch.  It holds at every moment before the shutdown.
* `Alternate`: the switches that the link layer is told of change something each time, and the last
  of them is how the station remembers the switch.  It holds in the shutdown as well.

The main result is `background_scan_agrees`. -/

namespace WirelessStation.Station

variable {before now later : Bool} {switches more : List Bool}

/-! ### Switches that alternate -/

/-- Switches thrown one after the other, from how the switch stood to how it stands: each changes
it. -/
structure Alternate (before : Bool) (switches : List Bool) (now : Bool) : Prop where
  chain : (before :: switches).IsChain (· ≠ ·)
  last : switches.getLastD before = now

namespace Alternate

theorem none_thrown : Alternate before [] before :=
  ⟨.singleton before, rfl⟩

theorem thrown (h : before ≠ now) : Alternate before [now] now :=
  ⟨.cons_cons h (.singleton now), rfl⟩

theorem append (h : Alternate before switches now) (h' : Alternate now more later) :
    Alternate before (switches ++ more) later := by
  induction switches generalizing before with
  | nil =>
    obtain rfl : before = now := h.last
    exact h'
  | cons first rest ih =>
    obtain ⟨change, chain⟩ := List.isChain_cons_cons.1 h.chain
    have last : rest.getLastD first = now := by simpa only [List.getLastD_cons] using h.last
    have onward : Alternate first (rest ++ more) later := ih ⟨chain, last⟩
    refine ⟨.cons_cons change onward.chain, ?_⟩
    rw [List.cons_append, List.getLastD_cons]
    exact onward.last

end Alternate

/-- Picks out the switches of the background scan. -/
def switched : Observer Bool where
  pick _ e :=
    match e with
    | .link (.periodicScan enabled) => some enabled
    | _ => none

theorem switched_of_isAside {e : Effect} (aside : e.isAside = true) (log : List Effect) :
    switched.pick log e = none := by
  cases e with
  | link call =>
    cases call with
    | periodicScan enabled => cases aside
    | _ => rfl
  | _ => rfl

namespace Turn

variable {op : Operation} {t t' : Turn}

/-- The switches thrown in a turn lead from how the switch stood at its beginning to how the station
remembers it. -/
def Alternates (before : Bool) (t : Turn) : Prop :=
  Alternate before (t.picked switched) t.station.periodicScan

namespace Alternates

theorem update (h : t.Alternates before) {f : Station → Station}
    (same : (f t.station).periodicScan = t.station.periodicScan) :
    (t.update f).Alternates before := by
  unfold Alternates
  rw [picked_update, station_update, same]
  exact h

/-- An effect that is not a switch. -/
theorem record (h : t.Alternates before) {e : Effect} (other : switched.pick t.log e = none) :
    (t.record e).Alternates before := by
  unfold Alternates
  rw [picked_record, other, Option.toList_none, List.append_nil]
  exact h

theorem announce (h : t.Alternates before) (event : Event) : (t.announce event).Alternates before :=
  h.record rfl

/-- A switch is thrown only to change something, and remembered. -/
theorem setPeriodicScan (h : t.Alternates before) (enabled : Bool) :
    (t.setPeriodicScan enabled).Alternates before := by
  unfold Turn.setPeriodicScan
  split
  next => exact h
  next change =>
    unfold Alternates
    rw [picked_record, picked_update, station_record, station_update]
    exact h.append (.thrown change)

theorem scanFor (h : t.Alternates before) (new : State) : (t.scanFor new).Alternates before := by
  cases new with
  | off | disconnected | autoconnect | connected => exact h.setPeriodicScan _
  | connecting | disconnecting => exact h

theorem enter (h : t.Alternates before) (new : State) : (t.enter new).Alternates before := by
  have entered : ((t.scanFor new).update fun s => { s with state := new }).Alternates before :=
    (h.scanFor new).update rfl
  unfold Turn.enter
  simp only
  split
  · exact (entered.announce _).announce _
  · exact entered.announce _

theorem enterIdle (h : t.Alternates before) : t.enterIdle.Alternates before := by
  unfold Turn.enterIdle
  simp only
  split
  · exact (h.enter .disconnected).enter .autoconnect
  · exact h.enter .disconnected

theorem setAutoconnect (h : t.Alternates before) (enabled : Bool) :
    (t.setAutoconnect enabled).Alternates before := by
  have changed : (t.update fun s => { s with autoconnect := enabled }).Alternates before :=
    h.update rfl
  unfold Turn.setAutoconnect
  split
  · exact h
  simp only
  split
  · exact changed.enter _
  split
  · exact (changed.update rfl).enter _
  · exact changed

/-- Every part of an operation keeps the account of the switches, those of a shutdown too. -/
theorem part (h : t.Alternates before) (p : Part op t t') : t'.Alternates before := by
  cases p with
  | update same => exact h.update (congrArg Modes.periodicScan same)
  | record aside => exact h.record (switched_of_isAside aside _)
  | attempt => exact h.record rfl
  | connecting | disconnecting | up | down => exact h.enter _
  | connected => exact (h.enter _).update rfl
  | idle => exact h.enterIdle
  | toggled => exact h.setAutoconnect _
  | stopped => exact h.setPeriodicScan _

end Alternates

theorem alternates_perform (env : Surroundings) (op : Operation) (s : Station) :
    (s.step env op).2.Alternates s.periodicScan :=
  (unfolds_perform env op _).keeps .none_thrown fun _ _ p h => h.part p

end Turn

/-! ### What the states say -/

/-- What the state says about the autoconnect flag and about the background scan. -/
structure Modes.Agree (m : Modes) : Prop where
  autoconnect : m.state = .autoconnect → m.autoconnect = true ∧ m.periodicScan = true
  disconnected : m.state = .disconnected → m.autoconnect = false ∧ m.periodicScan = false
  quiet : m.state = .off ∨ m.state = .connected → m.periodicScan = false

namespace Modes.Agree

theorem of_isConnecting {m : Modes} (h : m.state = .connecting ∨ m.state = .disconnecting) :
    m.Agree := by
  rcases h with h | h <;> constructor <;> simp [h]

theorem of_isQuiet {m : Modes} (h : m.state = .off ∨ m.state = .connected)
    (quiet : m.periodicScan = false) : m.Agree := by
  rcases h with h | h <;> constructor <;> simp [h, quiet]

/-- In the idle state that the flag wants, with the switch as that state wants it. -/
theorem idle (flag : Bool) : Modes.Agree ⟨.idle flag, flag, flag⟩ := by
  cases flag <;> constructor <;> simp [State.idle]

/-- A flag that is switched is followed by the idle state that it was in agreement with. -/
theorem setAutoconnect {t : Turn} (h : t.station.modes.Agree) (enabled : Bool) :
    (t.setAutoconnect enabled).station.modes.Agree := by
  rw [Turn.station_setAutoconnect]
  split
  next => exact h
  next change =>
    split
    next on =>
      obtain rfl : enabled = true := on.2
      exact idle true
    split
    next off =>
      obtain rfl : enabled = false := by simpa using off.2
      exact idle false
    next notOn notOff =>
      -- In an idle state the flag would have been at odds with it before.
      refine ⟨fun auto => ?_, fun disc => ?_, h.quiet⟩
      · have flag : t.station.autoconnect = true := (h.autoconnect auto).1
        have off : enabled = false := by simpa [flag] using change
        exact absurd ⟨auto, by simp [off]⟩ notOff
      · have flag : t.station.autoconnect = false := (h.disconnected disc).1
        have on : enabled = true := by simpa [flag] using change
        exact absurd ⟨disc, on⟩ notOn

/-- Every part of an operation but the end of a shutdown keeps the modes in agreement. -/
theorem part {op : Operation} {t t' : Turn} (live : op ≠ .shutdown)
    (h : t.station.modes.Agree) (p : Turn.Part op t t') : t'.station.modes.Agree := by
  cases p with
  | update same => rwa [Turn.station_update, same]
  | record | attempt => exact h
  | connecting => exact .of_isConnecting (.inl (by simp [modes]))
  | disconnecting => exact .of_isConnecting (.inr (by simp [modes]))
  | connected => exact .of_isQuiet (.inr (by simp [modes])) (by simp [modes, State.periodicScan])
  | down => exact .of_isQuiet (.inl (by simp [modes])) (by simp [modes, State.periodicScan])
  | idle =>
    rw [Turn.station_enterIdle]
    exact .idle t.station.autoconnect
  | up off =>
    rw [Turn.station_enter]
    cases flag : t.station.autoconnect
    · simpa [modes, flag, State.idle, State.periodicScan] using idle false
    · simpa [modes, flag, State.idle, State.periodicScan] using idle true
  | toggled => exact h.setAutoconnect _
  | stopped asked => exact absurd asked live

end Modes.Agree

variable {i : Interface} {config : Config} {moves : List Move} {s : Station}

theorem Run.modes_agree (run : Run (.new i config) moves s) : s.modes.Agree := by
  refine run.induct (P := (·.modes.Agree)) (.of_isQuiet (.inl rfl) rfl) fun s env op live h => ?_
  exact (Turn.unfolds_perform env op { station := s }).keeps (P := (·.station.modes.Agree)) h
    fun _ _ p h => h.part live p

theorem Run.switches_alternate (run : Run (.new i config) moves s) :
    Alternate false (moves.flatMap (Move.picked switched)) s.periodicScan := by
  induction run with
  | start => exact .none_thrown
  | move _ env op _ ih =>
    rw [List.flatMap_append, List.flatMap_singleton]
    exact ih.append (Turn.alternates_perform env op _)

/-- At every moment before the shutdown the state, the autoconnect flag and the background scan
agree.  In every run, also in one that a shutdown ends, the link layer is told to switch the
background scan on and off by turns, beginning with on, and the station remembers the last of these
switches. -/
theorem background_scan_agrees (run : Run (.new i config) moves s) :
    (s.state = .autoconnect → s.autoconnect = true ∧ s.periodicScan = true) ∧
    (s.state = .disconnected → s.autoconnect = false ∧ s.periodicScan = false) ∧
    (s.state = .off ∨ s.state = .connected → s.periodicScan = false) ∧
    Alternate false (moves.flatMap (Move.picked switched)) s.periodicScan ∧
    ∀ env,
      let last : Move := ⟨s, env, .shutdown⟩
      Alternate false ((moves ++ [last]).flatMap (Move.picked switched))
        last.after.periodicScan := by
  have agree := run.modes_agree
  refine ⟨agree.autoconnect, agree.disconnected, agree.quiet, run.switches_alternate, ?_⟩
  intro env last
  rw [List.flatMap_append, List.flatMap_singleton]
  exact run.switches_alternate.append (Turn.alternates_perform env .shutdown s)

/-- A connection comes up and is lost again, and then the station is shut down. -/
theorem background_scan_agrees_lost :
    let asked := Sample.connecting ++
      [(Sample.surroundings true, .notify (.connectResult .success)),
        (Sample.surroundings true, .notify (.event .lostBeacon))]
    let moves := Sample.station.play asked
    let s := Sample.station.played asked
    let last : Move := ⟨s, Sample.surroundings true, .shutdown⟩
    Run Sample.station moves s ∧ s.state = .autoconnect ∧ s.periodicScan = true ∧
      (moves ++ [last]).flatMap (Move.picked switched) = [true, false, true, false] ∧
      Alternate false [true, false, true, false] last.after.periodicScan := by
  intro asked moves s last
  have run : Run Sample.station moves s :=
    Sample.run asked (by simp [asked, Sample.connecting, Sample.hearing])
  have idle : s.state = .autoconnect := by decide +kernel
  have thrown : (moves ++ [last]).flatMap (Move.picked switched) = [true, false, true, false] := by
    decide +kernel
  obtain ⟨auto, _, _, _, ended⟩ := background_scan_agrees run
  exact ⟨run, idle, (auto idle).2, thrown, thrown ▸ ended (Sample.surroundings true)⟩

end WirelessStation.Station
