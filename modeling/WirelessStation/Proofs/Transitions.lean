import WirelessStation.Proofs.Courses

/-! # The states follow their diagram

Which state may be followed by which is said by `State.leadsTo`.  The transitions that watchers are
told of in a run make one path along it, from the state in which every interface starts to the state
in which the station is (`transitions_follow_diagram`). -/

namespace WirelessStation.Station

/-- The transition that an event tells of. -/
def Event.transition? : Event → Option (State × State)
  | .stateChanged old new => some (old, new)
  | _ => none

/-- The transitions that events tell of, in order. -/
def transitions (events : List Event) : List (State × State) :=
  events.filterMap Event.transition?

theorem transitions_append (events more : List Event) :
    transitions (events ++ more) = transitions events ++ transitions more :=
  List.filterMap_append

/-- Transitions one after the other from a state to another one, each to a state that the one before
may be followed by. -/
inductive State.Path : State → List (State × State) → State → Prop
  | stay (s : State) : Path s [] s
  | go {s new s' : State} {rest : List (State × State)} (leads : s.leadsTo new = true)
      (on : Path new rest s') : Path s ((s, new) :: rest) s'

namespace State

theorem leadsTo_irrefl (s : State) : s.leadsTo s = false := by
  cases s <;> rfl

namespace Path

variable {s s' s'' : State} {l m : List (State × State)}

theorem append (h : Path s l s') (h' : Path s' m s'') : Path s (l ++ m) s'' := by
  induction h with
  | stay _ => exact h'
  | go leads _ ih => exact .go leads (ih h')

/-- No transition leads back to the state that it leaves. -/
theorem ne (h : Path s l s') : ∀ p ∈ l, p.1 ≠ p.2 := by
  induction h with
  | stay _ => simp
  | @go s new _ _ leads _ ih =>
    intro p hp
    rcases List.mem_cons.1 hp with rfl | later
    · rintro (rfl : s = new)
      simp [leadsTo_irrefl] at leads
    · exact ih p later

end Path

theorem transitions_entering (old new : State) :
    transitions (old.entering new) = [(old, new)] := by
  unfold entering
  split <;> rfl

end State

theorem Stroke.path {v w : View} {moments : List Properties} {events : List Event}
    (s : Stroke v moments events w) :
    State.Path v.state (transitions events) w.state := by
  cases s with
  | renamed _ _ | scanning _ _ | registrarFound _ | released _ _ => exact .stay _
  | entered leads _ _ =>
    rw [State.transitions_entering]
    exact .go leads (.stay _)
  | began leads _ _ _ =>
    rw [transitions_append, State.transitions_entering]
    exact .go leads (.stay _)
  | @relisted added removed reason _ _ _ _ =>
    have silent : transitions (added.map .networkAdded ++
        removed.map fun path => .networkRemoved path reason) = [] := by
      simp [transitions, Event.transition?, List.filterMap_map, Function.comp_def]
    rw [silent]
    exact .stay _

/-- The transitions that are told of in a course make a path. -/
theorem Course.path {v w : View} {due : Bool} {told : List Telling} {moments : List Properties}
    (c : Course v due told moments w) :
    State.Path v.state (transitions (told.map (·.event))) w.state := by
  induction c with
  | start => exact .stay _
  | aside _ ih => exact ih
  | stroke _ s ih =>
    rw [List.map_append, View.events_tell, transitions_append]
    exact ih.append s.path
  | turned _ leads _ ih =>
    rw [List.map_append, View.events_tell, transitions_append, State.transitions_entering]
    exact ih.append (.go leads (.stay _))
  | powered _ ih =>
    rw [List.map_append, View.events_tell, transitions_append]
    exact ih.append (.stay _)

/-- In every run, whatever comes next in it, the transitions that watchers are told of make one path
from off to the state in which the station is, and none of them leads from a state to itself. -/
theorem transitions_follow_diagram {i : Interface} {config : Config} {moves : List Move}
    {s : Station} (run : Run (.new i config) moves s) (env : Surroundings) (op : Operation) :
    let told := moves.flatMap Move.told ++ Move.told ⟨s, env, op⟩
    State.Path .off (transitions (told.map (·.event))) (s.step env op).2.station.state ∧
      ∀ p ∈ transitions (told.map (·.event)), p.1 ≠ p.2 := by
  intro told
  have path : State.Path .off (transitions (told.map (·.event))) (s.step env op).2.station.state :=
    (run.course.trans (run.course_move env op)).path
  exact ⟨path, path.ne⟩

/-- An attempt that succeeds, on a station that has come up by itself. -/
theorem transitions_follow_diagram_connected :
    let s := Sample.station.played Sample.connecting
    let env := Sample.surroundings true
    let op := Operation.notify (.connectResult .success)
    let told := (Sample.station.play Sample.connecting).flatMap Move.told ++
      Move.told ⟨s, env, op⟩
    State.Path .off (transitions (told.map (·.event))) (s.step env op).2.station.state ∧
      transitions (told.map (·.event)) =
        [(.off, .autoconnect), (.autoconnect, .connecting), (.connecting, .connected)] := by
  intro s env op told
  exact ⟨(transitions_follow_diagram Sample.run_connecting env op).1, by decide +kernel⟩

end WirelessStation.Station
