import WirelessStation.Proofs.Courses

/-! # Network events replay to the catalogue

A watcher that keeps a list of the networks, from the events that tell of networks that come and go,
has the networks of the catalogue after every operation, in their order.  It is never told of the
coming of a network that it has, of the going of one that it has not, or of a connection to one that
it has not (`network_events_replay`). -/

namespace WirelessStation.Station

namespace Event

/-- The paths that a watcher keeps once it has heard an event. -/
def follow (paths : List String) : Event → List String
  | .networkAdded path => paths ++ [path]
  | .networkRemoved path _ => paths.erase path
  | _ => paths

/-- Whether an event makes sense to a watcher that keeps these paths. -/
def Fits (paths : List String) : Event → Prop
  | .networkAdded path => path ∉ paths
  | .networkRemoved path _ => path ∈ paths
  | .networkConnectedChanged path => path ∈ paths
  | _ => True

end Event

/-- Events that each make sense to a watcher lead it from some paths to others. -/
inductive Replay : List String → List Event → List String → Prop
  | nil (paths : List String) : Replay paths [] paths
  | cons {paths paths' : List String} {e : Event} {rest : List Event} (fits : e.Fits paths)
      (on : Replay (e.follow paths) rest paths') : Replay paths (e :: rest) paths'

namespace Replay

variable {p p' p'' : List String} {l m : List Event}

theorem append (h : Replay p l p') (h' : Replay p' m p'') : Replay p (l ++ m) p'' := by
  induction h with
  | nil _ => exact h'
  | cons fits _ ih => exact .cons fits (ih h')

theorem foldl_eq (h : Replay p l p') : l.foldl Event.follow p = p' := by
  induction h with
  | nil _ => rfl
  | cons _ _ ih => exact ih

/-- Every event makes sense where it is heard. -/
theorem fits {e : Event} (h : Replay p (l ++ e :: m) p') : e.Fits (l.foldl Event.follow p) := by
  induction l generalizing p with
  | nil =>
    cases h with
    | cons fits _ => exact fits
  | cons _ rest ih =>
    cases h with
    | cons _ on => exact ih on

/-- Events that are about no network. -/
theorem of_aside (h : ∀ e ∈ l, ∀ paths : List String, e.Fits paths ∧ e.follow paths = paths) :
    Replay p l p := by
  induction l with
  | nil => exact .nil p
  | cons e rest ih =>
    obtain ⟨fits, same⟩ := h e (by simp) p
    refine .cons fits ?_
    rw [same]
    exact ih fun e he => h e (by simp [he])

theorem entering (old new : State) : Replay p (old.entering new) p := by
  refine of_aside fun e he paths => ?_
  unfold State.entering at he
  split at he <;> simp at he
  · rcases he with rfl | rfl <;> exact ⟨trivial, rfl⟩
  · subst he
    exact ⟨trivial, rfl⟩

/-- The connection to a network that is kept may come and go. -/
theorem connected {network : String} (there : network ∈ p) :
    Replay p [.propertyChanged .connectedNetwork, .networkConnectedChanged network] p :=
  .cons trivial (.cons there (.nil p))

theorem added {added : List String} (fresh : (p ++ added).Nodup) :
    Replay p (added.map .networkAdded) (p ++ added) := by
  induction added generalizing p with
  | nil =>
    rw [List.append_nil]
    exact .nil p
  | cons path rest ih =>
    rw [List.append_cons] at fresh ⊢
    have first : (p ++ [path]).Nodup := (List.nodup_append.1 fresh).1
    have new : path ∉ p := fun old =>
      (List.nodup_append'.1 first).2.2 old (List.mem_singleton_self path)
    exact .cons new (ih fresh)

theorem removed {removed : List String} (reason : RemovalReason) (distinct : p.Nodup)
    (gone : removed.Nodup) (there : ∀ path ∈ removed, path ∈ p) :
    Replay p (removed.map fun path => .networkRemoved path reason)
      (p.filter fun path => path ∉ removed) := by
  induction removed generalizing p with
  | nil => simpa using Replay.nil p
  | cons path rest ih =>
    obtain ⟨once, others⟩ := List.nodup_cons.1 gone
    have left : ∀ other ∈ rest, other ∈ p.erase path := by
      intro other hother
      have apart : other ≠ path := fun same => once (same ▸ hother)
      exact (List.mem_erase_of_ne apart).2 (there other (List.mem_cons_of_mem _ hother))
    have all : (p.erase path).filter (fun other => other ∉ rest) =
        p.filter fun other => other ∉ path :: rest := by
      rw [distinct.erase_eq_filter, List.filter_filter]
      refine List.filter_congr fun other _ => ?_
      by_cases same : other = path <;> simp [same]
    refine .cons (there path (List.mem_cons_self ..)) ?_
    rw [← all]
    exact ih (distinct.erase path) others left

end Replay

theorem Stroke.replay {v w : View} {moments : List Properties} {events : List Event}
    (s : Stroke v moments events w) : Replay v.paths events w.paths := by
  cases s with
  | renamed _ _ | scanning _ _ | registrarFound _ => exact .cons trivial (.nil _)
  | entered _ _ _ => exact .entering _ _
  | released _ there => exact .connected there
  | began _ _ _ there => exact (Replay.entering _ _).append (.connected there)
  | @relisted added removed reason fresh gone _ _ =>
    have distinct := (List.nodup_append.1 fresh).1
    refine (Replay.added fresh).append (.removed reason fresh (gone.nodup distinct) ?_)
    exact fun path hp => List.mem_append_left _ (gone.subset hp)

theorem Course.replay {v w : View} {due : Bool} {told : List Telling} {moments : List Properties}
    (c : Course v due told moments w) : Replay v.paths (told.map (·.event)) w.paths := by
  induction c with
  | start => exact .nil _
  | aside _ ih => exact ih
  | stroke _ s ih =>
    rw [List.map_append, View.events_tell]
    exact ih.append s.replay
  | turned _ _ _ ih =>
    rw [List.map_append, View.events_tell]
    exact ih.append (.entering _ _)
  | powered _ ih =>
    rw [List.map_append, View.events_tell]
    exact ih.append (.cons trivial (.nil _))

/-- A network that goes is not the one in use. -/
theorem Stroke.removed_ne {v w : View} {moments : List Properties} {events : List Event}
    (s : Stroke v moments events w) {path : String} {reason : RemovalReason}
    (h : .networkRemoved path reason ∈ events) : w.connected ≠ some path := by
  cases s with
  | renamed _ _ | scanning _ _ | registrarFound _ | released _ _ => simp at h
  | entered _ _ _ => simp [State.entering] at h
  | began _ _ _ _ => simp [State.entering] at h
  | @relisted added removed other _ _ kept _ =>
    have gone : path ∈ removed ∧ other = reason := by simpa using h
    exact fun held => kept path held gone.1

theorem Course.removed_ne {v w : View} {due : Bool} {told : List Telling}
    {moments : List Properties} (c : Course v due told moments w) {path : String}
    {reason : RemovalReason} {shown : Properties}
    (h : ⟨.networkRemoved path reason, shown⟩ ∈ told) : shown.connectedNetwork ≠ some path := by
  induction c with
  | start => simp at h
  | aside _ ih => exact ih h
  | stroke _ s ih =>
    rcases List.mem_append.1 h with before | now
    · exact ih before
    · obtain ⟨e, he, same⟩ := List.mem_map.1 now
      obtain ⟨rfl, rfl⟩ := Telling.mk.inj same
      exact s.removed_ne he
  | turned _ _ _ ih =>
    refine (List.mem_append.1 h).elim ih fun now => ?_
    simp [View.tell, State.entering] at now
  | powered _ ih =>
    refine (List.mem_append.1 h).elim ih fun now => ?_
    simp [View.tell] at now

theorem Stroke.device_eq {v w : View} {moments : List Properties} {events : List Event}
    (s : Stroke v moments events w) : w.device = v.device := by
  cases s <;> rfl

theorem Course.device_eq {v w : View} {due : Bool} {told : List Telling}
    {moments : List Properties} (c : Course v due told moments w) : w.device = v.device := by
  induction c with
  | start => rfl
  | aside _ ih | turned _ _ _ ih | powered _ ih => exact ih
  | stroke _ s ih => exact s.device_eq.trans ih

/-- The networks are named after their interface. -/
def View.Named (v : View) : Prop :=
  ∀ path ∈ v.paths, ∃ ssid security, path = networkPath v.device ssid security

theorem Stroke.named {v w : View} {moments : List Properties} {events : List Event}
    (s : Stroke v moments events w) (init : v.Named) :
    w.Named ∧ ∀ path, (.networkAdded path ∈ events ∨ ∃ reason, .networkRemoved path reason ∈ events) →
      ∃ ssid security, path = networkPath v.device ssid security := by
  cases s with
  | renamed _ _ | scanning _ _ | registrarFound _ | released _ _ => exact ⟨init, by simp⟩
  | entered _ _ _ | began _ _ _ _ => exact ⟨init, by simp [State.entering]⟩
  | @relisted added removed _ _ gone _ named =>
    constructor
    · intro path there
      rcases List.mem_append.1 (List.mem_of_mem_filter there) with old | new
      · exact init path old
      · exact named path new
    · intro path told
      have either : path ∈ added ∨ path ∈ removed := by simpa using told
      rcases either with new | old
      · exact named path new
      · exact init path (gone.subset old)

/-- Networks that come and go are named after their interface. -/
theorem Course.named {v w : View} {due : Bool} {told : List Telling}
    {moments : List Properties} (c : Course v due told moments w) (init : v.Named) :
    w.Named ∧ ∀ path, (.networkAdded path ∈ told.map (·.event) ∨
      ∃ reason, .networkRemoved path reason ∈ told.map (·.event)) →
      ∃ ssid security, path = networkPath v.device ssid security := by
  induction c with
  | start => exact ⟨init, by simp⟩
  | aside _ ih => exact ih
  | stroke c s ih =>
    obtain ⟨before, told⟩ := ih
    obtain ⟨after, more⟩ := s.named before
    refine ⟨after, fun path either => ?_⟩
    rw [List.map_append, View.events_tell] at either
    simp only [List.mem_append] at either
    rw [c.device_eq] at more
    rcases either with (old | new) | ⟨reason, old | new⟩
    · exact told path (.inl old)
    · exact more path (.inl new)
    · exact told path (.inr ⟨reason, old⟩)
    · exact more path (.inr ⟨reason, new⟩)
  | turned _ _ _ ih =>
    refine ⟨ih.1, fun path either => ih.2 path ?_⟩
    rw [List.map_append, View.events_tell] at either
    simpa [State.entering] using either
  | powered _ ih =>
    refine ⟨ih.1, fun path either => ih.2 path ?_⟩
    rw [List.map_append, View.events_tell] at either
    simpa using either

/-- In every run, whatever comes next in it, the network events lead a watcher that has nothing at
first to the paths of the catalogue.  Each of them, and each event about the connection to a
network, makes sense to the watcher where it is heard, and a network that goes is not the connected
one then. -/
theorem network_events_replay {i : Interface} {config : Config} {moves : List Move} {s : Station}
    (run : Run (.new i config) moves s) (env : Surroundings) (op : Operation) :
    let told := moves.flatMap Move.told ++ Move.told ⟨s, env, op⟩
    (told.map (·.event)).foldl Event.follow [] =
        (s.step env op).2.station.catalogue.networks.map (·.path) ∧
      (∀ earlier e later, told.map (·.event) = earlier ++ e :: later →
        e.Fits (earlier.foldl Event.follow [])) ∧
      ∀ path reason shown, ⟨.networkRemoved path reason, shown⟩ ∈ told →
        shown.connectedNetwork ≠ some path := by
  intro told
  have course := run.course.trans (run.course_move env op)
  have replay : Replay [] (told.map (·.event)) (s.step env op).2.station.view.paths :=
    course.replay
  refine ⟨replay.foldl_eq, fun earlier e later split => ?_, fun path reason shown => ?_⟩
  · rw [split] at replay
    exact replay.fits
  · exact course.removed_ne

/-- A station that is ended while it is connecting: the connection goes before its network does. -/
theorem network_events_replay_ended :
    let s := Sample.station.played Sample.connecting
    let env := Sample.surroundings true
    let told := (Sample.station.play Sample.connecting).flatMap Move.told ++
      Move.told ⟨s, env, .shutdown⟩
    (told.map (·.event)).foldl Event.follow [] = [] ∧
      (Move.told ⟨s, env, .shutdown⟩).map (·.event) =
        [.propertyChanged .connectedNetwork, .networkConnectedChanged Sample.network,
          .networkRemoved Sample.network .shutdown] := by
  intro s env told
  have replay := (network_events_replay Sample.run_connecting env .shutdown).1
  exact ⟨replay.trans (by decide +kernel), by decide +kernel⟩

end WirelessStation.Station
