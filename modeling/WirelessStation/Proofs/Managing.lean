import Mathlib.Data.List.Induction
import WirelessStation.Manager
import WirelessStation.Proofs.Rekeying

/-! # Runs of a manager

A run of a manager is any finite sequence of operations: interfaces are added and removed,
notifications are handed to any index, anything is asked of the stations themselves, their shutdown
and notifications included, watchers of interfaces come and go, and the manager is shut down and
used again.  `Run start moves m` says that `moves` lead from `start` to `m`.

What an operation may do to the stations is said once (`Changed`, `changed_step`): none, one or all
of them go, one comes, or one takes a turn of its own.  So what a new station has and every turn
keeps, every managed station has (`Run.forall_stations`), and the stations always come by ascending
index (`Run.ascending`). -/

namespace WirelessStation

namespace Station

theorem Turn.station_shutdown (t : Turn) :
    t.shutdown.station =
      { t.station with
        pending := {}, enrollment := none, connection := none, candidates := []
        catalogue := (t.station.catalogue.clear .shutdown).1, periodicScan := false
        watchers := t.station.watchers.clear.1 } := by
  simp [shutdown, station_foldl_record, Pending.set]

theorem Turn.own_shutdown (t : Turn) : t.shutdown.station.own = t.station.own := by
  rw [station_shutdown]
  rfl

/-- An interface stays who it is, also when its station is ended. -/
theorem own_step (s : Station) (env : Surroundings) (op : Operation) :
    (s.step env op).2.station.own = s.own := by
  by_cases ended : op = .shutdown
  · subst ended
    exact Turn.own_shutdown { station := s }
  · exact Turn.own_perform { station := s } env ended

theorem index_step (s : Station) (env : Surroundings) (op : Operation) :
    (s.step env op).2.station.index = s.index :=
  congrArg Own.index (s.own_step env op)

end Station

namespace Manager

variable {m m' : Manager} {s t : Station} {index : Nat}

/-! ### Stations by index -/

/-- The stations come by ascending index, and so there is one at most with each. -/
def Ascending (m : Manager) : Prop :=
  (m.stations.map (·.index)).Pairwise (· < ·)

theorem index_of_station? (found : m.station? index = some s) : s.index = index := by
  simpa using List.find?_some found

theorem mem_of_station? (found : m.station? index = some s) : s ∈ m.stations :=
  List.mem_of_find?_eq_some found

theorem station?_eq_none_iff : m.station? index = none ↔ ∀ s ∈ m.stations, s.index ≠ index := by
  simp [station?]

namespace Ascending

theorem nodup (h : m.Ascending) : (m.stations.map (·.index)).Nodup :=
  h.imp fun {_ _} => Nat.ne_of_lt

/-- Stations with one index are one. -/
theorem eq_of_index (h : m.Ascending) (hs : s ∈ m.stations) (ht : t ∈ m.stations)
    (same : s.index = t.index) : s = t :=
  List.inj_on_of_nodup_map h.nodup hs ht same

theorem station?_eq_some (h : m.Ascending) (there : s ∈ m.stations) :
    m.station? s.index = some s :=
  Catalogue.find?_key_of_mem h.nodup there

theorem congr (h : m.Ascending) (same : m'.stations = m.stations) : m'.Ascending := by
  rw [Ascending, same]
  exact h

end Ascending

/-! ### Stations come, take turns and go -/

theorem mem_insertStation {l : List Station} : t ∈ insertStation s l ↔ t = s ∨ t ∈ l := by
  induction l with
  | nil => simp [insertStation]
  | cons u rest ih =>
    unfold insertStation
    split
    · simp
    · rw [List.mem_cons, List.mem_cons, ih]
      exact or_left_comm

theorem pairwise_insertStation {l : List Station} (ascending : (l.map (·.index)).Pairwise (· < ·))
    (new : ∀ t ∈ l, t.index ≠ s.index) :
    ((insertStation s l).map (·.index)).Pairwise (· < ·) := by
  induction l with
  | nil => simp [insertStation]
  | cons u rest ih =>
    obtain ⟨first, later⟩ := List.pairwise_cons.1 ascending
    unfold insertStation
    split
    next before =>
      refine List.pairwise_cons.2 ⟨?_, ascending⟩
      rw [List.forall_mem_map]
      intro t ht
      rcases List.mem_cons.1 ht with rfl | ht
      · exact before
      · exact Nat.lt_trans before (first _ (List.mem_map_of_mem ht))
    next after =>
      have behind : u.index < s.index := by
        have := new u (List.mem_cons_self ..)
        omega
      refine List.pairwise_cons.2 ⟨?_, ih later fun t ht => new t (List.mem_cons_of_mem _ ht)⟩
      change ∀ i ∈ (insertStation s rest).map (·.index), u.index < i
      rw [List.forall_mem_map]
      intro t ht
      rcases mem_insertStation.1 ht with rfl | ht
      · exact behind
      · exact first _ (List.mem_map_of_mem ht)

theorem indexes_put : (m.put s).stations.map (·.index) = m.stations.map (·.index) := by
  simp only [put, List.map_map]
  refine List.map_congr_left fun t _ => ?_
  by_cases here : t.index = s.index <;> simp [here]

/-- What is written over is gone, and the other stations stay. -/
theorem mem_put (there : ∃ t ∈ m.stations, t.index = s.index) :
    t ∈ (m.put s).stations ↔ t = s ∨ t ∈ m.stations ∧ t.index ≠ s.index := by
  simp only [put, List.mem_map]
  constructor
  · rintro ⟨u, hu, rfl⟩
    by_cases here : u.index = s.index
    · exact .inl (if_pos here)
    · rw [if_neg here]
      exact .inr ⟨hu, here⟩
  · rintro (rfl | ⟨ht, other⟩)
    · obtain ⟨u, hu, here⟩ := there
      exact ⟨u, hu, if_pos here⟩
    · exact ⟨t, ht, if_neg other⟩

/-- Writing over a station that is then taken away changes nothing. -/
theorem filter_put :
    (m.put s).stations.filter (fun t => t.index != s.index) =
      m.stations.filter fun t => t.index != s.index := by
  simp only [put]
  induction m.stations with
  | nil => rfl
  | cons t rest ih =>
    rw [List.map_cons]
    by_cases here : t.index = s.index
    · simpa [here] using ih
    · simpa [here] using ih

/-- What an operation may do to the stations of a manager. -/
inductive Changed (m m' : Manager) : Prop
  | same (stations : m'.stations = m.stations)
  | added (i : Interface) (new : m.station? i.index = none)
      (stations : m'.stations = insertStation (.new i m.config) m.stations)
  /-- A station has taken a turn. -/
  | turned (s : Station) (env : Station.Surroundings) (op : Station.Operation)
      (there : m.station? s.index = some s)
      (stations : m'.stations = (m.put (s.step env op).2.station).stations)
  | removed (index : Nat) (stations : m'.stations = m.stations.filter fun s => s.index != index)
  | emptied (stations : m'.stations = [])

namespace Changed

theorem mem_cases (h : Changed m m') (hs : s ∈ m'.stations) :
    s ∈ m.stations ∨ (∃ i, s = .new i m.config) ∨
      ∃ t ∈ m.stations, ∃ env op, s = (t.step env op).2.station := by
  cases h with
  | same stations =>
    rw [stations] at hs
    exact .inl hs
  | added i _ stations =>
    rw [stations, mem_insertStation] at hs
    exact hs.elim (fun new => .inr (.inl ⟨i, new⟩)) .inl
  | turned t env op there stations =>
    have there := mem_of_station? there
    rw [stations, mem_put ⟨t, there, (t.index_step env op).symm⟩] at hs
    rcases hs with rfl | ⟨hs, _⟩
    · exact .inr (.inr ⟨t, there, env, op, rfl⟩)
    · exact .inl hs
  | removed index stations =>
    rw [stations] at hs
    exact .inl (List.mem_of_mem_filter hs)
  | emptied stations =>
    rw [stations] at hs
    cases hs

theorem ascending (h : Changed m m') (before : m.Ascending) : m'.Ascending := by
  cases h with
  | same stations => exact before.congr stations
  | added i new stations =>
    rw [Ascending, stations]
    exact pairwise_insertStation before (station?_eq_none_iff.1 new)
  | turned t env op _ stations =>
    rw [Ascending, stations, indexes_put]
    exact before
  | removed index stations =>
    rw [Ascending, stations]
    exact before.sublist (List.filter_sublist.map _)
  | emptied stations =>
    rw [Ascending, stations]
    exact .nil

end Changed

/-! ### Turns -/

theorem withStation?_eq {α : Type} (act : Station.Turn → α × Station.Turn) (t : Turn) :
    t.withStation? index act =
      (t.manager.station? index).map fun s =>
        ((act { station := s }).1, t.absorb s (act { station := s }).2) := rfl

namespace Turn

variable (t : Turn) (index : Nat)

@[simp] theorem manager_announce (event : DeviceEvent) : (t.announce event).manager = t.manager :=
  rfl

/-- A station that is removed has gone, and all others stay. -/
theorem stations_remove :
    (t.remove index).2.manager.stations = t.manager.stations.filter fun s => s.index != index := by
  unfold remove
  split
  next none =>
    refine (List.filter_eq_self.2 fun s hs => ?_).symm
    simpa using station?_eq_none_iff.1 none s hs
  next s found =>
    have own := Station.Turn.own_shutdown { station := s }
    have ended : (Station.Turn.shutdown { station := s }).station.index = index :=
      (congrArg Station.Own.index own).trans (index_of_station? found)
    have same := filter_put (m := t.manager)
      (s := (Station.Turn.shutdown { station := s }).station)
    rw [ended] at same
    simp only
    split
    · exact same
    · exact same

theorem config_remove : (t.remove index).2.manager.config = t.manager.config := by
  unfold remove
  split
  · rfl
  · simp only
    split <;> rfl

theorem watchers_remove : (t.remove index).2.manager.watchers = t.manager.watchers := by
  unfold remove
  split
  · rfl
  · simp only
    split <;> rfl

/-- Stations that are removed one after the other have gone. -/
theorem stations_removeAll (indexes : List Nat) :
    (indexes.foldl (fun t index => (t.remove index).2) t).manager.stations =
      t.manager.stations.filter fun s => s.index ∉ indexes := by
  induction indexes generalizing t with
  | nil => simp
  | cons index rest ih =>
    rw [List.foldl_cons, ih, stations_remove, List.filter_filter]
    refine List.filter_congr fun s _ => ?_
    by_cases here : s.index = index <;> simp [here]

theorem config_removeAll (indexes : List Nat) :
    (indexes.foldl (fun t index => (t.remove index).2) t).manager.config = t.manager.config := by
  induction indexes generalizing t with
  | nil => rfl
  | cons index rest ih => rw [List.foldl_cons, ih, config_remove]

/-- A shutdown leaves no station. -/
theorem stations_shutdown : t.shutdown.manager.stations = [] := by
  refine (stations_removeAll t _).trans (List.filter_eq_nil_iff.2 fun s hs => ?_)
  simpa using ⟨s, hs, rfl⟩

/-- A turn of the station with an index. -/
theorem changed_absorb {s : Station} {turn : Station.Turn} (found : t.manager.station? index = some s)
    {env : Station.Surroundings} {op : Station.Operation}
    (turned : turn.station = (s.step env op).2.station) :
    Changed t.manager (t.absorb s turn).manager := by
  obtain rfl := index_of_station? found
  refine .turned s env op found ?_
  rw [absorb, turned]

/-- A notification is a turn of the station that it is handed to. -/
theorem manager_dispatch {s : Station} (env : Surroundings) (notification : Notification)
    (found : t.manager.station? index = some s) :
    (t.dispatch env index notification).2.manager =
      (t.absorb s (s.step (env.at index) (.notify notification)).2).manager := by
  rw [dispatch, found]
  simp only
  split <;> rfl

end Turn

/-! ### Operations -/

/-- What can happen to a manager. -/
inductive Operation where
  | add (i : Interface)
  | remove (index : Nat)
  | dispatch (index : Nat) (notification : Notification)
  /-- Something happens to a station without the manager. -/
  | ask (index : Nat) (op : Station.Operation)
  | watch (label : String)
  | unwatch (id : Nat)
  | shutdown

/-- One operation on a manager. -/
def step (env : Surroundings) (op : Operation) (m : Manager) : Result × Turn :=
  let idle : Turn := { manager := m }
  match op with
  | .add i =>
    match m.add i with
    | .ok m => (.ok (), { manager := m })
    | .error e => (.error e, idle)
  | .remove index => idle.remove index
  | .dispatch index notification => idle.dispatch env index notification
  | .ask index op =>
    (idle.withStation? index (Station.Turn.perform (env.at index) op)).getD (.error .notFound, idle)
  | .watch label => (.ok (), { manager := { m with watchers := (m.watchers.add label).2 } })
  | .unwatch id => (.ok (), { manager := { m with watchers := (m.watchers.remove id).2.1 } })
  | .shutdown => (.ok (), idle.shutdown)

/-- An interface that is managed already is not added. -/
theorem add_cases (m : Manager) (i : Interface) :
    (m.station? i.index = none ∧
      m.add i = .ok { m with stations := insertStation (.new i m.config) m.stations }) ∨
    ((m.station? i.index).isSome = true ∧
      m.add i = .error (.invalidInput (.alreadyManaged i.index))) := by
  unfold add
  split
  next managed => exact .inr ⟨managed, rfl⟩
  next new => exact .inl ⟨Option.not_isSome_iff_eq_none.1 new, rfl⟩

section step

variable (m : Manager) (env : Surroundings)

/-- Whatever happens to a manager, its stations change in one of a few ways. -/
theorem changed_step (op : Operation) : Changed m (m.step env op).2.manager := by
  let idle : Turn := { manager := m }
  cases op with
  | add i =>
    rcases m.add_cases i with ⟨new, outcome⟩ | ⟨_, outcome⟩
    · simp only [step, outcome]
      exact .added i new rfl
    · simp only [step, outcome]
      exact .same rfl
  | remove index => exact .removed index (Turn.stations_remove idle index)
  | dispatch index notification =>
    cases found : m.station? index with
    | none =>
      simp only [step, Turn.dispatch, found]
      exact .same rfl
    | some s =>
      have turned := Turn.manager_dispatch idle index env notification found
      rw [step, turned]
      exact Turn.changed_absorb idle index found rfl
  | ask index op =>
    cases found : m.station? index with
    | none =>
      simp only [step, withStation?_eq, found]
      exact .same rfl
    | some s =>
      simp only [step, withStation?_eq, found]
      exact Turn.changed_absorb idle index found rfl
  | watch label => exact .same rfl
  | unwatch id => exact .same rfl
  | shutdown => exact .emptied (Turn.stations_shutdown idle)

theorem config_step (op : Operation) : (m.step env op).2.manager.config = m.config := by
  let idle : Turn := { manager := m }
  cases op with
  | add i => rcases m.add_cases i with ⟨_, outcome⟩ | ⟨_, outcome⟩ <;> simp only [step, outcome]
  | remove index => exact Turn.config_remove idle index
  | dispatch index notification =>
    cases found : m.station? index with
    | none => simp only [step, Turn.dispatch, found]
    | some s =>
      have turned := Turn.manager_dispatch idle index env notification found
      exact (congrArg Manager.config turned).trans rfl
  | ask index op =>
    cases found : m.station? index with
    | none => simp only [step, withStation?_eq, found]; rfl
    | some s => simp only [step, withStation?_eq, found]; rfl
  | watch label => rfl
  | unwatch id => rfl
  | shutdown => exact Turn.config_removeAll idle _

end step

/-! ### Runs -/

/-- One operation of a run: the manager that it found, what it read of the world outside, and what
was done. -/
structure Move where
  before : Manager
  env : Surroundings
  op : Operation

/-- What came of it. -/
def Move.turn (v : Move) : Turn :=
  (v.before.step v.env v.op).2

/-- The moves that lead from one manager to another. -/
inductive Run (start : Manager) : List Move → Manager → Prop
  | start : Run start [] start
  | move {moves : List Move} {m : Manager} (run : Run start moves m) (env : Surroundings)
      (op : Operation) : Run start (moves ++ [⟨m, env, op⟩]) (m.step env op).2.manager

/-- The moves that operations make, one after the other. -/
def play (m : Manager) : List (Surroundings × Operation) → List Move
  | [] => []
  | (env, op) :: rest => ⟨m, env, op⟩ :: (m.step env op).2.manager.play rest

/-- The manager that operations lead to. -/
def played (m : Manager) : List (Surroundings × Operation) → Manager
  | [] => m
  | (env, op) :: rest => (m.step env op).2.manager.played rest

namespace Run

variable {start : Manager} {moves : List Move}

/-- Going on with a run. -/
theorem play (run : Run start moves m) (asked : List (Surroundings × Operation)) :
    Run start (moves ++ m.play asked) (m.played asked) := by
  induction asked generalizing m moves with
  | nil => simpa [Manager.play, played] using run
  | cons a rest ih =>
    obtain ⟨env, op⟩ := a
    simpa [Manager.play, played] using ih (run.move env op)

/-- The last move of a run, and what came before it. -/
theorem concat_inv {v : Move} (run : Run start (moves ++ [v]) m) :
    Run start moves v.before ∧ m = v.turn.manager := by
  generalize grown : moves ++ [v] = all at run
  cases run with
  | start => simp at grown
  | move run env op =>
    obtain ⟨rfl, rfl⟩ := List.concat_inj.1 (by simpa using grown)
    exact ⟨run, rfl⟩

/-- A run may be cut anywhere. -/
theorem split {earlier later : List Move} (run : Run start (earlier ++ later) m) :
    ∃ mid, Run start earlier mid ∧ Run mid later m := by
  induction later using List.reverseRecOn generalizing m with
  | nil => exact ⟨m, by simpa using run, .start⟩
  | append_singleton later v ih =>
    rw [← List.append_assoc] at run
    obtain ⟨before, rfl⟩ := run.concat_inv
    obtain ⟨mid, first, second⟩ := ih before
    exact ⟨mid, first, second.move v.env v.op⟩

theorem config_eq (run : Run start moves m) : m.config = start.config := by
  induction run with
  | start => rfl
  | move _ env op ih => rw [config_step, ih]

theorem ascending (run : Run start moves m) (init : start.Ascending) : m.Ascending := by
  induction run with
  | start => exact init
  | move _ env op ih => exact (changed_step _ env op).ascending ih

/-- What every new station has and no operation on a station takes away, every managed station has.
-/
theorem forall_stations {P : Station → Prop} (run : Run start moves m)
    (init : ∀ s ∈ start.stations, P s) (new : ∀ i, P (.new i start.config))
    (keep : ∀ s env op, P s → P (Station.step env op s).2.station) : ∀ s ∈ m.stations, P s := by
  induction run with
  | start => exact init
  | move run env op ih =>
    intro s hs
    rcases (changed_step _ env op).mem_cases hs with there | ⟨i, rfl⟩ | ⟨t, there, _, _, rfl⟩
    · exact ih s there
    · rw [run.config_eq]
      exact new i
    · exact keep t _ _ (ih t there)

end Run

end Manager

end WirelessStation
