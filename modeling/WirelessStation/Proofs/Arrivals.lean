import WirelessStation.Proofs.Connection
import WirelessStation.Proofs.Placing
import WirelessStation.Proofs.Tidings
import WirelessStation.Proofs.Transitions

/-! # The store hears of every connection

The store keeps the networks in the order in which they were connected to.  It is told of one
(`marks`) whenever the station goes from connecting to connected (`Move.arrivals`), of the network
that the station is then connected to (`Station.place?`), and at no other time.  That network is
always still in the catalogue, whatever was scanned since the attempt began, for otherwise there
would be nothing to tell.

A report of a success does not say which attempt it is about.  One that comes when the attempt is no
longer under way, since it was given up or its link was lost, finds the station in another state and
brings no tidings. -/

namespace WirelessStation.Station

/-- The network that the station holds a connection to, by its name and security. -/
def place? (s : Station) : Option (String × Security) :=
  s.connection.bind fun c => (s.catalogue.network? c.network).map Network.home

/-- The transitions from connecting to connected that watchers are told of. -/
def Move.arrivals (m : Move) : List (State × State) :=
  (transitions (m.told.map (·.event))).filter (· = (.connecting, .connected))

/-- The network that the store hears was connected to. -/
def Effect.marked? : Effect → Option (String × Security)
  | .store (.markConnected ssid security) => some (ssid, security)
  | _ => none

/-- What the store hears was connected to, in order. -/
abbrev marks : Observer (String × Security) :=
  .each Effect.marked?

instance : marks.OfTidings where
  pick_other before e other := by
    cases e with
    | store c =>
      cases c with
      | markConnected ssid security => cases other
      | sync _ _ _ => rfl
    | _ => rfl

/-- The transition from connecting to connected, where an effect tells of it. -/
def Effect.arrives? : Effect → Option (State × State)
  | .announce (.stateChanged .connecting .connected) _ => some (.connecting, .connected)
  | _ => none

instance : (Observer.each Effect.arrives?).OfTidings where
  pick_other before e other := by
    unfold Observer.each Effect.arrives?
    dsimp only
    split
    · cases other
    · rfl

theorem Move.arrivals_eq (m : Move) : m.arrivals = m.tidings.filterMap Effect.arrives? := by
  have each : tellings = .each fun e => tellings.pick [] e := rfl
  rw [← m.picked_each, arrivals, transitions, told, picked, picked, Turn.picked, Turn.picked, each,
    Observer.picks_each, Observer.picks_each, List.map_filterMap, List.filterMap_filterMap,
    List.filter_filterMap]
  refine List.filterMap_congr fun e _ => ?_
  cases e with
  | announce event shown =>
    cases event with
    | stateChanged old new => cases old <;> cases new <;> rfl
    | _ => rfl
  | _ => rfl

/-! ### One operation -/

/-- The report that an attempt under way has succeeded. -/
def Move.succeeds (m : Move) : Prop :=
  m.op = .notify (.connectResult .success) ∧ m.before.state = .connecting

/-- Of other tidings than those of an arrival nothing is seen by who looks neither at scans nor at
registrars. -/
theorem Move.filterMap_tidings_eq_nil {α : Type} {f : Effect → Option α} {m : Move}
    (other : m.op ≠ .notify (.connectResult .success))
    (scan : ∀ shown, f (.announce (.propertyChanged .scanning) shown) = none)
    (found : ∀ a shown, f (.announce (.registrarFound a) shown) = none) :
    m.tidings.filterMap f = [] := by
  unfold tidings
  split
  · split
    · rfl
    · exact m.before.filterMap_scanTidings scan _ _
  · exact m.before.filterMap_scanTidings scan _ _
  · split
    · rfl
    · rw [List.filterMap_append, filterMap_scanTidings _ scan, filterMap_sighting _ found,
        List.append_nil]
  next succeeded => exact absurd succeeded other
  · rfl

theorem arrival_of_not_connecting {s : Station} (other : s.state ≠ .connecting) :
    s.arrival = [] := by
  unfold arrival
  split
  next connecting _ => exact absurd connecting other
  next => rfl

/-- The catalogue still has the network that an attempt under way is for. -/
theorem Linked.arrival_eq {s : Station} (h : Linked s) (connecting : s.state = .connecting) :
    ∃ c n, s.connection = some c ∧ s.catalogue.network? c.network = some n ∧
      s.arrival = [.store n.connectedCall,
        .announce (.stateChanged .connecting .connected)
          { s with state := .connected }.properties] := by
  obtain ⟨c, held⟩ := Option.isSome_iff_exists.1 (h.held_iff.2 (.inl connecting))
  obtain ⟨⟨n, found, _⟩, _⟩ := h.placed c held
  refine ⟨c, n, held, found, ?_⟩
  unfold arrival
  simp [connecting, held, found]

/-- What one operation tells the store and what it tells watchers go together. -/
theorem Move.arrivals_cases (m : Move) (linked : Linked m.before) :
    ¬m.succeeds ∧ m.picked marks = [] ∧ m.arrivals = [] ∨
      m.succeeds ∧ m.after.state = .connected ∧ ∃ home, m.after.place? = some home ∧
        m.picked marks = [home] ∧ m.arrivals = [(.connecting, .connected)] := by
  rw [m.picked_each, m.arrivals_eq]
  by_cases reported : m.op = .notify (.connectResult .success)
  · have brought : m.tidings = m.before.arrival := by
      unfold tidings
      rw [reported]
    rw [brought]
    by_cases connecting : m.before.state = .connecting
    · obtain ⟨c, n, held, found, arrival⟩ := linked.arrival_eq connecting
      have up : m.after =
          { m.before with
            pending := m.before.pending.set .connect none
            state := .connected, periodicScan := false, autoconnect := true } := by
        rw [after, reported, step, Turn.perform, Turn.handle, Turn.station_handleConnectResult,
          if_pos connecting, held]
      refine .inr ⟨⟨reported, connecting⟩, by rw [up], n.home, ?_, ?_, ?_⟩
      · simp [up, place?, held, found]
      · rw [arrival]
        rfl
      · rw [arrival]
        rfl
    · refine .inl ⟨fun succeeds => connecting succeeds.2, ?_, ?_⟩ <;>
        rw [arrival_of_not_connecting connecting, List.filterMap_nil]
  · refine .inl ⟨fun succeeds => reported succeeds.1, ?_, ?_⟩
    · exact filterMap_tidings_eq_nil reported (fun _ => rfl) fun _ _ => rfl
    · exact filterMap_tidings_eq_nil reported (fun _ => rfl) fun _ _ => rfl

/-! ### Runs -/

variable {i : Interface} {config : Config} {moves : List Move} {s : Station}

theorem Run.linked_of_mem (run : Run (.new i config) moves s) {m : Move} (there : m ∈ moves) :
    Linked m.before := by
  induction run with
  | start => cases there
  | move run env op live ih =>
    rcases List.mem_append.1 there with earlier | last
    · exact ih earlier
    · obtain rfl := List.mem_singleton.1 last
      exact run.linked

/-- In every run, whatever comes next in it, the store hears of the networks that the station went
from connecting to being connected to, of each once and in this order.  It hears of one exactly when
a success is reported while the station is connecting, and of the network that the station is then
connected to. -/
theorem recency_records_arrivals (run : Run (.new i config) moves s) (env : Surroundings)
    (op : Operation) :
    let all := moves ++ [⟨s, env, op⟩]
    (all.flatMap (Move.picked marks)).map some =
      (all.flatMap fun m => m.arrivals.map fun _ => m.after.place?) ∧
    ∀ m ∈ all, ∀ home, home ∈ m.picked marks ↔
      m.op = .notify (.connectResult .success) ∧ m.before.state = .connecting ∧
        m.after.state = .connected ∧ m.after.place? = some home := by
  intro all
  have linked : ∀ m ∈ all, Linked m.before := by
    intro m hm
    rcases List.mem_append.1 hm with earlier | last
    · exact run.linked_of_mem earlier
    · obtain rfl := List.mem_singleton.1 last
      exact run.linked
  refine ⟨?_, fun m hm home => ?_⟩
  · rw [List.map_flatMap]
    refine List.flatMap_congr fun m hm => ?_
    rcases m.arrivals_cases (linked m hm) with
      ⟨_, marked, arrived⟩ | ⟨_, _, _, place, marked, arrived⟩
    · rw [marked, arrived]
      rfl
    · rw [marked, arrived, List.map_singleton, List.map_singleton, place]
  · rcases m.arrivals_cases (linked m hm) with
      ⟨other, marked, _⟩ | ⟨succeeds, connected, _, place, marked, _⟩
    · rw [marked]
      constructor
      · exact fun there => absurd there List.not_mem_nil
      · exact fun ⟨reported, connecting, _⟩ => (other ⟨reported, connecting⟩).elim
    · rw [marked, place, List.mem_singleton]
      constructor
      · rintro rfl
        exact ⟨succeeds.1, succeeds.2, connected, rfl⟩
      · exact fun ⟨_, _, _, same⟩ => (Option.some.inj same).symm

/-- An attempt that the station gives up and whose success is reported late, and a second one that
ends in a connection. -/
def Sample.lateSuccess : List (Surroundings × Operation) :=
  Sample.connecting ++
    [(Sample.surroundings true, .disconnect none),
      (Sample.surroundings true, .notify (.disconnectResult true)),
      (Sample.surroundings true, .notify (.connectResult .success)),
      (Sample.surroundings true, .connect Sample.network Sample.accessPoint none)]

/-- The store hears of the network once, for the second of the two reports. -/
theorem recency_records_arrivals_late :
    let s := Sample.station.played Sample.lateSuccess
    let env := Sample.surroundings true
    let all := Sample.station.play Sample.lateSuccess ++
      [⟨s, env, .notify (.connectResult .success)⟩]
    Run Sample.station (Sample.station.play Sample.lateSuccess) s ∧
      all.flatMap (Move.picked marks) = [("A", .unsecured)] ∧
      (all.flatMap fun m => m.arrivals.map fun _ => m.after.place?) = [some ("A", .unsecured)] := by
  intro s env all
  have run : Run Sample.station (Sample.station.play Sample.lateSuccess) s :=
    Sample.run _ (by simp [Sample.lateSuccess, Sample.connecting, Sample.hearing])
  have heard : all.flatMap (Move.picked marks) = [("A", .unsecured)] := by decide +kernel
  have arrived := (recency_records_arrivals run env (.notify (.connectResult .success))).1
  rw [heard] at arrived
  exact ⟨run, heard, arrived.symm⟩

end WirelessStation.Station
