import WirelessStation.Proofs.Turn

/-! # Runs of a station

A run is any finite sequence of operations before the shutdown, each in surroundings of its own: the
link layer may accept or refuse any call, and the store may answer anything, differently each time.
`Run start moves s` says that `moves` lead from `start` to `s`; each move keeps the station that it
found, so that a statement about a run can look at every moment of it.

* `Run.induct`: what holds at the start and is kept by every operation holds at the end.
* `Run.of_prefix`, `Run.of_prefix_concat`: every earlier moment of a run is the end of a run.
* `Run.play`: any list of operations makes a run. -/

namespace WirelessStation.Station

/-- One operation of a run: the station that it found, what it read of the world outside, and what
was asked. -/
structure Move where
  before : Station
  env : Surroundings
  op : Operation

namespace Move

/-- What the caller was told. -/
def result (m : Move) : Result :=
  (m.before.step m.env m.op).1

/-- The station that the operation left. -/
def after (m : Move) : Station :=
  (m.before.step m.env m.op).2.station

/-- What an observer picks out of everything that the operation did. -/
def picked {α : Type} (φ : Observer α) (m : Move) : List α :=
  (m.before.step m.env m.op).2.picked φ

end Move

/-- The moves that lead from one station to another, the shutdown not among them. -/
inductive Run (start : Station) : List Move → Station → Prop
  | start : Run start [] start
  | move {moves : List Move} {s : Station} (run : Run start moves s) (env : Surroundings)
      (op : Operation) (live : op ≠ .shutdown) :
      Run start (moves ++ [⟨s, env, op⟩]) (s.step env op).2.station

namespace Run

variable {start s : Station} {moves : List Move}

/-- What holds at the start and is kept by every operation holds at the end of every run. -/
theorem induct {P : Station → Prop} (run : Run start moves s) (init : P start)
    (keep : ∀ s env op, op ≠ .shutdown → P s → P (step env op s).2.station) : P s := by
  induction run with
  | start => exact init
  | move _ env op live ih => exact keep _ env op live ih

/-- Every earlier moment of a run is the end of a run. -/
theorem of_prefix (run : Run start moves s) {earlier : List Move} (h : earlier <+: moves) :
    ∃ s', Run start earlier s' := by
  induction run with
  | start =>
    rw [List.prefix_nil] at h
    subst h
    exact ⟨start, .start⟩
  | move run env op live ih =>
    rcases List.prefix_concat_iff.1 h with rfl | h
    · exact ⟨_, run.move env op live⟩
    · exact ih h

/-- The last move of a run leads from the end of what came before to the end of the run. -/
theorem of_concat {m : Move} (run : Run start (moves ++ [m]) s) :
    Run start moves m.before ∧ m.op ≠ .shutdown ∧ s = m.after := by
  generalize grown : moves ++ [m] = all at run
  cases run with
  | start => simp at grown
  | move run env op live =>
    obtain ⟨rfl, rfl⟩ := List.concat_inj.1 (by simpa using grown)
    exact ⟨run, live, rfl⟩

/-- The station that a move of a run found is the end of what came before. -/
theorem of_prefix_concat (run : Run start moves s) {earlier : List Move} {m : Move}
    (h : earlier ++ [m] <+: moves) : Run start earlier m.before ∧ m.op ≠ .shutdown := by
  obtain ⟨s', there⟩ := run.of_prefix h
  obtain ⟨before, live, _⟩ := there.of_concat
  exact ⟨before, live⟩

end Run

/-- The moves that operations make, one after the other. -/
def play (s : Station) : List (Surroundings × Operation) → List Move
  | [] => []
  | (env, op) :: rest => ⟨s, env, op⟩ :: (s.step env op).2.station.play rest

/-- The station that operations lead to. -/
def played (s : Station) : List (Surroundings × Operation) → Station
  | [] => s
  | (env, op) :: rest => (s.step env op).2.station.played rest

/-- Going on with a run. -/
theorem Run.play {start s : Station} {moves : List Move} (run : Run start moves s)
    (asked : List (Surroundings × Operation)) (live : ∀ a ∈ asked, a.2 ≠ .shutdown) :
    Run start (moves ++ s.play asked) (s.played asked) := by
  induction asked generalizing s moves with
  | nil => simpa [Station.play, played] using run
  | cons a rest ih =>
    obtain ⟨env, op⟩ := a
    have here : op ≠ .shutdown := live (env, op) (by simp)
    have later : ∀ a ∈ rest, a.2 ≠ .shutdown := fun a ha => live a (by simp [ha])
    simpa [Station.play, played] using ih (run.move env op here) later

/-! ### A station to look at

One interface that hears one open access point, for statements about concrete runs. -/

namespace Sample

def interface : Interface := ⟨3, "wlan0", ⟨#v[2, 0, 0, 0, 0, 1]⟩, 0⟩

def accessPoint : Address := ⟨#v[2, 0, 0, 0, 0, 9]⟩

def observation : Observation where
  address := accessPoint
  ssid := [0x41]
  frequency := 2412
  signal := -5000
  rank := 5000

def network : String := "/net/connman/iwd/0/3/41_open"

/-- The access point protected by a pre-shared key. -/
def secured : Observation :=
  { observation with
    capability := 0x0010
    rsn := some (.ofSuites .rsn ⟨.ccmp, .ccmp, .psk⟩) }

def securedNetwork : String := "/net/connman/iwd/0/3/41_psk"

def passphrase (text : String) : Settings := .personal (.passphrase text)

/-- Nothing is known to the store, and the link layer accepts everything or refuses everything. -/
def surroundings (accepts : Bool) : Surroundings where
  accepts _ _ := accepts
  store := ⟨fun _ _ => none, fun _ _ => none⟩
  now := 0

/-- The interface comes up and hears the access point. -/
def hearing : List (Surroundings × Operation) :=
  [(surroundings true, .notify .up), (surroundings true, .notify (.scanResults [observation]))]

/-- An attempt that has begun. -/
def connecting : List (Surroundings × Operation) :=
  hearing ++ [(surroundings true, .connect network accessPoint (some (.request 0)))]

/-- The interface comes up, hears the protected access point and is given a passphrase for it. -/
def admitted : List (Surroundings × Operation) :=
  [(surroundings true, .notify .up), (surroundings true, .notify (.scanResults [secured])),
    (surroundings true, .setSecret securedNetwork (passphrase "first secret"))]

/-- An attempt at the protected access point. -/
def join : Surroundings × Operation :=
  (surroundings true, .connect securedNetwork accessPoint none)

def station : Station := .new interface {}

theorem run (asked : List (Surroundings × Operation)) (live : ∀ a ∈ asked, a.2 ≠ .shutdown) :
    Run station (station.play asked) (station.played asked) := by
  simpa using Run.start.play asked live

theorem run_admitted : Run station (station.play admitted) (station.played admitted) :=
  run admitted (by simp [admitted])

theorem run_connecting : Run station (station.play connecting) (station.played connecting) :=
  run connecting (by simp [connecting, hearing])

/-- Why a request failed, if it did. -/
def failure? : Result → Option Error
  | .ok () => none
  | .error e => some e

theorem failure?_eq_none {r : Result} : failure? r = none ↔ r = .ok () := by
  cases r <;> simp [failure?]

theorem failure?_eq_some {r : Result} {e : Error} : failure? r = some e ↔ r = .error e := by
  cases r <;> simp [failure?]

end Sample

end WirelessStation.Station
