import Mathlib.Data.List.DropRight
import WirelessStation.Proofs.Resetting
import WirelessStation.Proofs.Signals
import WirelessStation.Proofs.Tidings

/-! # When a station counts as scanning

The scanning flag is set by the report that a scan has started, and it is cleared by the results of
a scan and when the interface goes down.  Results are ignored while the interface is down, but the
report of a start is not: one that comes late leaves an interface that is down scanning, and it goes
on doing so after it has come up.

* `Move.tells_scan_started_iff`: when watchers are told that a scan is under way.
* `Run.scanning_of_off`: an interface that is down counts as scanning exactly if the start of a scan
  was reported since it went down.
* `scanning_while_off_iff`: the main result. -/

namespace WirelessStation.Station

variable {i : Interface} {config : Config} {moves : List Move} {s : Station}

theorem mem_scanTidings_iff {scanning : Bool} {shown shown' : Properties} :
    .announce (.propertyChanged .scanning) shown' ∈ s.scanTidings scanning shown ↔
      s.scanning ≠ scanning ∧ shown' = shown := by
  unfold scanTidings
  split <;> simp [*]

theorem not_mem_sighting {l : List Observation} {shown shown' : Properties} :
    .announce (.propertyChanged .scanning) shown' ∉ s.sighting l shown := by
  intro there
  obtain ⟨a, same⟩ := eq_of_mem_sighting there
  cases same

theorem not_mem_arrival {shown : Properties} :
    .announce (.propertyChanged .scanning) shown ∉ s.arrival := by
  intro there
  rcases eq_of_mem_arrival there with ⟨c, same⟩ | ⟨shown', same⟩ <;> cases same

/-- Watchers are told that the flag is set when it was not and the start of a scan is reported. -/
theorem Move.tells_scan_started_iff (m : Move) {shown : Properties} :
    ⟨.propertyChanged .scanning, shown⟩ ∈ m.told ∧ shown.scanning = true ↔
      m.op = .notify (.scanTriggered (.ok ())) ∧ m.before.scanning = false ∧
        shown = { m.before.properties with scanning := true } := by
  rw [m.mem_told_iff rfl]
  unfold tidings
  constructor
  · rintro ⟨told, started⟩
    -- All but one of the tidings about the flag show it cleared.
    have cleared {shown' : Properties} (h : shown'.scanning = false) :
        .announce (.propertyChanged .scanning) shown ∉ m.before.scanTidings false shown' := by
      rw [mem_scanTidings_iff]
      rintro ⟨_, rfl⟩
      exact Bool.false_ne_true (h.symm.trans started)
    split at told
    · split at told
      · cases told
      · exact absurd told (cleared rfl)
    next triggered =>
      obtain ⟨quiet, rfl⟩ := mem_scanTidings_iff.1 told
      exact ⟨triggered, by simpa using quiet, rfl⟩
    · split at told
      · cases told
      · exact absurd told (List.not_mem_append (cleared rfl) not_mem_sighting)
    · exact absurd told not_mem_arrival
    · cases told
  · rintro ⟨triggered, quiet, rfl⟩
    simp [triggered, mem_scanTidings_iff, quiet]

/-! ### While the interface is down -/

/-- The report that a scan has started. -/
def Move.startsScan (m : Move) : Bool :=
  match m.op with
  | .notify (.scanTriggered (.ok ())) => true
  | _ => false

theorem Move.startsScan_iff {m : Move} :
    m.startsScan = true ↔ m.op = .notify (.scanTriggered (.ok ())) := by
  unfold startsScan
  split
  next h => simp [h]
  next h => simpa using h

/-- While the interface is down nothing but the start of a scan is told. -/
theorem Move.startsScan_of_told {m : Move} (off : m.before.state = .off) {shown : Properties}
    (told : ⟨.propertyChanged .scanning, shown⟩ ∈ m.told) : m.startsScan = true := by
  rw [m.mem_told_iff rfl, tidings] at told
  split at told
  · simp [off] at told
  next triggered => exact startsScan_iff.2 triggered
  · simp [off] at told
  · exact absurd told not_mem_arrival
  · simp at told

/-- What has happened since the interface went down, or since the beginning if it never was up. -/
def whileOff (moves : List Move) : List Move :=
  moves.rtakeWhile fun m => m.before.state = .off

/-- While the interface is down the flag stays, but for the report that a scan has started. -/
theorem Run.scanning_step_of_off (run : Run (.new i config) moves s) (env : Surroundings)
    (op : Operation) (off : s.state = .off) :
    (s.step env op).2.station.scanning = (s.scanning || Move.startsScan ⟨s, env, op⟩) := by
  by_cases started : Move.startsScan ⟨s, env, op⟩ = true
  · obtain rfl : op = .notify (.scanTriggered (.ok ())) := Move.startsScan_iff.1 started
    rw [step, Turn.perform, Turn.handle, Turn.station_handleScanTriggered, started, Bool.or_true]
  · rw [Bool.eq_false_iff.2 started, Bool.or_false]
    by_contra other
    -- A change would have been told, and while the interface is down only a start is.
    have exactly := (signals_exact run env op (.property .scanning)).1
    obtain ⟨⟨_, shown⟩, told, rfl⟩ := List.mem_map.1 <|
      exactly.event_mem fun same => other (Reading.flag.inj same)
    exact started (Move.startsScan_of_told off told)

/-- An interface that is down counts as scanning exactly if the start of a scan was reported since
it went down. -/
theorem Run.scanning_of_off (run : Run (.new i config) moves s) (off : s.state = .off) :
    s.scanning = (whileOff moves).any Move.startsScan := by
  induction run with
  | start => rfl
  | @move moves s run env op live ih =>
    unfold whileOff
    by_cases was : s.state = .off
    · rw [List.rtakeWhile_concat_pos _ _ _ (by simpa using was), List.any_append,
        run.scanning_step_of_off env op was, ih was]
      simp [whileOff]
    · obtain rfl : op = .notify .down := by
        by_contra other
        exact Turn.up_perform (t := { station := s }) was other off
      rw [List.rtakeWhile_concat_neg _ _ _ (by simpa using was), step, Turn.perform, Turn.handle,
        Turn.station_handleDown, if_neg was]
      rfl

/-- When an enrollment is refused for the interface being busy. -/
theorem Turn.pushButton_busy_iff (t : Turn) (env : Surroundings) (r : Requester) :
    (t.pushButton env r).1 = .error .busy ↔
      t.station.state ≠ .off ∧
        (t.station.isEnrolling ∨ t.station.pending.scan.isSome ∨ t.station.scanning) := by
  unfold pushButton
  split
  next off => simp [off, refuse]
  next up =>
    split
    next enrolling => simp [up, enrolling, refuse]
    next unenrolled =>
      split
      next busy => simpa [up, unenrolled, refuse] using busy
      next free =>
        simp only [call_eq]
        generalize env.accepts _ _ = accepted
        cases accepted <;> simpa [up, unenrolled, refuse] using free

/-- An interface that has just come up refuses to enroll for being busy exactly if it counts as
scanning. -/
theorem Run.pushButton_of_comes_up (run : Run (.new i config) moves s) (off : s.state = .off)
    (env env' : Surroundings) (r : Requester) :
    ((s.step env (.notify .up)).2.station.step env' (.pushButton r)).1 = .error .busy ↔
      s.scanning = true := by
  have unenrolled : s.enrollment = none := by rw [run.renewed_of_off off]; rfl
  have unasked : s.pending.scan = none := by rw [run.renewed_of_off off]; rfl
  have up : (s.step env (.notify .up)).2.station =
      { s with state := .idle s.autoconnect, periodicScan := s.autoconnect } :=
    (Turn.station_handleUp { station := s }).trans (if_pos off)
  have on : State.idle s.autoconnect ≠ .off := by cases s.autoconnect <;> simp [State.idle]
  rw [up, step, Turn.perform, Turn.pushButton_busy_iff]
  simp [on, isEnrolling, unenrolled, unasked]

/-- An interface that is down counts as scanning exactly if the start of a scan was reported since
it went down.  The report that comes late is also what makes watchers hear of a scan on an interface
that is down, and what an enrollment is refused for, as busy, once the interface has come up. -/
theorem scanning_while_off_iff (run : Run (.new i config) moves s) :
    (s.state = .off → s.scanning = (whileOff moves).any Move.startsScan) ∧
    (∀ env op,
      (∃ shown, ⟨.propertyChanged .scanning, shown⟩ ∈ Move.told ⟨s, env, op⟩ ∧
        shown.powered = false ∧ shown.scanning = true) ↔
      s.state = .off ∧ s.scanning = false ∧ op = .notify (.scanTriggered (.ok ()))) ∧
    (s.state = .off → ∀ env env' r,
      ((s.step env (.notify .up)).2.station.step env' (.pushButton r)).1 = .error .busy ↔
        ∃ m ∈ whileOff moves, m.op = .notify (.scanTriggered (.ok ()))) := by
  refine ⟨run.scanning_of_off, fun env op => ?_, fun off env env' r => ?_⟩
  · have powered {shown : Properties} (h : shown = { s.properties with scanning := true }) :
        shown.powered = false ↔ s.state = .off := by simp [h, properties, isPowered]
    constructor
    · rintro ⟨shown, told, down, started⟩
      obtain ⟨triggered, quiet, same⟩ :=
        (Move.tells_scan_started_iff ⟨s, env, op⟩).1 ⟨told, started⟩
      exact ⟨(powered same).1 down, quiet, triggered⟩
    · rintro ⟨off, quiet, triggered⟩
      obtain ⟨told, started⟩ :=
        (Move.tells_scan_started_iff ⟨s, env, op⟩).2 ⟨triggered, quiet, rfl⟩
      exact ⟨_, told, (powered rfl).2 off, started⟩
  · simp only [run.pushButton_of_comes_up off, run.scanning_of_off off, List.any_eq_true,
      Move.startsScan_iff]

/-- A scan is asked for, and its start is reported when the interface has gone down. -/
def Sample.lateStart : List (Surroundings × Operation) :=
  Sample.hearing ++
    [(Sample.surroundings true, .scan (.request 0)), (Sample.surroundings true, .notify .down),
      (Sample.surroundings true, .notify (.scanTriggered (.ok ())))]

/-- After a late report of a start the interface is down and scanning, and is busy once it is up. -/
theorem scanning_while_off_iff_late :
    let env := Sample.surroundings true
    let s := Sample.station.played Sample.lateStart
    Run Sample.station (Sample.station.play Sample.lateStart) s ∧ s.state = .off ∧
      s.scanning = (whileOff (Sample.station.play Sample.lateStart)).any Move.startsScan ∧
      ∀ r, ((s.step env (.notify .up)).2.station.step env (.pushButton r)).1 = .error .busy := by
  intro env s
  have run : Run Sample.station (Sample.station.play Sample.lateStart) s :=
    Sample.run _ (by simp [Sample.lateStart, Sample.hearing])
  have off : s.state = .off := by decide +kernel
  have scanning : s.scanning = true := by decide +kernel
  obtain ⟨counted, _, refused⟩ := scanning_while_off_iff run
  refine ⟨run, off, counted off, fun r => (refused off env env r).2 ?_⟩
  have started := (counted off).symm.trans scanning
  simpa [Move.startsScan_iff] using started

/-- An interface that is down scans, watchers are told so, and an enrollment is refused for it when
the interface has come up again, although nothing was started since. -/
theorem scanning_after_down :
    let env := Sample.surroundings true
    let late := Sample.station.play Sample.lateStart
    let s := Sample.station.played Sample.lateStart
    let up := Sample.station.played (Sample.lateStart ++ [(env, .notify .up)])
    Run Sample.station late s ∧ s.state = .off ∧ s.scanning = true ∧
      (late.getLast?.map fun m =>
          m.told.map fun t => (t.event, t.shown.powered, t.shown.scanning)) =
        some [(.propertyChanged .scanning, false, true)] ∧
      up.state = .autoconnect ∧
      Sample.failure? (up.step env (.pushButton (.request 1))).1 = some .busy :=
  ⟨Sample.run _ (by simp [Sample.lateStart, Sample.hearing]), by decide +kernel, by decide +kernel,
    by decide +kernel, by decide +kernel, by decide +kernel⟩

end WirelessStation.Station
