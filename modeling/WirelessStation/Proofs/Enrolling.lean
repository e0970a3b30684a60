import WirelessStation.Proofs.Timely

/-! # Scans for requests and scans of enrollments are kept apart

The link layer reports a scan that could not start without saying whose it was.  A station can tell,
since it never has one for a request and one for an enrollment under way at once, and since an
enrollment scans exactly as long as it has no registrar (`ScansApart`).  The guards of the two
requests that ask for scans keep this up, and so does an enrollment that scans again by itself: it
may do so only because it was scanning, so that nobody else was.

* `ScansApart.perform`: every operation keeps scans apart.
* `Run.awaited`: an enrollment without a registrar waits for a scan that was accepted and of which
  nothing has been reported since.
* `pending_requests_agree`: what all pending requests have to do with the state and each other. -/

namespace WirelessStation.Station

/-! ### Apart -/

/-- Scans for requests and for enrollments are kept apart, and an enrollment scans exactly as long
as it has no registrar. -/
structure ScansApart (s : Station) : Prop where
  apart : ¬(s.pending.scan.isSome = true ∧ s.enrollmentScans = true)
  searching : ∀ session, s.enrollment = some session →
    (session.scanning = true ↔ session.target = none)

theorem enrollmentScans_of_enrollment {s : Station} {session : Enrollment.Session}
    (h : s.enrollment = some session) : s.enrollmentScans = session.scanning := by
  simp [enrollmentScans, h]

theorem enrollmentScans_of_none {s : Station} (h : s.enrollment = none) :
    s.enrollmentScans = false := by
  simp [enrollmentScans, h]

/-- Operations that have to do with a scan that was asked for or with an enrollment. -/
def Operation.touchesScans : Operation → Bool
  | .scan _ | .pushButton _ | .cancelEnrollment | .completeEnrollment _ => true
  | .notify .down | .notify (.scanTriggered _) | .notify (.scanResults _) => true
  | _ => false

namespace Turn

variable (t : Turn) (env : Surroundings)

theorem scans_refused {r : Option Requester} {outcome : Result × Turn}
    (refused : Refused env r t outcome) :
    outcome.2.station.pending.scan = t.station.pending.scan ∧
      outcome.2.station.enrollment = t.station.enrollment := by
  rw [refused.station_eq]
  exact ⟨rfl, rfl⟩

theorem scans_connect (network : String) (a : Address) (r : Option Requester) :
    (t.connect env network a r).2.station.pending.scan = t.station.pending.scan ∧
      (t.connect env network a r).2.station.enrollment = t.station.enrollment := by
  rcases t.connect_cases env network a r with refused | ⟨_, _, _, _, _, _, h⟩
  · exact t.scans_refused env refused
  · simp [h, Pending.set]

theorem scans_selectNext :
    (t.selectNext env).station.pending.scan = t.station.pending.scan ∧
      (t.selectNext env).station.enrollment = t.station.enrollment := by
  refine selectNext_induct (P := fun u => u.station.pending.scan = t.station.pending.scan ∧
    u.station.enrollment = t.station.enrollment) ?_ ?_ ⟨rfl, rfl⟩
  · exact fun u rest same => same
  · intro u network a same
    have tried := u.scans_connect env network a none
    exact ⟨tried.1.trans same.1, tried.2.trans same.2⟩

/-- All other operations leave these alone. -/
theorem scans_perform {op : Operation} (live : op ≠ .shutdown) (quiet : op.touchesScans = false) :
    (t.perform env op).2.station.pending.scan = t.station.pending.scan ∧
      (t.perform env op).2.station.enrollment = t.station.enrollment := by
  cases op with
  | notify notification =>
    cases notification with
    | up =>
      rw [perform, handle, station_handleUp]
      split <;> exact ⟨rfl, rfl⟩
    | renamed name =>
      rw [perform, handle, station_handleRenamed]
      exact ⟨rfl, rfl⟩
    | connectResult outcome =>
      rw [perform, handle, station_handleConnectResult]
      split
      · split <;> exact ⟨rfl, rfl⟩
      · exact ⟨rfl, rfl⟩
    | disconnectResult success =>
      rw [perform, handle, station_handleDisconnectResult]
      split <;> exact ⟨rfl, rfl⟩
    | event event =>
      rw [perform, handle, station_handleLinkEvent]
      split
      case h_5 =>
        rw [station_keepSecret]
        exact ⟨rfl, rfl⟩
      all_goals exact ⟨rfl, rfl⟩
    | powerResult result => simp [perform, handle, handlePowerResult, Pending.set]
    | down | scanTriggered _ | scanResults _ => cases quiet
  | connect network a r => exact t.scans_connect env network a r
  | connectNetwork network r =>
    rcases t.connectNetwork_cases env network r with refused | ⟨a, h⟩
    · exact t.scans_refused env refused
    · rw [perform, h]
      exact t.scans_connect env network a r
  | disconnect r =>
    rcases t.disconnect_cases env r with refused | ⟨_, _, h⟩
    · exact t.scans_refused env refused
    · simp [perform, h, Pending.set]
  | setPowered on r =>
    rcases t.setPowered_cases env on r with refused | h | ⟨_, h⟩
    · exact t.scans_refused env refused
    · simp [perform, h]
    · simp [perform, h, Pending.set]
  | setSecret network settings =>
    rcases t.setSecret_cases env network settings with refused | h
    · exact t.scans_refused env refused
    · simp [perform, h]
  | setAutoconnect enabled =>
    rw [perform, station_setAutoconnect]
    split
    · exact ⟨rfl, rfl⟩
    · split
      · exact ⟨rfl, rfl⟩
      · split <;> exact ⟨rfl, rfl⟩
  | selectNext => exact t.scans_selectNext env
  | subscribe _ _ => exact ⟨rfl, rfl⟩
  | unsubscribe id => simp [perform, unsubscribe, station_foldl_record]
  | shutdown => exact absurd rfl live
  | scan _ | pushButton _ | cancelEnrollment | completeEnrollment _ => cases quiet

end Turn

namespace ScansApart

variable {s s' : Station}

theorem congr (h : ScansApart s)
    (same : s'.pending.scan = s.pending.scan ∧ s'.enrollment = s.enrollment) : ScansApart s' := by
  obtain ⟨scan, enrollment⟩ := same
  refine ⟨?_, ?_⟩
  · rw [scan, enrollmentScans, enrollment]
    exact h.apart
  · rw [enrollment]
    exact h.searching

theorem of_none (h : s.enrollment = none) : ScansApart s :=
  ⟨by simp [enrollmentScans_of_none h], by simp [h]⟩

/-- Where nobody has asked for a scan, an enrollment may scan or not, as long as that agrees with
what it has found. -/
theorem of_session (scan : s.pending.scan = none) {session : Enrollment.Session}
    (enrollment : s.enrollment = some session)
    (searching : session.scanning = true ↔ session.target = none) : ScansApart s := by
  refine ⟨by simp [scan], ?_⟩
  intro _ again
  obtain rfl := Option.some.inj (enrollment.symm.trans again)
  exact searching

/-- While an enrollment looks for a registrar, nobody else has asked for a scan. -/
theorem scan_eq_none (h : ScansApart s) {session : Enrollment.Session}
    (enrolling : s.enrollment = some session) (searching : session.target = none) :
    s.pending.scan = none := by
  have scans : s.enrollmentScans = true := by
    rw [enrollmentScans_of_enrollment enrolling]
    exact (h.searching session enrolling).2 searching
  rw [← Option.not_isSome_iff_eq_none]
  exact fun waiting => h.apart ⟨waiting, scans⟩

end ScansApart

/-- What is left of an enrollment when the results of a scan are in. -/
theorem Turn.enrollment_takeScan (t : Turn) (env : Surroundings) {observations : List Observation}
    {session : Enrollment.Session}
    (h : (t.takeScan env observations).station.enrollment = some session) :
    ∃ old, t.station.enrollment = some old ∧ { old with scanning := false } = session := by
  rwa [Turn.station_takeScan, Option.map_eq_some_iff] at h

/-- Once its scan is over, an enrollment finds a registrar or scans again.  It does so only if it
has found nothing yet, and then nobody else has asked for a scan. -/
theorem ScansApart.handleRegistrars {t : Turn} (env : Surroundings) (registrars : List Observation)
    (quiet : ∀ session, t.station.enrollment = some session → session.scanning = false)
    (free : ∀ session, t.station.enrollment = some session → session.target = none →
      t.station.pending.scan = none) :
    ScansApart (t.handleRegistrars env registrars).station := by
  cases t.sought_handleRegistrars env registrars with
  | settled done same =>
    rw [same]
    refine ⟨?_, ?_⟩
    · rintro ⟨_, scans⟩
      cases enrolling : t.station.enrollment with
      | none => simp [enrollmentScans_of_none enrolling] at scans
      | some session =>
        rw [enrollmentScans_of_enrollment enrolling, quiet session enrolling] at scans
        cases scans
    · intro session enrolling
      simp [quiet session enrolling, done session enrolling]
  | @found session a enrolling searching _ outcome =>
    rw [outcome]
    refine of_session (free session enrolling searching) rfl ?_
    simp [quiet session enrolling]
  | @again session enrolling searching _ _ outcome =>
    rw [outcome]
    refine of_session (free session enrolling searching) rfl ?_
    simp [searching]
  | overlap _ _ _ outcome | refused _ _ _ _ outcome =>
    rw [outcome, Turn.station_endEnrollment]
    exact of_none rfl

namespace ScansApart

variable {t : Turn} (h : ScansApart t.station) (env : Surroundings)

include h

theorem refused {r : Option Requester} {outcome : Result × Turn}
    (refusal : Refused env r t outcome) : ScansApart outcome.2.station := by
  rw [refusal.station_eq]
  exact h

theorem handleScanTriggered (result : Result) :
    ScansApart (t.handleScanTriggered result).station := by
  have answered : ScansApart
      { t.station with pending := { t.station.pending with scan := none } } :=
    ⟨by simp, h.searching⟩
  rw [Turn.station_handleScanTriggered]
  cases result with
  | ok _ => exact answered.congr ⟨rfl, rfl⟩
  | error e =>
    simp only
    split
    · exact answered
    · split
      · exact of_none rfl
      · exact h

theorem handleScanResults (observations : List Observation) :
    ScansApart (t.handleScanResults env observations).station := by
  rw [Turn.handleScanResults_eq]
  split
  next => exact h
  split
  next =>
    refine handleRegistrars env _ ?_ ?_
    · intro session enrolling
      obtain ⟨_, _, rfl⟩ := t.enrollment_takeScan env enrolling
      rfl
    · intro session enrolling searching
      obtain ⟨old, there, rfl⟩ := t.enrollment_takeScan env enrolling
      rw [Turn.station_takeScan]
      exact h.scan_eq_none there searching
  next nobody =>
    have none : (t.takeScan env observations).station.enrollment = none := by
      rwa [isEnrolling, Option.not_isSome_iff_eq_none] at nobody
    split
    · refine of_none ((Turn.scans_selectNext _ env).2.trans ?_)
      exact none
    · exact of_none none

theorem perform (op : Operation) (live : op ≠ .shutdown) :
    ScansApart (t.perform env op).2.station := by
  cases touches : op.touchesScans with
  | false => exact h.congr (t.scans_perform env live touches)
  | true =>
    cases op with
    | notify notification =>
      cases notification with
      | down =>
        rw [Turn.perform, Turn.handle, Turn.station_handleDown]
        split
        · exact h
        · exact of_none rfl
      | scanTriggered result => exact h.handleScanTriggered result
      | scanResults observations => exact h.handleScanResults env observations
      | up | renamed _ | connectResult _ | disconnectResult _ | event _ => cases touches
      | powerResult _ => cases touches
    | scan r =>
      rcases t.scan_cases env r with refusal | ⟨⟨_, quiet⟩, outcome⟩
      · exact h.refused env refusal
      · rw [Turn.perform, outcome, Turn.station_hold]
        refine ⟨?_, h.searching⟩
        rintro ⟨_, scans⟩
        exact absurd (quiet.symm.trans scans) (by simp)
    | pushButton r =>
      rcases t.pushButton_cases env r with refusal | ⟨⟨_, scan⟩, probe, _, outcome⟩
      · exact h.refused env refusal
      · rw [Turn.perform, outcome]
        exact of_session scan rfl (by simp)
    | cancelEnrollment =>
      rcases t.cancelEnrollment_cases env with refusal | outcome
      · exact h.refused env refusal
      · rw [Turn.perform, outcome, Turn.station_endEnrollment]
        exact of_none rfl
    | completeEnrollment outcome =>
      rcases t.completeEnrollment_cases env outcome with refusal | ⟨credentials, result, outcome⟩
      · exact h.refused env refusal
      · rw [Turn.perform, outcome, Turn.station_endEnrollment]
        exact of_none rfl
    | connect _ _ _ | connectNetwork _ _ | disconnect _ | setPowered _ _ => cases touches
    | setSecret _ _ | setAutoconnect _ | selectNext | subscribe _ _ => cases touches
    | unsubscribe _ | shutdown => cases touches

end ScansApart

/-- At every moment of a run scans for requests and for enrollments are kept apart. -/
theorem Run.scansApart {i : Interface} {config : Config} {moves : List Move} {s : Station}
    (run : Run (.new i config) moves s) : ScansApart s := by
  refine run.induct (.of_none rfl) ?_
  intro s env op live h
  exact ScansApart.perform (t := { station := s }) h env op live

/-! ### The scan that an enrollment waits for -/

/-- Picks out the probes of the scans for an enrollment that the link layer accepts. -/
def probed (env : Surroundings) : Observer Enrollment.Probe where
  pick
    | before, .link (.scan request) =>
      if env.accepts before (.scan request) then request.probe else none
    | _, _ => none

instance (env : Surroundings) : (probed env).Overlooks where
  announce _ _ _ := rfl
  periodicScan _ _ := rfl

theorem probed_of_accepted {env : Surroundings} {before : List Effect} {probe : Enrollment.Probe}
    (h : env.accepts before (.scan (.enrolling probe)) = true) :
    (probed env).pick before (.link (.scan (.enrolling probe))) = some probe := by
  have picks : (probed env).pick before (.link (.scan (.enrolling probe))) =
      if env.accepts before (.scan (.enrolling probe)) then some probe else none := rfl
  rw [picks, if_pos h]

namespace Move

/-- The link layer reports that a scan could not start, or what it heard to an interface that is up.
-/
def endsScan (m : Move) : Bool :=
  match m.op with
  | .notify (.scanTriggered (.error _)) => true
  | .notify (.scanResults _) => m.before.state != .off
  | _ => false

variable {m : Move}

theorem endsScan_of_quiet (quiet : m.op.touchesScans = false) : m.endsScan = false := by
  obtain ⟨before, env, op⟩ := m
  cases op with
  | notify notification =>
    cases notification with
    | scanTriggered _ | scanResults _ => cases quiet
    | _ => rfl
  | _ => rfl

end Move

namespace Turn

variable (t : Turn) (env : Surroundings)

/-- A scan that could not start leaves no enrollment that still looks for a registrar. -/
theorem not_searching_of_failed (apart : ScansApart t.station) (e : Error)
    {session : Enrollment.Session}
    (enrolling : (t.handleScanTriggered (.error e)).station.enrollment = some session) :
    session.target ≠ none := by
  intro searching
  rw [station_handleScanTriggered] at enrolling
  simp only at enrolling
  split at enrolling
  next waiting =>
    -- The scan was one that somebody asked for, which is none while an enrollment searches.
    have none := apart.scan_eq_none enrolling searching
    simp [none] at waiting
  next =>
    split at enrolling
    next => cases enrolling
    next idle =>
      rw [enrollmentScans_of_enrollment enrolling] at idle
      exact idle ((apart.searching session enrolling).2 searching)

/-- An enrollment that looks for a registrar once the results of a scan are in has had another scan
accepted for it. -/
theorem probed_of_searching (up : t.station.state ≠ .off) (observations : List Observation)
    {session : Enrollment.Session}
    (enrolling : (t.handleScanResults env observations).station.enrollment = some session)
    (searching : session.target = none) :
    session.probe ∈ (t.handleScanResults env observations).picked (probed env) := by
  rw [handleScanResults_eq, if_neg up] at enrolling ⊢
  let taken := t.takeScan env observations
  split at enrolling
  next enrolls =>
    rw [if_pos enrolls]
    let registrars := observations.filter fun o => o.registrar.isSome
    cases taken.sought_handleRegistrars env registrars with
    | settled done same =>
      rw [same] at enrolling
      exact absurd searching (done session enrolling)
    | found _ _ _ outcome =>
      rw [outcome] at enrolling
      obtain rfl := Option.some.inj enrolling
      cases searching
    | again _ _ _ accepted outcome =>
      rw [outcome] at enrolling ⊢
      obtain rfl := Option.some.inj enrolling
      simp [probed_of_accepted accepted]
    | overlap _ _ _ outcome | refused _ _ _ _ outcome =>
      rw [outcome, station_endEnrollment] at enrolling
      cases enrolling
  next nobody =>
    have none : taken.station.enrollment = none := by
      rwa [isEnrolling, Option.not_isSome_iff_eq_none] at nobody
    split at enrolling
    · rw [(scans_selectNext _ env).2] at enrolling
      cases none.symm.trans enrolling
    · cases none.symm.trans enrolling

end Turn

/-- An enrollment that looks for a registrar after a move has had a scan accepted for it in the
move, or it was there before and the link layer has not reported the end of its scan. -/
theorem Move.searching_cases {m : Move} (live : m.op ≠ .shutdown) (apart : ScansApart m.before)
    {session : Enrollment.Session} (enrolling : m.after.enrollment = some session)
    (searching : session.target = none) :
    session.probe ∈ m.picked (probed m.env) ∨
      (m.before.enrollment = some session ∧ m.endsScan = false) := by
  obtain ⟨s, env, op⟩ := m
  let t : Turn := { station := s }
  have enrolling : (t.perform env op).2.station.enrollment = some session := enrolling
  have kept {r : Option Requester} {outcome : Result × Turn} (refusal : Refused env r t outcome)
      (there : outcome.2.station.enrollment = some session) : s.enrollment = some session :=
    (t.scans_refused env refusal).2.symm.trans there
  cases touches : op.touchesScans with
  | false =>
    have same := (t.scans_perform env live touches).2
    exact .inr ⟨same.symm.trans enrolling, endsScan_of_quiet touches⟩
  | true =>
    cases op with
    | notify notification =>
      cases notification with
      | down =>
        rw [Turn.perform, Turn.handle, Turn.station_handleDown] at enrolling
        split at enrolling
        · exact .inr ⟨enrolling, rfl⟩
        · cases enrolling
      | scanTriggered result =>
        cases result with
        | ok _ =>
          rw [Turn.perform, Turn.handle, Turn.station_handleScanTriggered] at enrolling
          exact .inr ⟨enrolling, rfl⟩
        | error e => exact absurd searching (t.not_searching_of_failed apart e enrolling)
      | scanResults observations =>
        by_cases off : s.state = .off
        · refine .inr ⟨?_, by simp [endsScan, off]⟩
          simpa [Turn.perform, Turn.handle, Turn.handleScanResults, t, off] using enrolling
        · exact .inl (t.probed_of_searching env off observations enrolling searching)
      | up | renamed _ | connectResult _ | disconnectResult _ | event _ => cases touches
      | powerResult _ => cases touches
    | scan r =>
      rcases t.scan_cases env r with refusal | ⟨_, outcome⟩
      · exact .inr ⟨kept refusal enrolling, rfl⟩
      · rw [Turn.perform, outcome, Turn.station_hold] at enrolling
        exact .inr ⟨enrolling, rfl⟩
    | pushButton r =>
      rcases t.pushButton_cases env r with refusal | ⟨_, probe, accepted, outcome⟩
      · exact .inr ⟨kept refusal enrolling, rfl⟩
      · rw [Turn.perform, outcome] at enrolling
        obtain rfl := Option.some.inj enrolling
        left
        show probe ∈ (t.pushButton env r).2.picked (probed env)
        simp [outcome, probed_of_accepted accepted]
    | cancelEnrollment =>
      rcases t.cancelEnrollment_cases env with refusal | outcome
      · exact .inr ⟨kept refusal enrolling, rfl⟩
      · rw [Turn.perform, outcome, Turn.station_endEnrollment] at enrolling
        cases enrolling
    | completeEnrollment outcome =>
      rcases t.completeEnrollment_cases env outcome with refusal | ⟨credentials, result, outcome⟩
      · exact .inr ⟨kept refusal enrolling, rfl⟩
      · rw [Turn.perform, outcome, Turn.station_endEnrollment] at enrolling
        cases enrolling
    | connect _ _ _ | connectNetwork _ _ | disconnect _ | setPowered _ _ => cases touches
    | setSecret _ _ | setAutoconnect _ | selectNext | subscribe _ _ => cases touches
    | unsubscribe _ | shutdown => cases touches

/-- An enrollment that looks for a registrar waits for a scan: one was accepted for it, and since
then the link layer has not reported the end of a scan. -/
theorem Run.awaited {i : Interface} {config : Config} {moves : List Move} {s : Station}
    (run : Run (.new i config) moves s) {session : Enrollment.Session}
    (enrolling : s.enrollment = some session) (searching : session.target = none) :
    ∃ earlier m later, moves = earlier ++ m :: later ∧ session.probe ∈ m.picked (probed m.env) ∧
      ∀ m' ∈ later, m'.endsScan = false := by
  induction run with
  | start => cases enrolling
  | @move moves s run env op live ih =>
    let last : Move := ⟨s, env, op⟩
    have apart := run.scansApart
    rcases last.searching_cases live apart enrolling searching with accepted | ⟨there, quiet⟩
    · exact ⟨moves, last, [], rfl, accepted, by simp⟩
    · obtain ⟨earlier, m, later, rfl, accepted, silent⟩ := ih there
      refine ⟨earlier, m, later ++ [last], by simp [last], accepted, ?_⟩
      rw [List.forall_mem_append, List.forall_mem_singleton]
      exact ⟨silent, quiet⟩

/-! ### Pending requests -/

/-- Everyone who waits for a scan to start, or for the results of one. -/
def scanRequesters (s : Station) : List Requester :=
  s.pending.scan.toList ++ (s.enrollment.filter (·.scanning)).toList.map (·.requester)

/-- While scans are kept apart, one at most waits for a scan. -/
theorem length_scanRequesters {s : Station} (apart : ScansApart s) :
    s.scanRequesters.length ≤ 1 := by
  unfold scanRequesters
  cases enrolling : s.enrollment.filter (·.scanning) with
  | none => cases s.pending.scan <;> simp
  | some session =>
    obtain ⟨there, scans⟩ := Option.filter_eq_some_iff.1 enrolling
    have alone : s.pending.scan = none :=
      apart.scan_eq_none there ((apart.searching session there).1 scans)
    simp [alone]

/-- A scan that fails to start is answered to everyone whose scan it may be. -/
theorem log_failedScan {s : Station} (apart : ScansApart s) (env : Surroundings) (e : Error) :
    (s.step env (.notify (.scanTriggered (.error e)))).2.log =
      s.scanRequesters.map fun r => .answer r (.error e) := by
  show (Turn.handleScanTriggered (.error e) { station := s }).log = _
  unfold Turn.handleScanTriggered scanRequesters
  cases waiting : s.pending.scan with
  | some r =>
    have quiet : s.enrollment.filter (·.scanning) = none := by
      rw [Option.filter_eq_none_iff]
      intro session there scans
      have alone := apart.scan_eq_none there ((apart.searching session there).1 scans)
      simp [alone] at waiting
    simp [quiet, Turn.reply, Pending.get, waiting]
  | none =>
    cases enrolling : s.enrollment with
    | none => simp [enrollmentScans, enrolling]
    | some session =>
      cases scans : session.scanning with
      | true => simp [enrollmentScans, Turn.endEnrollment, Option.filter, enrolling, scans]
      | false => simp [enrollmentScans, enrolling, scans]

/-- At every moment of a run the pending requests agree with the state and with each other: one for
a disconnect waits only while the station disconnects, one for a connection never while the
interface is off or connected, one for a scan never beside an enrollment that scans, and an
enrollment scans exactly while it has no registrar.  So a scan that fails to start is one that one
requester at most waits for, who gets the answer, and an enrollment without a registrar waits for a
scan that was accepted and whose end the link layer has not reported. -/
theorem pending_requests_agree {i : Interface} {config : Config} {moves : List Move} {s : Station}
    (run : Run (.new i config) moves s) :
    (s.pending.disconnect.isSome → s.state = .disconnecting) ∧
      (s.pending.connect.isSome → s.state ≠ .off ∧ s.state ≠ .connected) ∧
      ¬(s.pending.scan.isSome ∧ s.enrollmentScans) ∧
      (∀ session, s.enrollment = some session → (session.scanning ↔ session.target = none)) ∧
      (s.scanRequesters.length ≤ 1 ∧ ∀ env e,
        (s.step env (.notify (.scanTriggered (.error e)))).2.log =
          s.scanRequesters.map fun r => .answer r (.error e)) ∧
      (∀ session, s.enrollment = some session → session.target = none →
        ∃ earlier m later, moves = earlier ++ m :: later ∧
          session.probe ∈ m.picked (probed m.env) ∧ ∀ m' ∈ later, m'.endsScan = false) := by
  have timely := run.timely
  have apart := run.scansApart
  refine ⟨timely.disconnect_waits, timely.connect_waits, apart.apart, apart.searching,
    ⟨length_scanRequesters apart, log_failedScan apart⟩, ?_⟩
  intro session enrolling searching
  exact run.awaited enrolling searching

/-- An enrollment that has just begun. -/
def Sample.enrolling : List (Surroundings × Operation) :=
  [(surroundings true, .notify .up), (surroundings true, .pushButton (.request 0))]

/-- An enrollment whose scan fails to start. -/
theorem pending_requests_agree_enrolling :
    let s := Sample.station.played Sample.enrolling
    let env := Sample.surroundings true
    s.enrollmentScans = true ∧ s.pending.scan = none ∧
      (s.step env (.notify (.scanTriggered (.error .rejected)))).2.log.length = 1 := by
  intro s env
  have scans : s.enrollmentScans = true := by decide +kernel
  have waiting : s.scanRequesters = [.request 0] := by decide +kernel
  have run := Sample.run Sample.enrolling (by simp [Sample.enrolling])
  obtain ⟨_, _, apart, _, ⟨_, failed⟩, _⟩ := pending_requests_agree run
  refine ⟨scans, ?_, ?_⟩
  · rw [← Option.not_isSome_iff_eq_none]
    exact fun held => apart ⟨held, scans⟩
  · rw [failed, List.length_map, waiting, List.length_singleton]

end WirelessStation.Station
