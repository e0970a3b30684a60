import Mathlib.Data.List.Induction
import WirelessStation.Proofs.Answers
import WirelessStation.Proofs.Calls
import WirelessStation.Proofs.Resetting
import WirelessStation.Proofs.Tidings

/-! # How an enrollment looks for its registrar

An enrollment goes on from the push of the button until whoever asked for it is answered.  As long
as it has no registrar it goes through one cycle after the other, each of which ends with the
results of a scan (`Cycle`): a registrar is found, or more than one, or there is none and the same
scan is asked for again.  Nothing else that is done in a cycle concerns anybody but the watchers of
the catalogue, and in particular no attempt is made at an access point.

* `Move.cycle_of_scanResults`: the results of a scan make one cycle.
* `Move.enrollment_cases`: every operation answers the one who enrolls or keeps the enrollment.
* `enrollment_runs_to_rule`: the main result. -/

namespace WirelessStation

/-- The registrar that a search says, if it says one. -/
def Enrollment.Selection.target? : Enrollment.Selection → Option Address
  | .target a => some a
  | .overlap | .nobody => none

theorem Enrollment.Selection.target?_eq_some_iff {selected : Enrollment.Selection} {a : Address} :
    selected.target? = some a ↔ selected = .target a := by
  cases selected <;> simp [target?]

namespace Station

/-! ### What is done -/

/-- Something done in a turn, other than telling watchers of a change. -/
inductive Deed where
  /-- A call to the link layer, and whether it was accepted. -/
  | called (call : LinkCall) (accepted : Bool)
  | answered (requester : Requester) (result : Result)
  /-- Watchers were told of a registrar. -/
  | found (registrar : Address)
  /-- Something that concerns the store, or someone who is let go. -/
  | other (e : Effect)

/-- Picks out everything done, other than telling watchers of a change. -/
def deeds (env : Surroundings) : Observer Deed where
  pick before
    | .link c => some (.called c (env.accepts before c))
    | .answer r result => some (.answered r result)
    | .announce (.registrarFound a) _ => some (.found a)
    | .announce _ _ => none
    | e => some (.other e)

/-- What the results of a scan lead to while an enrollment has no registrar, from what the search
among them says: what is done, and what becomes of the enrollment. -/
inductive Cycle (r : Requester) (probe : Enrollment.Probe) :
    Enrollment.Selection → List Deed → Option Enrollment.Session → Prop
  | found (a : Address) : Cycle r probe (.target a) [.found a] (some ⟨r, probe, some a, false⟩)
  | overlap : Cycle r probe .overlap [.answered r (.error .sessionOverlap)] none
  | again :
    Cycle r probe .nobody [.called (.scan (.enrolling probe)) true] (some ⟨r, probe, none, true⟩)
  | refused :
    Cycle r probe .nobody
      [.called (.scan (.enrolling probe)) false, .answered r (.error .rejected)] none

/-- A cycle answers the one who enrolls, or the enrollment goes on with what the search says. -/
theorem Cycle.goes_on {r : Requester} {probe : Enrollment.Probe} {selected : Enrollment.Selection}
    {done : List Deed} {kept : Option Enrollment.Session} (h : Cycle r probe selected done kept) :
    (∃ result, .answered r result ∈ done) ∨
      ∃ scanning, kept = some ⟨r, probe, selected.target?, scanning⟩ := by
  cases h with
  | found a => exact .inr ⟨_, rfl⟩
  | again => exact .inr ⟨_, rfl⟩
  | overlap => exact .inl ⟨_, List.mem_singleton_self _⟩
  | refused => exact .inl ⟨_, List.mem_cons_of_mem _ (List.mem_singleton_self _)⟩

/-- An answer among the deeds is an answer. -/
theorem mem_answered_of_deeds {env : Surroundings} {before log : List Effect} {r : Requester}
    {result : Result} (h : .answered r result ∈ (deeds env).picks before log) :
    r ∈ answered.picks before log := by
  induction log generalizing before with
  | nil => cases h
  | cons e rest ih =>
    rw [Observer.picks, List.mem_append] at h ⊢
    rcases h with here | later
    · left
      cases e with
      | answer r' result' => simpa [deeds] using (by simpa [deeds] using here : r = r' ∧ _).1
      | announce event shown => cases event <;> simp [deeds] at here
      | link _ | store _ | drop _ | cleanup _ => simp [deeds] at here
    · exact .inr (ih later)

namespace Turn

variable (t : Turn) (env : Surroundings)

theorem deeds_announce {event : Event} (other : ∀ a, event ≠ .registrarFound a) :
    (t.announce event).picked (deeds env) = t.picked (deeds env) := by
  have silent : (deeds env).pick t.log (.announce event t.station.properties) = none := by
    cases event with
    | registrarFound a => exact absurd rfl (other a)
    | _ => rfl
  rw [announce, picked_record, silent]
  exact List.append_nil _

theorem deeds_announceChanges (changes : List Catalogue.Change) :
    (t.announceChanges changes).picked (deeds env) = t.picked (deeds env) := by
  unfold announceChanges
  induction changes generalizing t with
  | nil => rfl
  | cons c rest ih =>
    rw [List.foldl_cons, ih]
    exact t.deeds_announce env (by cases c <;> simp [Event.ofChange])

/-- What a scan has heard is taken in without any deed. -/
theorem deeds_takeScan (l : List Observation) :
    (t.takeScan env l).picked (deeds env) = t.picked (deeds env) := by
  have told : (t.setScanning false).picked (deeds env) = t.picked (deeds env) := by
    unfold setScanning
    split
    · rfl
    · exact deeds_announce _ env (by simp)
  simpa [takeScan, takeIn, deeds_announceChanges] using told

section Enrolled

variable {session : Enrollment.Session} (enrolling : t.station.enrollment = some session)
  (l : List Observation)

include enrolling

theorem enrollment_takeScan_eq :
    (t.takeScan env l).station.enrollment = some { session with scanning := false } := by
  rw [station_takeScan, enrolling]
  rfl

/-- During an enrollment the results of a scan lead to the search for a registrar and to no other
step. -/
theorem handleScanResults_of_enrolling (up : t.station.state ≠ .off) :
    t.handleScanResults env l =
      (t.takeScan env l).handleRegistrars env (l.filter fun o => o.registrar.isSome) := by
  have goesOn : (t.takeScan env l).station.isEnrolling = true := by
    rw [isEnrolling, t.enrollment_takeScan_eq env enrolling l]
    rfl
  rw [handleScanResults_eq, if_neg up, if_pos goesOn]

/-- Once the enrollment has its registrar, the results of a scan are nothing to it. -/
theorem handleScanResults_of_found (up : t.station.state ≠ .off) (found : session.target ≠ none) :
    t.handleScanResults env l = t.takeScan env l := by
  have enrolled := t.enrollment_takeScan_eq env enrolling l
  rw [t.handleScanResults_of_enrolling env enrolling l up]
  cases (t.takeScan env l).sought_handleRegistrars env (l.filter fun o => o.registrar.isSome) with
  | settled _ same => exact same
  | found there searching _ _ | overlap there searching _ _ =>
    obtain rfl := Option.some.inj (enrolled.symm.trans there)
    exact absurd searching found
  | again there searching _ _ _ | refused there searching _ _ _ =>
    obtain rfl := Option.some.inj (enrolled.symm.trans there)
    exact absurd searching found

end Enrolled

theorem cycle_handleScanResults (up : t.station.state ≠ .off) {r : Requester}
    {probe : Enrollment.Probe} {scanning : Bool}
    (searching : t.station.enrollment = some ⟨r, probe, none, scanning⟩) (l : List Observation) :
    ∃ done, (t.handleScanResults env l).picked (deeds env) = t.picked (deeds env) ++ done ∧
      Cycle r probe (Enrollment.select l) done
        (t.handleScanResults env l).station.enrollment := by
  have taken := t.deeds_takeScan env l
  have enrolled := t.enrollment_takeScan_eq env searching l
  rw [t.handleScanResults_of_enrolling env searching l up, ← Enrollment.select_registrars l]
  generalize (l.filter fun o => o.registrar.isSome) = registrars
  cases (t.takeScan env l).sought_handleRegistrars env registrars with
  | settled done _ => exact absurd rfl (done _ enrolled)
  | @found _ a there _ selected outcome =>
    obtain rfl := Option.some.inj (enrolled.symm.trans there)
    refine ⟨[.found a], ?_, ?_⟩
    · rw [outcome, announce, picked_record, picked_update, taken]
      rfl
    · rw [outcome, selected]
      exact .found a
  | overlap there _ selected outcome =>
    refine ⟨[.answered r (.error .sessionOverlap)], ?_, ?_⟩
    · rw [outcome, picked_endEnrollment, taken, enrolled]
      rfl
    · rw [outcome, selected, station_endEnrollment]
      exact .overlap
  | again there _ selected accepted outcome =>
    obtain rfl := Option.some.inj (enrolled.symm.trans there)
    refine ⟨[.called (.scan (.enrolling probe)) true], ?_, ?_⟩
    · rw [outcome, picked_update, picked_record, taken, ← accepted]
      rfl
    · rw [outcome, selected]
      exact .again
  | refused there _ selected rejected outcome =>
    obtain rfl := Option.some.inj (enrolled.symm.trans there)
    refine ⟨[.called (.scan (.enrolling probe)) false, .answered r (.error .rejected)], ?_, ?_⟩
    · rw [outcome, picked_endEnrollment, picked_record, taken, ← rejected, station_record, enrolled]
      simp [deeds]
    · rw [outcome, selected, station_endEnrollment]
      exact .refused

theorem pushButton_eq_of_ok {r : Requester} (ok : (t.pushButton env r).1 = .ok ()) :
    let probe := Enrollment.Probe.pushButton t.station.address env.namer
    env.accepts t.log (.scan (.enrolling probe)) = true ∧
      (t.pushButton env r).2 =
        (t.record (.link (.scan (.enrolling probe)))).update fun s =>
          { s with enrollment := some ⟨r, probe, none, true⟩ } := by
  intro probe
  unfold pushButton at ok ⊢
  split at ok
  next => cases ok
  next up =>
    split at ok
    next => cases ok
    next free =>
      split at ok
      next => cases ok
      next idle =>
        rw [if_neg up, if_neg free, if_neg idle]
        simp only [call_eq] at ok ⊢
        cases accepted : env.accepts t.log (.scan (.enrolling probe)) with
        | false => simp [accepted, probe, refuse] at ok
        | true => simp [probe]

end Turn

/-! ### One operation -/

/-- The registrar that watchers are told of. -/
def Effect.found? : Effect → Option Address
  | .announce (.registrarFound a) _ => some a
  | _ => none

/-- The registrars that watchers are told of, in order. -/
abbrev founds : Observer Address :=
  .each Effect.found?

instance : founds.OfTidings where
  pick_other before e other := by
    cases e with
    | announce event _ =>
      cases event with
      | registrarFound a => cases other
      | _ => rfl
    | _ => rfl

namespace Move

variable {m : Move}

/-- Only the results of a scan make watchers hear of a registrar. -/
theorem picked_founds_of_other (other : ∀ l, m.op ≠ .notify (.scanResults l)) :
    m.picked founds = [] := by
  have scans := m.before.filterMap_scanTidings (f := Effect.found?) fun _ => rfl
  rw [m.picked_each]
  unfold tidings
  split
  · split
    · rfl
    · exact scans _ _
  · exact scans _ _
  next l results => exact absurd results (other l)
  · exact filterMap_arrival _ (fun _ => rfl) fun _ => rfl
  · rfl

/-- While an enrollment looks for one, they hear of the one that the search among them says. -/
theorem picked_founds_of_scanResults {l : List Observation}
    (results : m.op = .notify (.scanResults l)) (up : m.before.state ≠ .off) :
    m.picked founds =
      if m.before.isSearching then (Enrollment.select l).target?.toList else [] := by
  have scans := m.before.filterMap_scanTidings (f := Effect.found?) fun _ => rfl
  rw [m.picked_each, tidings, results]
  simp only [if_neg up, List.filterMap_append, scans, List.nil_append]
  unfold sighting
  cases Enrollment.select l <;> cases m.before.isSearching <;> rfl

/-- The push of a button that is accepted begins an enrollment with one scan. -/
theorem enrolls_of_pushButton {r : Requester} (pushed : m.op = .pushButton r)
    (accepted : m.result = .ok ()) :
    let probe := Enrollment.Probe.pushButton m.before.address m.env.namer
    m.picked (deeds m.env) = [.called (.scan (.enrolling probe)) true] ∧
      m.after.enrollment = some ⟨r, probe, none, true⟩ := by
  intro probe
  obtain ⟨s, env, op⟩ := m
  obtain rfl : op = .pushButton r := pushed
  obtain ⟨called, begun⟩ := Turn.pushButton_eq_of_ok { station := s } env accepted
  have outcome : (step env (.pushButton r) s).2 = (Turn.pushButton env r { station := s }).2 := rfl
  constructor
  · rw [picked, outcome, begun, Turn.picked_update, Turn.picked_record, ← called]
    rfl
  · rw [after, outcome, begun]
    rfl

/-- The results of a scan make one cycle of an enrollment that has no registrar. -/
theorem cycle_of_scanResults {s : Station} (env : Surroundings) (l : List Observation)
    (up : s.state ≠ .off) {r : Requester} {probe : Enrollment.Probe} {scanning : Bool}
    (searching : s.enrollment = some ⟨r, probe, none, scanning⟩) :
    let m : Move := ⟨s, env, .notify (.scanResults l)⟩
    Cycle r probe (Enrollment.select l) (m.picked (deeds env)) m.after.enrollment := by
  intro m
  obtain ⟨done, picked, cycle⟩ :=
    Turn.cycle_handleScanResults { station := s } env up searching l
  have deeds_eq : m.picked (deeds env) = done := picked
  rw [deeds_eq]
  exact cycle

end Move

namespace Turn

variable (t : Turn) (env : Surroundings)

/-- Ending an enrollment answers the one who asked for it. -/
theorem mem_answered_endEnrollment {session : Enrollment.Session}
    (enrolling : t.station.enrollment = some session) (result : Result) :
    session.requester ∈ (t.endEnrollment result).picked answered := by
  rw [picked_endEnrollment, enrolling]
  simp

/-- Every other operation keeps an enrollment as it is or answers the one who enrolls. -/
theorem enrollment_perform {op : Operation} (live : op ≠ .shutdown)
    (other : ∀ l, op ≠ .notify (.scanResults l)) {session : Enrollment.Session}
    (enrolling : t.station.enrollment = some session) :
    session.requester ∈ (t.perform env op).2.picked answered ∨
      (t.perform env op).2.station.enrollment = some session := by
  cases touches : op.touchesScans with
  | false => exact .inr ((t.scans_perform env live touches).2.trans enrolling)
  | true =>
    cases op with
    | notify notification =>
      cases notification with
      | down =>
        rw [perform, handle, handleDown]
        split
        · exact .inr enrolling
        · rw [picked_announce, picked_setScanning, picked_dropCatalogue]
          exact .inl (mem_answered_endEnrollment _ (by simpa using enrolling) _)
      | scanTriggered result =>
        cases result with
        | ok _ =>
          rw [perform, handle, station_handleScanTriggered]
          exact .inr enrolling
        | error e =>
          rw [perform, handle, handleScanTriggered]
          split
          · exact .inr (by simpa using enrolling)
          · split
            · exact .inl (t.mem_answered_endEnrollment enrolling _)
            · exact .inr enrolling
      | scanResults l => exact absurd rfl (other l)
      | up | renamed _ | connectResult _ | disconnectResult _ | event _ => cases touches
      | powerResult _ => cases touches
    | scan r =>
      rcases t.scan_cases env r with refused | ⟨_, outcome⟩
      · exact .inr ((t.scans_refused env refused).2.trans enrolling)
      · exact .inr (by simpa [perform, outcome] using enrolling)
    | pushButton r =>
      rcases t.pushButton_cases env r with refused | ⟨⟨free, _⟩, _⟩
      · exact .inr ((t.scans_refused env refused).2.trans enrolling)
      · cases free.symm.trans enrolling
    | cancelEnrollment =>
      rcases t.cancelEnrollment_cases env with refused | outcome
      · exact .inr ((t.scans_refused env refused).2.trans enrolling)
      · rw [perform, outcome]
        exact .inl (t.mem_answered_endEnrollment enrolling _)
    | completeEnrollment result =>
      rcases t.completeEnrollment_cases env result with refused | ⟨credentials, _, outcome⟩
      · exact .inr ((t.scans_refused env refused).2.trans enrolling)
      · rw [perform, outcome]
        refine .inl (mem_answered_endEnrollment _ ?_ _)
        rwa [storeCredentials, station_foldl_record]
    | connect _ _ _ | connectNetwork _ _ | disconnect _ | setPowered _ _ => cases touches
    | setSecret _ _ | setAutoconnect _ | selectNext | subscribe _ _ => cases touches
    | unsubscribe _ | shutdown => cases touches

end Turn

/-- Every operation answers the one who enrolls, or it keeps the enrollment, and a registrar that
watchers are told of is the one that the enrollment has from then on. -/
theorem Move.enrollment_cases {m : Move} (live : m.op ≠ .shutdown) (up : m.before.state ≠ .off)
    {session : Enrollment.Session} (enrolling : m.before.enrollment = some session) :
    session.requester ∈ m.picked answered ∨
      ∃ session', m.after.enrollment = some session' ∧ session'.requester = session.requester ∧
        session'.probe = session.probe ∧
        session'.target.toList = session.target.toList ++ m.picked founds := by
  by_cases results : ∃ l, m.op = .notify (.scanResults l)
  · obtain ⟨l, results⟩ := results
    rw [picked_founds_of_scanResults results up, isSearching, enrolling]
    obtain ⟨r, probe, target, scanning⟩ := session
    obtain ⟨s, env, op⟩ := m
    obtain rfl : op = .notify (.scanResults l) := results
    cases target with
    | some a =>
      have kept : (Turn.handleScanResults env l { station := s }).station.enrollment =
          some ⟨r, probe, some a, false⟩ := by
        rw [Turn.handleScanResults_of_found { station := s } env enrolling l up (by simp)]
        exact Turn.enrollment_takeScan_eq { station := s } env enrolling l
      exact .inr ⟨_, kept, rfl, rfl, rfl⟩
    | none =>
      rcases (cycle_of_scanResults env l up enrolling).goes_on with ⟨_, told⟩ | ⟨_, kept⟩
      · exact .inl (mem_answered_of_deeds told)
      · exact .inr ⟨_, kept, rfl, rfl, rfl⟩
  · have other : ∀ l, m.op ≠ .notify (.scanResults l) := fun l h => results ⟨l, h⟩
    rcases Turn.enrollment_perform { station := m.before } m.env live other enrolling with
      told | kept
    · exact .inl told
    · exact .inr ⟨session, kept, rfl, rfl, by rw [picked_founds_of_other other, List.append_nil]⟩

/-! ### Runs -/

variable {i : Interface} {config : Config} {earlier later : List Move} {s : Station}

/-- Nobody enrolls on an interface that is down. -/
theorem Run.up_of_enrolling {moves : List Move} (run : Run (.new i config) moves s)
    {session : Enrollment.Session} (enrolling : s.enrollment = some session) : s.state ≠ .off := by
  intro off
  rw [run.renewed_of_off off] at enrolling
  cases enrolling

/-- From the push of a button until the one who asked for it is answered, there is the enrollment,
and it has the registrar that watchers were told of. -/
theorem Run.enrolling {m : Move} (run : Run (.new i config) (earlier ++ m :: later) s)
    {r : Requester} (pushed : m.op = .pushButton r) (accepted : m.result = .ok ())
    (unanswered : r ∉ answers later) :
    ∃ session, s.enrollment = some session ∧ session.requester = r ∧
      session.probe = .pushButton m.before.address m.env.namer ∧
      session.target.toList = later.flatMap (Move.picked founds) := by
  induction later using List.reverseRecOn generalizing s with
  | nil =>
    obtain ⟨_, _, rfl⟩ := run.of_concat
    exact ⟨_, (Move.enrolls_of_pushButton pushed accepted).2, rfl, rfl, rfl⟩
  | append_singleton later last ih =>
    rw [← List.cons_append, ← List.append_assoc] at run
    obtain ⟨before, live, rfl⟩ := run.of_concat
    have silent : r ∉ answers later ∧ r ∉ last.picked answered := by
      simpa [answers, not_or] using unanswered
    obtain ⟨session, enrolling, rfl, probe, told⟩ := ih before silent.1
    rcases last.enrollment_cases live (before.up_of_enrolling enrolling) enrolling with
      answered | ⟨session', kept, requester, probe', grown⟩
    · exact absurd answered silent.2
    · refine ⟨session', kept, requester, probe'.trans probe, ?_⟩
      rw [grown, told, List.flatMap_append, List.flatMap_singleton]

/-- No report of the link layer makes the station ask for an attempt during an enrollment. -/
theorem Move.asked_of_enrolling {s : Station} (env : Surroundings) (n : Notification)
    (up : s.state ≠ .off) {session : Enrollment.Session}
    (enrolling : s.enrollment = some session) : Move.picked asked ⟨s, env, .notify n⟩ = [] := by
  cases n with
  | scanResults l =>
    show (Turn.handleScanResults env l { station := s }).picked asked = []
    rw [Turn.handleScanResults_of_enrolling { station := s } env enrolling l up,
      Turn.picked_handleRegistrars, Turn.picked_takeScan]
    rfl
  | up | down | renamed _ | scanTriggered _ | connectResult _ | disconnectResult _ | event _ =>
    exact Turn.picked_perform_of_not_mayAttempt { station := s } asked env rfl
  | powerResult _ => exact Turn.picked_perform_of_not_mayAttempt { station := s } asked env rfl

/-- From the push of a button until the one who asked for it is answered, an enrollment runs to
rule.  It begins with one scan, which carries the probe of the interface.  Nothing that the link
layer reports makes the station ask for an attempt.  Watchers are told of one registrar at most, and
of one that the search among all the observations of a scan says.  As long as they have been told of
none, the results of a scan make one cycle: of telling of a registrar, answering that there is more
than one, asking for the first scan again, and answering that this was refused, one is done. -/
theorem enrollment_runs_to_rule {m : Move} (run : Run (.new i config) (earlier ++ m :: later) s)
    {r : Requester} (pushed : m.op = .pushButton r) (accepted : m.result = .ok ())
    (unanswered : r ∉ answers later) (env : Surroundings) (op : Operation) :
    let next : Move := ⟨s, env, op⟩
    let probe := Enrollment.Probe.pushButton m.before.address m.env.namer
    m.picked (deeds m.env) = [.called (.scan (.enrolling probe)) true] ∧
    (∀ n, op = .notify n → next.picked asked = []) ∧
    ((later ++ [next]).flatMap (Move.picked founds)).length ≤ 1 ∧
    (∀ a ∈ next.picked founds, ∃ l, op = .notify (.scanResults l) ∧
      Enrollment.select l = .target a) ∧
    (later.flatMap (Move.picked founds) = [] → ∀ l, op = .notify (.scanResults l) →
      Cycle r probe (Enrollment.select l) (next.picked (deeds env)) next.after.enrollment) := by
  intro next probe
  obtain ⟨⟨_, _, target, scanning⟩, enrolling, rfl, rfl, told⟩ :=
    run.enrolling pushed accepted unanswered
  have up := run.up_of_enrolling enrolling
  have founds_next {l : List Observation} (results : op = .notify (.scanResults l)) :
      next.picked founds =
        if target.isNone then (Enrollment.select l).target?.toList else [] := by
    rw [Move.picked_founds_of_scanResults (m := next) results up, isSearching, enrolling]
    rfl
  have founds_other (other : ¬∃ l, op = .notify (.scanResults l)) : next.picked founds = [] :=
    Move.picked_founds_of_other fun l h => other ⟨l, h⟩
  refine ⟨(Move.enrolls_of_pushButton pushed accepted).1, ?_, ?_, ?_, ?_⟩
  · rintro n rfl
    exact Move.asked_of_enrolling env n up enrolling
  · rw [List.flatMap_append, List.flatMap_singleton, ← told]
    by_cases results : ∃ l, op = .notify (.scanResults l)
    · obtain ⟨l, results⟩ := results
      rw [founds_next results]
      cases target with
      | some a => simp
      | none => cases Enrollment.select l <;> simp [Enrollment.Selection.target?]
    · rw [founds_other results]
      cases target <;> simp
  · intro a there
    by_cases results : ∃ l, op = .notify (.scanResults l)
    · obtain ⟨l, results⟩ := results
      rw [founds_next results] at there
      split at there
      · exact ⟨l, results, Enrollment.Selection.target?_eq_some_iff.1 (Option.mem_toList.1 there)⟩
      · cases there
    · rw [founds_other results] at there
      cases there
  · rintro untold l rfl
    obtain rfl : target = none := by
      rw [untold] at told
      simpa using told
    exact Move.cycle_of_scanResults env l up enrolling

/-- An enrollment whose first scan hears nobody. -/
def Sample.seeking : List (Surroundings × Operation) :=
  Sample.enrolling ++ [(Sample.surroundings true, .notify (.scanResults []))]

/-- The second scan hears of one registrar. -/
theorem enrollment_runs_to_rule_second :
    let env := Sample.surroundings true
    let up := Sample.station.played [(env, .notify .up)]
    let pushed : Move := ⟨up, env, .pushButton (.request 0)⟩
    let heardNobody : Move := ⟨pushed.after, env, .notify (.scanResults [])⟩
    let registrar := Enrollment.Sample.pushed 9 2412 7
    let next : Move := ⟨heardNobody.after, env, .notify (.scanResults [registrar])⟩
    Run Sample.station ([⟨Sample.station, env, .notify .up⟩] ++ pushed :: [heardNobody])
        heardNobody.after ∧
      .request 0 ∉ answers [heardNobody] ∧
      Cycle (.request 0) (.pushButton up.address) (.target registrar.address)
        (next.picked (deeds env)) next.after.enrollment := by
  intro env up pushed heardNobody registrar next
  have run : Run Sample.station ([⟨Sample.station, env, .notify .up⟩] ++ pushed :: [heardNobody])
      heardNobody.after := Sample.run Sample.seeking (by simp [Sample.seeking, Sample.enrolling])
  have accepted : pushed.result = .ok () := Sample.failure?_eq_none.1 (by decide +kernel)
  have unanswered : Requester.request 0 ∉ answers [heardNobody] := by decide +kernel
  have selected : Enrollment.select [registrar] = .target registrar.address := by decide +kernel
  obtain ⟨_, _, _, _, cycle⟩ := enrollment_runs_to_rule run rfl accepted unanswered env next.op
  exact ⟨run, unanswered, selected ▸ cycle (by decide +kernel) [registrar] rfl⟩

end Station

end WirelessStation
