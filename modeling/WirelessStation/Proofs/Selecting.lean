import WirelessStation.Proofs.Rekeying
import WirelessStation.Proofs.Timely

/-! # Autoconnect connects where it can

A known network with a best access point that a context can be negotiated for is one that a station
can join (`Joinable`).  Such a network gives a candidate, and the attempt at it can be planned
(`Joinable.candidate`).  A round of attempts goes on until one is accepted, so that it ends in an
attempt if the link layer accepts all (`tryCandidates_begins`).  The one thing that may stand in the
way is a request for an earlier attempt that was disconnected before the link layer told its
outcome: while it waits, the station counts as busy and every candidate is refused
(`station_tryCandidates_busy`).

* `autoconnect_joins`: after a scan with a network that it can join, a station in autoconnect mode
  connects, unless somebody waits for an earlier attempt. -/

namespace WirelessStation

namespace Catalogue

theorem mem_ranked_iff {c : Catalogue} {n : Network} : n ∈ c.ranked ↔ n ∈ c.networks :=
  List.mem_mergeSort

end Catalogue

/-- Every network in range that gives a candidate is among the candidates. -/
theorem Candidate.mem_ofCatalogue {source : CredentialSource} {c : Catalogue} {n : Network}
    {candidate : Candidate} (there : n ∈ c.networks)
    (given : ofNetwork? source n = some candidate) : candidate ∈ ofCatalogue source c := by
  rw [ofCatalogue, List.mem_mergeSort, List.mem_filterMap]
  exact ⟨n, Catalogue.mem_ranked_iff.2 there, given⟩

namespace Station

/-- A network in range that the store knows, with a best access point for which a context can be
negotiated with what the network has to offer. -/
structure Joinable (env : Surroundings) (s : Station) (n : Network) : Prop where
  listed : n ∈ s.catalogue.networks
  known : (n.modifierFrom env.store).isSome = true
  agreed : ∃ best o context, n.best? = some best ∧ s.catalogue.observation? best.address = some o ∧
    Context.negotiate o n.ssid n.security (n.settings env.store) s.address s.ciphers env.lister =
      .ok context

/-- A network that can be joined gives a candidate, and an attempt at it can be planned. -/
theorem Joinable.candidate {env : Surroundings} {s : Station} {n : Network} (h : Joinable env s n)
    (filed : s.catalogue.Filed) :
    ∃ c ∈ Candidate.ofCatalogue env.store s.catalogue, ∃ call,
      Turn.plan env s c.network c.address = .ok call := by
  obtain ⟨best, o, context, first, current, negotiated⟩ := h.agreed
  obtain ⟨modifier, known⟩ := Option.isSome_iff_exists.1 h.known
  have given : Candidate.ofNetwork? env.store n =
      some ⟨scaleRank best.rank modifier, n.path, best.address⟩ := by
    simp [Candidate.ofNetwork?, known, first]
  have has : n.hasAccessPoint best.address = true :=
    List.any_eq_true.2 ⟨best, List.mem_of_mem_head? first, by simp⟩
  refine ⟨_, Candidate.mem_ofCatalogue h.listed given, (o, context), ?_⟩
  exact Turn.plan_eq_ok_iff.2 ⟨n, filed.network?_of_mem h.listed, has, current, negotiated⟩

namespace Turn

variable {t : Turn} {env : Surroundings}

/-- An attempt that can be planned begins, if the station is free and the link layer accepts it. -/
theorem connect_begins (up : t.station.state ≠ .off) (free : t.station.isBusy = false)
    {network : String} {a : Address} {call : Observation × Option Context}
    (planned : plan env t.station network a = .ok call)
    (accepted : env.accepts t.log (.connect call.1 call.2) = true) (r : Option Requester) :
    t.connect env network a r =
      (.ok (), (t.record (.link (.connect call.1 call.2))).begin network a r) := by
  simp [connect, up, free, planned, call_eq, accepted]

/-- A round of attempts with one that can be planned ends in an attempt. -/
theorem tryCandidates_begins (up : t.station.state ≠ .off) (free : t.station.isBusy = false)
    (accepts : ∀ before o context, env.accepts before (.connect o context) = true)
    {l : List Candidate} {c : Candidate} (there : c ∈ l) {call : Observation × Option Context}
    (planned : plan env t.station c.network c.address = .ok call) :
    (t.tryCandidates env l).station.state = .connecting := by
  induction l generalizing t with
  | nil => cases there
  | cons first rest ih =>
    let next := t.update fun s => { s with candidates := rest }
    unfold tryCandidates
    simp only
    rcases next.connect_cases env first.network first.address none with
      refused | ⟨o, context, _, _, _, _, begun⟩
    · -- The first one is refused, so it is not the one that can be planned.
      have later : c ∈ rest := by
        rcases List.mem_cons.1 there with rfl | later
        · have begun := connect_begins (t := next) up free planned (accepts _ _ _) none
          exact absurd (congrArg Prod.fst begun) refused.result_ne_ok
        · exact later
      have same := refused.station_eq
      split
      next t' outcome => exact absurd (congrArg Prod.fst outcome) refused.result_ne_ok
      next e t' outcome =>
        rw [show (connect env first.network first.address none next).2 = t' from
          congrArg Prod.snd outcome] at same
        refine ih ?_ ?_ later ?_
        · rw [same]
          exact up
        · rw [same]
          exact free
        · rw [same]
          exact planned
    · split
      next t' outcome =>
        obtain rfl := congrArg Prod.snd (begun.symm.trans outcome)
        simp
      next e t' outcome => cases congrArg Prod.fst (begun.symm.trans outcome)

theorem selectNext_begins (idle : t.station.state = .autoconnect) (free : t.station.isBusy = false)
    (accepts : ∀ before o context, env.accepts before (.connect o context) = true)
    {c : Candidate} (there : c ∈ t.station.candidates) {call : Observation × Option Context}
    (planned : plan env t.station c.network c.address = .ok call) :
    (t.selectNext env).station.state = .connecting := by
  rw [selectNext, if_pos idle]
  exact tryCandidates_begins (by simp [idle]) free accepts there planned

/-- A busy station refuses every candidate, and does no more than let go of them. -/
theorem station_selectNext_busy (env : Surroundings) (busy : t.station.isBusy = true) :
    ∃ candidates, (t.selectNext env).station = { t.station with candidates } := by
  refine selectNext_induct (P := fun u => ∃ candidates, u.station = { t.station with candidates })
    ?_ ?_ ⟨t.station.candidates, rfl⟩
  · rintro u rest ⟨_, same⟩
    exact ⟨rest, by simp [same]⟩
  · rintro u network a ⟨candidates, same⟩
    rcases u.connect_cases env network a none with refused | ⟨_, _, _, free, _, _, _⟩
    · exact ⟨candidates, refused.station_eq.trans same⟩
    · have still : u.station.isBusy = t.station.isBusy := by rw [same]; rfl
      rw [still, busy] at free
      cases free

/-- All candidates of the catalogue are there to be tried. -/
def refill (env : Surroundings) (t : Turn) : Turn :=
  t.update fun s => { s with candidates := Candidate.ofCatalogue env.store s.catalogue }

@[simp] theorem station_refill (t : Turn) :
    (t.refill env).station =
      { t.station with candidates := Candidate.ofCatalogue env.store t.station.catalogue } := rfl

/-- Handling a scan in autoconnect mode without an enrollment starts a round of attempts at all
candidates. -/
theorem handleScanResults_autoconnect (idle : t.station.state = .autoconnect)
    (alone : t.station.enrollment = none) (observations : List Observation) :
    t.handleScanResults env observations =
      ((t.takeScan env observations).refill env).selectNext env := by
  simp [handleScanResults_eq, refill, isEnrolling, idle, alone]

end Turn

/-- In a run, a station in autoconnect mode is busy exactly if somebody waits for an earlier
attempt. -/
theorem Timely.isBusy_of_autoconnect {s : Station} (h : Timely s) (idle : s.state = .autoconnect) :
    s.isBusy = s.pending.connect.isSome := by
  have none : s.pending.disconnect = none := h.disconnect_eq_none (by simp [idle])
  simp [isBusy, idle, none, State.isConnectedSide]

/-- While somebody waits for an earlier attempt, a station stays in autoconnect mode whatever it
hears. -/
theorem stays_in_autoconnect {s : Station} (idle : s.state = .autoconnect)
    (alone : s.enrollment = none) (waiting : s.pending.connect.isSome = true) (env : Surroundings)
    (observations : List Observation) :
    (s.step env (.notify (.scanResults observations))).2.station.state = .autoconnect := by
  let t : Turn := { station := s }
  let round := (t.takeScan env observations).refill env
  have busy : round.station.isBusy = true := by simp [round, t, isBusy, waiting]
  obtain ⟨_, same⟩ := Turn.station_selectNext_busy env busy
  show (t.handleScanResults env observations).station.state = _
  rw [Turn.handleScanResults_autoconnect idle alone, same]
  simpa [round, t] using idle

/-- Let a station in autoconnect mode, without an enrollment, hear a scan after which its catalogue
holds a network that it can join, and let the link layer accept every attempt.  Then it connects if
nobody waits for the outcome of an earlier attempt, and stays idle while somebody does. -/
theorem autoconnect_joins {i : Interface} {config : Config} {moves : List Move} {s : Station}
    (run : Run (.new i config) moves s) (idle : s.state = .autoconnect)
    (alone : s.enrollment = none) {env : Surroundings} {observations : List Observation}
    (accepts : ∀ before o context, env.accepts before (.connect o context) = true)
    {n : Network}
    (joinable : Joinable env (Turn.takeScan env observations { station := s }).station n) :
    (s.step env (.notify (.scanResults observations))).2.station.state =
      if s.pending.connect.isNone then .connecting else .autoconnect := by
  cases waiting : s.pending.connect with
  | some r => exact stays_in_autoconnect idle alone (by simp [waiting]) env observations
  | none =>
    let t : Turn := { station := s }
    let taken := t.takeScan env observations
    let round := taken.refill env
    have settled : taken.station.catalogue.Settled := by
      rw [Turn.station_takeScan]
      exact run.settled.ingest observations (Turn.pin s) env.store env.now
    obtain ⟨c, there, call, planned⟩ := joinable.candidate settled.toFiled
    have free : round.station.isBusy = false := by
      have same : round.station.isBusy = s.isBusy := by simp [round, taken, t, isBusy]
      rw [same, run.timely.isBusy_of_autoconnect idle, waiting]
      rfl
    show (t.handleScanResults env observations).station.state = .connecting
    rw [Turn.handleScanResults_autoconnect idle alone]
    refine Turn.selectNext_begins ?_ free accepts (c := c) there planned
    simpa [taken, t] using idle

namespace Sample

/-- Every network is known to the store, and the link layer accepts everything. -/
def knowing : Surroundings :=
  { surroundings true with store := ⟨fun _ _ => some 1, fun _ _ => some .unsecured⟩ }

/-- An attempt that was disconnected before the link layer told its outcome. -/
def interrupted : List (Surroundings × Operation) :=
  connecting ++
    [(surroundings true, .disconnect none), (surroundings true, .notify (.disconnectResult true))]

/-- What the sample station hears can be joined. -/
theorem joinable {s : Station}
    (heard : (s.catalogue.networks.map fun n => (n.security, n.best?.map (·.address))) =
      [(.unsecured, some accessPoint)])
    (current : (s.catalogue.observation? accessPoint).isSome = true) :
    ∃ n, Joinable knowing s n := by
  obtain ⟨n, only, same⟩ := List.map_eq_singleton_iff.1 heard
  obtain ⟨security, best⟩ := Prod.mk.inj same
  obtain ⟨p, first, here⟩ := Option.map_eq_some_iff.1 best
  obtain ⟨o, current⟩ := Option.isSome_iff_exists.1 current
  have negotiated (settings : Option Settings) :
      Context.negotiate o n.ssid n.security settings s.address s.ciphers knowing.lister =
        .ok none := by
    simp [Context.negotiate, security]
  exact ⟨n, by simp [only], rfl, p, o, none, first, here ▸ current, negotiated _⟩

end Sample

/-- A station that has heard a known network joins it. -/
theorem autoconnect_joins_heard :
    let s := Sample.station.played Sample.hearing
    (s.step Sample.knowing (.notify (.scanResults [Sample.observation]))).2.station.state =
      .connecting := by
  intro s
  have run := Sample.run Sample.hearing (by simp [Sample.hearing])
  have idle : s.state = .autoconnect := by decide +kernel
  have alone : s.enrollment = none := by
    rw [← Option.not_isSome_iff_eq_none]
    decide +kernel
  have free : s.pending.connect = none := by decide +kernel
  obtain ⟨n, joinable⟩ := Sample.joinable
    (s := (Turn.takeScan Sample.knowing [Sample.observation] { station := s }).station)
    (by decide +kernel) (by decide +kernel)
  rw [autoconnect_joins run idle alone (fun _ _ _ => rfl) joinable, free]
  rfl

/-- Somebody still waits for an attempt that was disconnected: the station hears a known network
that it can join, the link layer would accept every attempt, and yet none is made. -/
theorem autoconnect_waits_for_earlier :
    let s := Sample.station.played Sample.interrupted
    let env := Sample.knowing
    let l := [Sample.observation]
    (∃ moves, Run (.new Sample.interface {}) moves s) ∧ s.state = .autoconnect ∧
      s.enrollment = none ∧
      (∀ before o context, env.accepts before (.connect o context) = true) ∧
      (∃ n, Joinable env (Turn.takeScan env l { station := s }).station n) ∧
      (s.step env (.notify (.scanResults l))).2.station.state ≠ .connecting := by
  intro s env l
  have idle : s.state = .autoconnect := by decide +kernel
  have alone : s.enrollment = none := by
    rw [← Option.not_isSome_iff_eq_none]
    decide +kernel
  have waiting : s.pending.connect.isSome = true := by decide +kernel
  refine ⟨⟨_, Sample.run Sample.interrupted ?_⟩, idle, alone, fun _ _ _ => rfl, ?_, ?_⟩
  · simp [Sample.interrupted, Sample.connecting, Sample.hearing]
  · exact Sample.joinable (by decide +kernel) (by decide +kernel)
  · rw [stays_in_autoconnect idle alone waiting]
    simp

end Station

end WirelessStation
