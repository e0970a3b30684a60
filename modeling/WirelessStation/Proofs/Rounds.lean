import WirelessStation.Proofs.Selecting

/-! # Candidates are tried in their order

A round goes through the candidates of autoconnect until the link layer accepts an attempt.  The
candidates before that one are refused (`Refusals`), each in its turn and with nothing changed but
that it has left the queue.  Candidates never outlive the scan that they come from: whatever happens
to the catalogue of a station, the candidates that are left have their place in it (`Queued`).  So
each of them is refused because the station is busy, because there is no context for it or because
the link layer does not want it, and never because it cannot be found.

* `selectNext_first_accepted`: a round ends with the first candidate that is accepted, or with an
  empty queue and everything else as it was. -/

namespace WirelessStation

namespace Catalogue

/-- An access point that a network lists has its place with it. -/
theorem Filed.places {c : Catalogue} (h : c.Filed) {n : Network} (there : n ∈ c.networks)
    {p : AccessPoint} (listed : p ∈ n.accessPoints) : c.Places n.path p.address := by
  obtain ⟨o, heard, same⟩ := (h.networks n there).current p listed
  have has : n.hasAccessPoint p.address = true := List.any_eq_true.2 ⟨p, listed, by simp⟩
  refine ⟨⟨n, h.network?_of_mem there, has⟩, ?_⟩
  have address : o.address = p.address := congrArg AccessPoint.address same
  rw [← address, h.observation?_of_mem heard]
  rfl

end Catalogue

/-- A candidate is the best access point of a network in range. -/
theorem Candidate.exists_of_mem_ofCatalogue {source : CredentialSource} {c : Catalogue}
    {candidate : Candidate} (h : candidate ∈ ofCatalogue source c) :
    ∃ n ∈ c.networks, ∃ best, n.best? = some best ∧ candidate.network = n.path ∧
      candidate.address = best.address := by
  rw [ofCatalogue, List.mem_mergeSort, List.mem_filterMap] at h
  obtain ⟨n, there, given⟩ := h
  unfold ofNetwork? at given
  split at given
  next modifier best _ first =>
    obtain rfl := Option.some.inj given
    exact ⟨n, Catalogue.mem_ranked_iff.1 there, best, first, rfl, rfl⟩
  next => cases given

theorem Candidate.places_of_mem_ofCatalogue {source : CredentialSource} {c : Catalogue}
    (filed : c.Filed) {candidate : Candidate} (h : candidate ∈ ofCatalogue source c) :
    c.Places candidate.network candidate.address := by
  obtain ⟨n, there, best, first, network, address⟩ := exists_of_mem_ofCatalogue h
  rw [network, address]
  exact filed.places there (List.mem_of_mem_head? first)

/-- Networks that are in the order of their ranks give their candidates in this order, if the weights
agree with it. -/
theorem Candidate.ofCatalogue_eq {source : CredentialSource} {c : Catalogue}
    (ranked : c.networks.Pairwise fun a b => b.rank ≤ a.rank)
    (weighted : (c.networks.filterMap (ofNetwork? source)).Pairwise fun a b => b.weight ≤ a.weight) :
    ofCatalogue source c = c.networks.filterMap (ofNetwork? source) := by
  have sorted : c.ranked = c.networks := (eq_mergeSort_key ranked fun _ => rfl).symm
  rw [ofCatalogue, sorted]
  exact (eq_mergeSort_key weighted fun _ => rfl).symm

namespace Station

/-! ### The candidates that are left -/

/-- Every candidate that is left is an access point of a network in range. -/
def Queued (s : Station) : Prop :=
  ∀ c ∈ s.candidates, s.catalogue.Places c.network c.address

namespace Queued

variable {s s' : Station}

theorem of_none (h : s.candidates = []) : Queued s := by
  intro c hc
  rw [h] at hc
  cases hc

/-- Candidates may leave, and the catalogue may change in any way that keeps the others in their
place. -/
theorem of_places (h : Queued s) (left : ∀ c ∈ s'.candidates, c ∈ s.candidates)
    (kept : ∀ network a, s.catalogue.Places network a → s'.catalogue.Places network a) :
    Queued s' :=
  fun c hc => kept _ _ (h c (left c hc))

theorem congr (h : Queued s) (candidates : s'.candidates = s.candidates)
    (catalogue : s'.catalogue = s.catalogue) : Queued s' := by
  refine h.of_places ?_ ?_
  · rw [candidates]
    exact fun c hc => hc
  · rw [catalogue]
    exact fun network a placed => placed

/-- An attempt failed. -/
theorem connectFailed (h : Queued s) (network : String) (candidates : s'.candidates = s.candidates)
    (catalogue : s'.catalogue = s.catalogue.modify network Network.connectFailed) : Queued s' := by
  refine h.of_places ?_ ?_
  · rw [candidates]
    exact fun c hc => hc
  · rw [catalogue]
    intro other a placed
    refine placed.modify ?_ ?_
    · exact fun n hn => by simpa using hn
    · exact fun n _ has => by simpa using has

end Queued

namespace Queued

variable {t : Turn} (h : Queued t.station) (env : Surroundings)

include h

theorem refused {r : Option Requester} {outcome : Result × Turn}
    (refusal : Refused env r t outcome) : Queued outcome.2.station := by
  rw [refusal.station_eq]
  exact h

theorem connect (network : String) (a : Address) (r : Option Requester) :
    Queued (t.connect env network a r).2.station := by
  rcases t.connect_cases env network a r with refusal | ⟨_, _, _, _, _, _, outcome⟩
  · exact h.refused env refusal
  · rw [outcome]
    exact h.congr (by simp) (by simp)

end Queued

/-- The candidates that a station tries are left one after the other. -/
theorem Queued.tryCandidates {t : Turn} (env : Surroundings) {l : List Candidate}
    (h : ∀ c ∈ l, t.station.catalogue.Places c.network c.address) :
    Queued (t.tryCandidates env l).station := by
  induction l generalizing t with
  | nil => exact .of_none rfl
  | cons c rest ih =>
    let next := t.update fun s => { s with candidates := rest }
    have queued : Queued next.station := fun c hc => h c (List.mem_cons_of_mem _ hc)
    have tried := queued.connect env c.network c.address none
    have catalogue := next.catalogue_connect env c.network c.address none
    unfold Turn.tryCandidates
    simp only
    split
    next t' outcome => rwa [outcome] at tried
    next e t' outcome =>
      rw [outcome] at catalogue
      refine ih fun c hc => ?_
      rw [catalogue]
      exact h c (List.mem_cons_of_mem _ hc)

namespace Queued

variable {t : Turn} (h : Queued t.station) (env : Surroundings)

include h

theorem selectNext : Queued (t.selectNext env).station := by
  unfold Turn.selectNext
  split
  · exact tryCandidates env h
  · exact h

/-- What is left of an earlier scan goes, and the candidates of the new one are tried at once. -/
theorem handleScanResults (filed : t.station.catalogue.Settled) (observations : List Observation) :
    Queued (t.handleScanResults env observations).station := by
  have none : Queued (t.takeScan env observations).station := of_none (by simp)
  rw [Turn.handleScanResults_eq]
  split
  · exact h
  · split
    · rw [Turn.station_handleRegistrars]
      exact none.congr rfl rfl
    · split
      · refine selectNext (fun c hc => ?_) env
        refine Candidate.places_of_mem_ofCatalogue ?_ hc
        rw [Turn.station_update, Turn.station_takeScan]
        exact (filed.ingest observations (Turn.pin t.station) env.store env.now).toFiled
      · exact none

omit env in
theorem handleConnectResult (outcome : Outcome) :
    Queued (t.handleConnectResult outcome).station := by
  rw [Turn.station_handleConnectResult]
  split
  next =>
    split
    next => exact h.congr rfl rfl
    next => exact h.congr rfl rfl
    next => exact h.congr rfl rfl
    next c _ => exact h.connectFailed c.network rfl rfl
    next c _ => exact h.connectFailed c.network rfl rfl
  next => exact h.congr rfl rfl

omit env in
theorem keepSecret (network : String) : Queued (t.keepSecret network).station := by
  rw [Turn.station_keepSecret]
  refine h.of_places (fun c hc => hc) fun other a placed => ?_
  cases found : t.station.catalogue.network? network with
  | none => exact placed
  | some n =>
    refine placed.modify ?_ ?_
    · intro _ _
      rw [Network.path_syncCredentials]
      exact Catalogue.path_of_network? found
    · intro n' found' has
      obtain rfl : n = n' := Option.some.inj (found.symm.trans found')
      rwa [Network.hasAccessPoint_syncCredentials]

omit env in
theorem handleLinkEvent (event : LinkEvent) : Queued (t.handleLinkEvent event).station := by
  rw [Turn.station_handleLinkEvent]
  split
  next => exact h
  next => exact h
  next => exact h
  next => exact h
  next c _ => exact h.keepSecret c.network
  next => exact h.congr rfl rfl
  next c _ =>
    split
    · exact h.connectFailed c.network rfl rfl
    · exact h.congr rfl rfl

omit env in
theorem setAutoconnect (enabled : Bool) : Queued (t.setAutoconnect enabled).station := by
  rw [Turn.station_setAutoconnect]
  split
  next => exact h
  split
  next => exact h.congr rfl rfl
  split
  next => exact of_none rfl
  next => exact h.congr rfl rfl

/-- No operation leaves a candidate without its place in the catalogue. -/
theorem perform (filed : t.station.catalogue.Settled) (op : Operation) (live : op ≠ .shutdown) :
    Queued (t.perform env op).2.station := by
  cases aside : op.isAside with
  | true =>
    rw [t.station_aside env aside]
    exact h.congr rfl rfl
  | false =>
    cases op with
    | notify notification =>
      cases notification with
      | up =>
        rw [Turn.perform, Turn.handle, Turn.station_handleUp]
        split
        · exact h.congr rfl rfl
        · exact h
      | down =>
        rw [Turn.perform, Turn.handle, Turn.station_handleDown]
        split
        · exact h
        · exact of_none rfl
      | scanResults observations => exact h.handleScanResults env filed observations
      | connectResult outcome => exact h.handleConnectResult outcome
      | disconnectResult success =>
        rw [Turn.perform, Turn.handle, Turn.station_handleDisconnectResult]
        split
        · exact h.congr rfl rfl
        · exact h.congr rfl rfl
      | event event => exact h.handleLinkEvent event
      | renamed _ | scanTriggered _ | powerResult _ => cases aside
    | connect network a r => exact h.connect env network a r
    | connectNetwork network r =>
      rcases t.connectNetwork_cases env network r with refusal | ⟨a, outcome⟩
      · exact h.refused env refusal
      · rw [Turn.perform, outcome]
        exact h.connect env network a r
    | disconnect r =>
      rcases t.disconnect_cases env r with refusal | ⟨_, _, outcome⟩
      · exact h.refused env refusal
      · rw [Turn.perform, outcome]
        exact h.congr (by simp) (by simp)
    | setSecret network settings =>
      rcases t.setSecret_cases env network settings with refusal | outcome
      · exact h.refused env refusal
      · rw [Turn.perform, outcome]
        refine h.of_places (fun c hc => hc) fun other a placed => ?_
        refine placed.modify ?_ ?_
        · exact fun n hn => by simpa using hn
        · exact fun n _ has => by simpa using has
    | setAutoconnect enabled => exact h.setAutoconnect enabled
    | selectNext => exact h.selectNext env
    | shutdown => exact absurd rfl live
    | scan _ | setPowered _ _ | pushButton _ | subscribe _ _ | unsubscribe _ => cases aside
    | cancelEnrollment | completeEnrollment _ => cases aside

end Queued

/-- At every moment of a run the candidates that are left have their place in the catalogue. -/
theorem Run.queued {i : Interface} {config : Config} {moves : List Move} {s : Station}
    (run : Run (.new i config) moves s) : Queued s := by
  have both : s.catalogue.Settled ∧ Queued s := by
    induction run with
    | start => exact ⟨.new _, .of_none rfl⟩
    | move run env op live ih =>
      refine ⟨(run.move env op live).settled, ?_⟩
      exact Queued.perform (t := { station := _ }) ih.2 env ih.1 op live
  exact both.2

/-! ### Rounds -/

/-- The turn of the next candidate, when these are left. -/
def Turn.leave (left : List Candidate) (t : Turn) : Turn :=
  t.update fun s => { s with candidates := left }

@[simp] theorem Turn.station_leave (left : List Candidate) (t : Turn) :
    (t.leave left).station = { t.station with candidates := left } := rfl

@[simp] theorem Turn.log_leave (left : List Candidate) (t : Turn) : (t.leave left).log = t.log := rfl

/-- Candidates that are tried one after the other, from a turn to a later one.  Each is the first in
the queue, leaves it, is passed to an attempt that nobody asked for, and is refused. -/
inductive Refusals (env : Surroundings) : Turn → List (Candidate × Error) → Turn → Prop
  | nil (t : Turn) : Refusals env t [] t
  | cons {t u t' : Turn} {c : Candidate} {left : List Candidate} {e : Error}
      {refused : List (Candidate × Error)} (first : t.station.candidates = c :: left)
      (failed : (t.leave left).connect env c.network c.address none = (.error e, u))
      (on : Refusals env u refused t') : Refusals env t ((c, e) :: refused) t'

/-- An attempt that fails for a candidate changes nothing. -/
theorem Turn.station_connect_of_error {env : Surroundings} {t u : Turn} {network : String}
    {a : Address} {e : Error} (failed : t.connect env network a none = (.error e, u)) :
    u.station = t.station := by
  rcases t.connect_cases env network a none with refused | ⟨_, _, _, _, _, _, begun⟩
  · have same := refused.station_eq
    rwa [failed] at same
  · rw [failed] at begun
    cases congrArg Prod.fst begun

/-- An access point that has its place in the catalogue is not one that cannot be found. -/
theorem Turn.error_ne_notFound {env : Surroundings} {t u : Turn} {network : String} {a : Address}
    {e : Error} (placed : t.station.catalogue.Places network a)
    (failed : t.connect env network a none = (.error e, u)) : e ≠ .notFound := by
  have planned : plan env t.station network a ≠ .error .notFound := by
    obtain ⟨n, found, has⟩ := placed.listed
    obtain ⟨o, current⟩ := Option.isSome_iff_exists.1 placed.observed
    simp only [plan, found, has, current, Bool.not_true, Bool.false_eq_true, if_false]
    apply map_ne_error
    apply Turn.negotiate_ne rfl
  rintro rfl
  unfold connect at failed
  split at failed
  next => cases congrArg Prod.fst failed
  split at failed
  next => cases congrArg Prod.fst failed
  split at failed
  next e' unplanned =>
    have same : e' = .notFound := by simpa [refuse] using congrArg Prod.fst failed
    rw [same] at unplanned
    exact planned unplanned
  next =>
    simp only [call_eq] at failed
    split at failed
    next => cases congrArg Prod.fst failed
    next => cases congrArg Prod.fst failed

namespace Refusals

variable {env : Surroundings} {t t' : Turn} {refused : List (Candidate × Error)}

/-- The candidates that were refused came first in the queue, and nothing changed but that they
left it. -/
theorem station_eq (h : Refusals env t refused t') :
    ∃ left, t.station.candidates = refused.map Prod.fst ++ left ∧
      t'.station = { t.station with candidates := left } := by
  induction h with
  | nil t => exact ⟨t.station.candidates, rfl, rfl⟩
  | @cons t u t' c left e refused first failed _ ih =>
    have same := Turn.station_connect_of_error failed
    obtain ⟨left', queue, station⟩ := ih
    rw [same, Turn.station_leave] at queue station
    refine ⟨left', ?_, station⟩
    rw [first, List.map_cons, List.cons_append, ← queue]

/-- None of them was refused because it could not be found. -/
theorem ne_notFound (h : Refusals env t refused t') (queued : Queued t.station) :
    ∀ r ∈ refused, r.2 ≠ .notFound := by
  induction h with
  | nil t => simp
  | @cons t u t' c left e refused first failed _ ih =>
    have placed : ∀ d ∈ c :: left, t.station.catalogue.Places d.network d.address := by
      rw [← first]
      exact queued
    have later : Queued u.station := by
      rw [Turn.station_connect_of_error failed]
      exact fun d hd => placed d (List.mem_cons_of_mem _ hd)
    intro r hr
    rcases List.mem_cons.1 hr with rfl | hr
    · exact Turn.error_ne_notFound (t := t.leave left) (placed c (List.mem_cons_self ..)) failed
    · exact ih later r hr

/-- All that is done meanwhile is one call to the link layer for each candidate that it rejects. -/
theorem log_eq (h : Refusals env t refused t') :
    ∃ calls : List LinkCall, t'.log = t.log ++ calls.map .link ∧
      calls.length = (refused.map Prod.snd).count .rejected := by
  induction h with
  | nil t => exact ⟨[], by simp, rfl⟩
  | @cons t u t' c left e refused first failed _ ih =>
    obtain ⟨calls, later, many⟩ := ih
    have refusal : Refused env none (t.leave left) (.error e, u) := by
      rw [← failed]
      let attempt : Operation := .connect c.network c.address none
      have outcome : (Turn.perform env attempt (t.leave left)).1 = .error e :=
        congrArg Prod.fst failed
      exact Turn.refused_of_error outcome
    obtain ⟨first, here, late, early⟩ := refusal.log_eq rfl
    refine ⟨first ++ calls, ?_, ?_⟩
    · rw [later, here]
      simp
    · rw [List.map_cons, List.count_cons, List.length_append, many]
      by_cases rejected : e = .rejected
      · obtain ⟨call, only, _⟩ := late rejected
        simp [only, rejected, Nat.add_comm]
      · simp [early rejected, rejected]

end Refusals

/-- The candidates are tried until one is accepted or none is left. -/
theorem Turn.tryCandidates_round (env : Surroundings) {l : List Candidate} {t : Turn}
    (queue : t.station.candidates = l) :
    ∃ refused u, Refusals env t refused u ∧
      ((u.station.candidates = [] ∧ t.tryCandidates env l = u.leave []) ∨
        ∃ c left, u.station.candidates = c :: left ∧
          (u.leave left).connect env c.network c.address none = (.ok (), t.tryCandidates env l)) := by
  induction l generalizing t with
  | nil => exact ⟨[], t, .nil t, .inl ⟨queue, rfl⟩⟩
  | cons c left ih =>
    unfold tryCandidates
    simp only
    split
    next t' accepted => exact ⟨[], t, .nil t, .inr ⟨c, left, queue, accepted⟩⟩
    next e t' failed =>
      have same : t'.station = (t.leave left).station := station_connect_of_error failed
      obtain ⟨refused, u, on, ended⟩ := ih (t := t') (by rw [same]; rfl)
      exact ⟨(c, e) :: refused, u, .cons queue failed on, ended⟩

/-- An attempt that is accepted for a candidate is under way. -/
theorem Turn.station_connect_of_ok {env : Surroundings} {t u : Turn} {network : String}
    {a : Address} (accepted : t.connect env network a none = (.ok (), u)) :
    u.station.state = .connecting ∧ u.station.connection = some ⟨network, a⟩ ∧
      u.station.candidates = t.station.candidates := by
  rcases t.connect_cases env network a none with refused | ⟨_, _, _, _, _, _, begun⟩
  · exact absurd (congrArg Prod.fst accepted) refused.result_ne_ok
  · obtain rfl := congrArg Prod.snd (accepted.symm.trans begun)
    simp

/-- At every moment of a run each candidate that is left has its place in the catalogue.  In
autoconnect mode a round of attempts refuses some first candidates in their order, none of them
because it could not be found: nothing changes but that they leave the queue, and all that is done
is one call to the link layer for each that it rejects.  Then either no candidate is left, or the
next one is accepted, the station is connecting to it and the queue holds those after it.  In every
other state nothing happens. -/
theorem selectNext_first_accepted {i : Interface} {config : Config} {moves : List Move}
    {s : Station} (run : Run (.new i config) moves s) (env : Surroundings) :
    let after := (s.step env .selectNext).2
    (∀ c ∈ s.candidates, s.catalogue.Places c.network c.address) ∧
      (s.state ≠ .autoconnect → after.station = s ∧ after.log = []) ∧
      (s.state = .autoconnect → ∃ refused left u,
        s.candidates = refused.map Prod.fst ++ left ∧
        Refusals env { station := s } refused u ∧
        (∀ r ∈ refused, r.2 ≠ .notFound) ∧
        u.station = { s with candidates := left } ∧
        (∃ calls : List LinkCall, u.log = calls.map .link ∧
          calls.length = (refused.map Prod.snd).count .rejected) ∧
        ((left = [] ∧ after.station = { s with candidates := [] } ∧ after.log = u.log) ∨
          ∃ c rest, left = c :: rest ∧
            (u.leave rest).connect env c.network c.address none = (.ok (), after) ∧
            after.station.state = .connecting ∧ after.station.connection = some c.target ∧
            after.station.candidates = rest)) := by
  intro after
  let t : Turn := { station := s }
  have queued := run.queued
  refine ⟨queued, fun other => ?_, fun idle => ?_⟩
  · have nothing : after = t := if_neg other
    rw [nothing]
    exact ⟨rfl, rfl⟩
  · have round : after = t.tryCandidates env s.candidates := if_pos idle
    obtain ⟨refused, u, tried, ended⟩ := t.tryCandidates_round env rfl
    rw [← round] at ended
    obtain ⟨left, queue, same⟩ := tried.station_eq
    obtain ⟨calls, log, many⟩ := tried.log_eq
    have same : u.station = { s with candidates := left } := same
    have next : u.station.candidates = left := by rw [same]
    refine ⟨refused, left, u, queue, tried, tried.ne_notFound queued, same, ⟨calls, log, many⟩, ?_⟩
    rcases ended with ⟨none, exhausted⟩ | ⟨c, rest, first, accepted⟩
    · refine .inl ⟨next.symm.trans none, ?_, ?_⟩
      · rw [exhausted, Turn.station_leave, same]
      · rw [exhausted]
        rfl
    · obtain ⟨connecting, held, rest_eq⟩ := Turn.station_connect_of_ok accepted
      exact .inr ⟨c, rest, next.symm.trans first, accepted, connecting, held, rest_eq⟩

namespace Sample

/-- An open access point with a network of its own. -/
def neighbour (octet : UInt8) (rank : UInt16) : Observation :=
  { observation with address := ⟨#v[2, 0, 0, 0, 0, octet]⟩, ssid := [octet], rank }

/-- Three networks, the best one first. -/
def three : List Observation := [observation, neighbour 0x42 4000, neighbour 0x43 3000]

/-- The three networks are heard and known to the store, and the attempt at the best of them fails.
-/
def failing : List (Surroundings × Operation) :=
  [(surroundings true, .notify .up), (knowing, .notify (.scanResults three)),
    (knowing, .notify (.connectResult .linkFailed))]

/-- The link layer does not want the second of them. -/
def choosy : Surroundings :=
  { knowing with
    accepts := fun _ call =>
      match call with
      | .connect o _ => o.address != (neighbour 0x42 4000).address
      | _ => true }

/-- The three networks are taken in. -/
def heard : Turn :=
  Turn.takeScan knowing three { station := station.played [(surroundings true, .notify .up)] }

/-- The candidates that they give. -/
def candidates : List Candidate :=
  [⟨5000, network, accessPoint⟩,
    ⟨4000, "/net/connman/iwd/0/3/42_open", (neighbour 0x42 4000).address⟩,
    ⟨3000, "/net/connman/iwd/0/3/43_open", (neighbour 0x43 3000).address⟩]

theorem ofCatalogue_heard :
    Candidate.ofCatalogue knowing.store heard.station.catalogue = candidates := by
  rw [Candidate.ofCatalogue_eq (by decide +kernel) (by decide +kernel)]
  decide +kernel

/-- The station once the first attempt of the round has failed. -/
theorem played_failing :
    station.played failing =
      (((heard.leave candidates).selectNext knowing).station.step knowing
        (.notify (.connectResult .linkFailed))).2.station := by
  let t : Turn := { station := station.played [(surroundings true, .notify .up)] }
  have idle : t.station.state = .autoconnect := by decide +kernel
  have alone : t.station.enrollment = none := by
    rw [← Option.not_isSome_iff_eq_none]
    decide +kernel
  have tried : t.handleScanResults knowing three = (heard.refill knowing).selectNext knowing :=
    Turn.handleScanResults_autoconnect idle alone three
  have begun : heard.refill knowing = heard.leave candidates := by
    rw [← ofCatalogue_heard]
    rfl
  show ((t.handleScanResults knowing three).station.step knowing _).2.station = _
  rw [tried, begun]

end Sample

/-- Two candidates are left of a round.  The first is refused, though not because it could not be
found, and the station connects to the second. -/
theorem selectNext_first_accepted_second :
    let s := Sample.station.played Sample.failing
    let after := (s.step Sample.choosy .selectNext).2
    (∃ moves, Run (.new Sample.interface {}) moves s) ∧ s.state = .autoconnect ∧
      s.candidates.map (·.network) =
        ["/net/connman/iwd/0/3/42_open", "/net/connman/iwd/0/3/43_open"] ∧
      (∃ c e u, Refusals Sample.choosy { station := s } [(c, e)] u ∧ e ≠ .notFound) ∧
      after.station.connectedNetwork = some "/net/connman/iwd/0/3/43_open" ∧
      after.station.candidates = [] := by
  intro s after
  have played : s = _ := Sample.played_failing
  have idle : s.state = .autoconnect ∧ s.connectedNetwork = none := by
    rw [played]
    decide +kernel
  have two : s.candidates.map (·.network) =
      ["/net/connman/iwd/0/3/42_open", "/net/connman/iwd/0/3/43_open"] := by
    rw [played]
    decide +kernel
  have ended : after.station.connectedNetwork = some "/net/connman/iwd/0/3/43_open" ∧
      after.station.candidates.length = 0 := by
    show (s.step Sample.choosy .selectNext).2.station.connectedNetwork = _ ∧
      (s.step Sample.choosy .selectNext).2.station.candidates.length = 0
    rw [played]
    decide +kernel
  have run := Sample.run Sample.failing (by simp [Sample.failing])
  obtain ⟨refused, left, u, queue, tried, found, _, _, round⟩ :=
    (selectNext_first_accepted run Sample.choosy).2.2 idle.1
  have none : after.station.candidates = [] := List.length_eq_zero_iff.1 ended.2
  rcases round with ⟨_, same, _⟩ | ⟨c, rest, next, _, _, _, last⟩
  · -- The station would still be without a connection.
    have still : after.station.connectedNetwork = s.connectedNetwork := by rw [same]; rfl
    rw [ended.1, idle.2] at still
    cases still
  · have many : s.candidates.length = refused.length + 1 := by
      have rest_eq : rest = [] := last.symm.trans none
      rw [show s.candidates = _ from queue, next, rest_eq]
      simp
    have length : s.candidates.length = 2 := by simpa using congrArg List.length two
    obtain ⟨⟨d, e⟩, one⟩ := List.length_eq_one_iff.1 (show refused.length = 1 by omega)
    rw [one] at tried found
    have other : e ≠ .notFound := found (d, e) (List.mem_singleton_self _)
    exact ⟨⟨_, run⟩, idle.1, two, ⟨d, e, u, tried, other⟩, ended.1, none⟩

end Station

end WirelessStation
