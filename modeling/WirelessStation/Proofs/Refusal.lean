import WirelessStation.Proofs.Run

/-! # How a request is refused or accepted

A request is refused in one of two ways (`Refused`): at once, before anything was done, or because
the link layer refused the one call that was made for it.  Either way nothing else happens than that
its requester is let go.  For each request there is a lemma that it is refused or else accepted,
with all the guards that it has passed and the turn that follows (`scan_cases`, `connect_cases`,
…).  Later modules use these instead of opening the requests. -/

namespace WirelessStation

/-- Whether an error lies with the protection of a network or with the settings for it. -/
def Error.isOfSecurity : Error → Bool
  | .noSecrets | .notSupported | .invalidInput _ => true
  | _ => false

namespace Station

/-- Who waits for the answer to an operation. -/
def Operation.requester? : Operation → Option Requester
  | .scan r | .setPowered _ r | .pushButton r => some r
  | .connect _ _ r | .connectNetwork _ r | .disconnect r => r
  | _ => none

/-- The ways in which a request fails, from the turn in which it was made. -/
inductive Refused (env : Surroundings) (r : Option Requester) (t : Turn) : Result × Turn → Prop
  /-- Without a call to the link layer. -/
  | atOnce {e : Error} (h : e ≠ .rejected) : Refused env r t (t.refuse e r)
  /-- By the link layer. -/
  | byLink {c : LinkCall} (h : env.accepts t.log c = false) :
      Refused env r t ((t.record (.link c)).refuse .rejected r)

namespace Refused

variable {env : Surroundings} {r : Option Requester} {t : Turn} {outcome : Result × Turn}

theorem station_eq (h : Refused env r t outcome) : outcome.2.station = t.station := by
  cases h <;> simp

theorem result_ne_ok (h : Refused env r t outcome) : outcome.1 ≠ .ok () := by
  cases h <;> simp [Turn.refuse]

/-- The call that the link layer refused, if there was one, and then the requester is let go. -/
theorem log_eq {e : Error} (h : Refused env r t outcome) (failed : outcome.1 = .error e) :
    ∃ calls : List LinkCall,
      outcome.2.log = t.log ++ (calls.map .link ++ (r.map Effect.drop).toList) ∧
      (e = .rejected → ∃ c, calls = [c] ∧ env.accepts t.log c = false) ∧
      (e ≠ .rejected → calls = []) := by
  cases h with
  | atOnce early =>
    obtain rfl : _ = e := by simpa [Turn.refuse] using failed
    exact ⟨[], by simp [Turn.refuse], fun late => absurd late early, fun _ => rfl⟩
  | @byLink c refused =>
    obtain rfl : .rejected = e := by simpa [Turn.refuse] using failed
    exact ⟨[c], by simp [Turn.refuse], fun _ => ⟨c, rfl, refused⟩, fun early => absurd rfl early⟩

end Refused

namespace Turn

variable (env : Surroundings) (t : Turn)

/-! ### Scans -/

theorem scan_cases (r : Requester) :
    Refused env (some r) t (t.scan env r) ∨
      ((t.station.pending.scan = none ∧ t.station.enrollmentScans = false) ∧
        t.scan env r = (.ok (), (t.record (.link (.scan .passive))).hold .scan (some r))) := by
  unfold scan
  split
  next => exact .inl (.atOnce (by simp))
  split
  next => exact .inl (.atOnce (by simp))
  next idle =>
    simp only [Bool.not_eq_true, Bool.or_eq_false_iff, Option.isSome_eq_false_iff,
      Option.isNone_iff_eq_none] at idle
    rw [call_eq]
    cases accepted : env.accepts t.log (.scan .passive) with
    | false => exact .inl (.byLink accepted)
    | true => exact .inr ⟨idle, rfl⟩

/-! ### Attempts -/

/-- A context fails only over the protection of the network and the settings for it. -/
theorem secretFor_ne {e : Error} (other : e.isOfSecurity = false) (security : Security)
    (settings : Option Settings) : Context.secretFor security settings ≠ .error e := by
  have checked (eap : Eap.Settings) : eap.validate ≠ .error e := by
    unfold Eap.Settings.validate
    repeat' split
    all_goals rintro ⟨⟩
    all_goals cases other
  unfold Context.secretFor
  split
  next => simp
  next eap =>
    cases h : eap.validate with
    | ok _ => simp
    | error e' => simpa [h] using checked eap
  next =>
    intro same
    cases same
    cases other

theorem secured_ne {e : Error} (other : e.isOfSecurity = false) (o : Observation)
    (element : SecurityElement) (offered : Suites) (ssid : String) (security : Security)
    (settings : Option Settings) (own : Address) (ciphers : CipherSet) (lister : Bits.Lister) :
    Context.secured o element offered ssid security settings own ciphers lister ≠ .error e := by
  have known := secretFor_ne other security settings
  have supported : Error.notSupported ≠ e := by
    rintro rfl
    cases other
  unfold Context.secured
  cases CipherSet.strongest? offered.pairwise ciphers with
  | none => simpa using supported
  | some pairwise =>
    cases CipherSet.strongest? offered.group ciphers with
    | none => simpa using supported
    | some group =>
      cases h : Context.secretFor security settings with
      | ok secret => simp
      | error e' => simpa [h] using known

theorem map_ne_error {α β : Type} {x : Except Error α} {e : Error} (f : α → β)
    (h : x ≠ .error e) : x.map f ≠ .error e := by
  cases x with
  | ok a => simp [Except.map]
  | error e' => simpa [Except.map] using h

theorem negotiate_ne {e : Error} (other : e.isOfSecurity = false) (o : Observation)
    (ssid : String) (security : Security) (settings : Option Settings) (own : Address)
    (ciphers : CipherSet) (lister : Bits.Lister) :
    Context.negotiate o ssid security settings own ciphers lister ≠ .error e := by
  have supported : Error.notSupported ≠ e := by
    rintro rfl
    cases other
  unfold Context.negotiate
  split
  next => simp
  next => simpa using supported
  all_goals
    split
    · simpa using supported
    · split
      · simpa using supported
      · apply map_ne_error
        apply secured_ne other

/-- Only the link layer rejects. -/
theorem plan_ne_rejected (s : Station) (network : String) (a : Address) :
    plan env s network a ≠ .error .rejected := by
  unfold plan
  split
  next => simp
  split
  next => simp
  split
  next => simp
  next =>
    apply map_ne_error
    apply negotiate_ne rfl

@[simp] theorem station_begin (network : String) (a : Address) (r : Option Requester) :
    (t.begin network a r).station =
      { t.station with
        connection := some ⟨network, a⟩
        pending := t.station.pending.set .connect r, state := .connecting } := by
  simp [begin, State.periodicScan]

theorem connect_cases (network : String) (a : Address) (r : Option Requester) :
    Refused env r t (t.connect env network a r) ∨
      ∃ o context,
        t.station.state ≠ .off ∧ t.station.isBusy = false ∧
          plan env t.station network a = .ok (o, context) ∧
            env.accepts t.log (.connect o context) = true ∧
              t.connect env network a r =
                (.ok (), (t.record (.link (.connect o context))).begin network a r) := by
  unfold connect
  split
  next => exact .inl (.atOnce (by simp))
  next up =>
    split
    next => exact .inl (.atOnce (by simp))
    next idle =>
      cases planned : plan env t.station network a with
      | error e =>
        refine .inl (.atOnce ?_)
        rintro rfl
        exact plan_ne_rejected env t.station network a planned
      | ok p =>
        obtain ⟨o, context⟩ := p
        simp only [call_eq]
        cases accepted : env.accepts t.log (.connect o context) with
        | false => exact .inl (.byLink accepted)
        | true => exact .inr ⟨o, context, up, by simpa using idle, rfl, accepted, rfl⟩

/-- A connection to a network is one to its best access point. -/
theorem connectNetwork_cases (network : String) (r : Option Requester) :
    Refused env r t (t.connectNetwork env network r) ∨
      ∃ a, t.connectNetwork env network r = t.connect env network a r := by
  unfold connectNetwork
  split
  next => exact .inl (.atOnce (by simp))
  next best _ => exact .inr ⟨best.address, rfl⟩

/-- A round of attempts keeps whatever one attempt that nobody asked for keeps, as long as the
candidates left do not matter for it. -/
theorem tryCandidates_induct {P : Turn → Prop} {env : Surroundings} {t : Turn}
    (next : ∀ (t : Turn) rest, P t → P (t.update fun s => { s with candidates := rest }))
    (attempt : ∀ (t : Turn) network a, P t → P (t.connect env network a none).2)
    (l : List Candidate) (h : P t) : P (t.tryCandidates env l) := by
  induction l generalizing t with
  | nil => exact next t [] h
  | cons c rest ih =>
    have tried := attempt _ c.network c.address (next t rest h)
    unfold tryCandidates
    simp only
    split
    next t' outcome => rwa [outcome] at tried
    next e t' outcome =>
      rw [outcome] at tried
      exact ih tried

theorem selectNext_induct {P : Turn → Prop} {env : Surroundings} {t : Turn}
    (next : ∀ (t : Turn) rest, P t → P (t.update fun s => { s with candidates := rest }))
    (attempt : ∀ (t : Turn) network a, P t → P (t.connect env network a none).2) (h : P t) :
    P (t.selectNext env) := by
  unfold selectNext
  split
  · exact tryCandidates_induct next attempt _ h
  · exact h

theorem disconnect_cases (r : Option Requester) :
    Refused env r t (t.disconnect env r) ∨
      (t.station.pending.disconnect = none ∧ t.station.connection.isSome ∧
        t.disconnect env r =
          (.ok (),
            ((t.record (.link .disconnect)).clearConnection.enter .disconnecting).hold
              .disconnect r)) := by
  unfold disconnect
  split
  next => exact .inl (.atOnce (by simp))
  next free =>
    simp only [Bool.or_eq_true, decide_eq_true_eq, not_or, Option.not_isSome_iff_eq_none] at free
    split
    next => exact .inl (.atOnce (by simp))
    next connected =>
      rw [call_eq]
      cases accepted : env.accepts t.log .disconnect with
      | false => exact .inl (.byLink accepted)
      | true => exact .inr ⟨free.2, by simpa [Option.isSome_iff_ne_none] using connected, rfl⟩

/-! ### Power -/

theorem setPowered_cases (on : Bool) (r : Requester) :
    Refused env (some r) t (t.setPowered env on r) ∨
      t.setPowered env on r = (.ok (), t.record (.answer r (.ok ()))) ∨
      (t.station.pending.power = none ∧
        t.setPowered env on r = (.ok (), (t.record (.link (.power on))).hold .power (some r))) := by
  unfold setPowered
  split
  next => exact .inr (.inl rfl)
  split
  next => exact .inl (.atOnce (by simp))
  next free =>
    rw [call_eq]
    cases accepted : env.accepts t.log (.power on) with
    | false => exact .inl (.byLink accepted)
    | true => exact .inr (.inr ⟨by simpa using free, rfl⟩)

/-! ### Enrollment and secrets -/

theorem pushButton_cases (r : Requester) :
    Refused env (some r) t (t.pushButton env r) ∨
      ((t.station.enrollment = none ∧ t.station.pending.scan = none) ∧
        ∃ probe, env.accepts t.log (.scan (.enrolling probe)) = true ∧
          t.pushButton env r =
            (.ok (), (t.record (.link (.scan (.enrolling probe)))).update fun s =>
              { s with enrollment := some ⟨r, probe, none, true⟩ })) := by
  unfold pushButton
  split
  next => exact .inl (.atOnce (by simp))
  split
  next => exact .inl (.atOnce (by simp))
  next free =>
    split
    next => exact .inl (.atOnce (by simp))
    next idle =>
      simp only [Bool.or_eq_true, not_or, Option.not_isSome_iff_eq_none] at idle
      simp only [call_eq]
      cases accepted : env.accepts t.log
          (.scan (.enrolling (Enrollment.Probe.pushButton t.station.address env.namer))) with
      | false => exact .inl (.byLink accepted)
      | true => exact .inr ⟨⟨by simpa [isEnrolling] using free, idle.1⟩, _, accepted, rfl⟩

theorem cancelEnrollment_cases :
    Refused env none t t.cancelEnrollment ∨
      t.cancelEnrollment = (.ok (), t.endEnrollment (.error .aborted)) := by
  unfold cancelEnrollment
  split
  next => exact .inr rfl
  next => exact .inl (.atOnce (r := none) (by simp))

theorem completeEnrollment_cases (outcome : Except Error (List Enrollment.Credential)) :
    Refused env none t (t.completeEnrollment outcome) ∨
      ∃ credentials result, t.completeEnrollment outcome =
        (.ok (), (t.storeCredentials credentials).endEnrollment result) := by
  unfold completeEnrollment
  split
  next =>
    cases outcome with
    | ok credentials => exact .inr ⟨credentials, .ok (), rfl⟩
    | error e => exact .inr ⟨[], .error e, rfl⟩
  next => exact .inl (.atOnce (r := none) (by simp))

theorem setSecret_cases (network : String) (settings : Settings) :
    Refused env none t (t.setSecret network settings) ∨
      t.setSecret network settings =
        (.ok (), t.update fun s =>
          { s with catalogue := s.catalogue.modify network (Network.supply settings) }) := by
  unfold setSecret
  split
  next => exact .inl (.atOnce (r := none) (by simp))
  next =>
    split
    next => exact .inr rfl
    next => exact .inl (.atOnce (r := none) (by simp))

/-! ### Autoconnect -/

/-- Switching autoconnect cannot fail. -/
theorem station_setAutoconnect (enabled : Bool) :
    (t.setAutoconnect enabled).station =
      if t.station.autoconnect = enabled then t.station
      else if t.station.state = .disconnected ∧ enabled then
        { t.station with autoconnect := enabled, state := .autoconnect, periodicScan := true }
      else if t.station.state = .autoconnect ∧ !enabled then
        { t.station with
          autoconnect := enabled, candidates := [], state := .disconnected, periodicScan := false }
      else { t.station with autoconnect := enabled } := by
  unfold setAutoconnect
  split
  next => rfl
  cases enabled with
  | true => by_cases idle : t.station.state = .disconnected <;> simp [idle, State.periodicScan]
  | false => by_cases idle : t.station.state = .autoconnect <;> simp [idle, State.periodicScan]

end Turn

/-- Every operation that fails was refused. -/
theorem Turn.refused_of_error {env : Surroundings} {op : Operation} {t : Turn} {e : Error}
    (h : (t.perform env op).1 = .error e) :
    Refused env op.requester? t (t.perform env op) := by
  cases op with
  | scan r =>
    rcases t.scan_cases env r with h' | ⟨_, h'⟩
    · exact h'
    · simp [perform, h'] at h
  | connect network a r =>
    rcases t.connect_cases env network a r with h' | ⟨_, _, _, _, _, _, h'⟩
    · exact h'
    · simp [perform, h'] at h
  | connectNetwork network r =>
    rcases t.connectNetwork_cases env network r with h' | ⟨a, h'⟩
    · exact h'
    · simp only [perform, h'] at h ⊢
      rcases t.connect_cases env network a r with h'' | ⟨_, _, _, _, _, _, h''⟩
      · exact h''
      · simp [h''] at h
  | disconnect r =>
    rcases t.disconnect_cases env r with h' | ⟨_, _, h'⟩
    · exact h'
    · simp [perform, h'] at h
  | setPowered on r =>
    rcases t.setPowered_cases env on r with h' | h' | ⟨_, h'⟩
    · exact h'
    · simp [perform, h'] at h
    · simp [perform, h'] at h
  | pushButton r =>
    rcases t.pushButton_cases env r with h' | ⟨_, _, _, h'⟩
    · exact h'
    · simp [perform, h'] at h
  | cancelEnrollment =>
    rcases t.cancelEnrollment_cases env with h' | h'
    · exact h'
    · simp [perform, h'] at h
  | completeEnrollment outcome =>
    rcases t.completeEnrollment_cases env outcome with h' | ⟨_, _, h'⟩
    · exact h'
    · simp [perform, h'] at h
  | setSecret network settings =>
    rcases t.setSecret_cases env network settings with h' | h'
    · exact h'
    · simp [perform, h'] at h
  | _ => simp [perform] at h

/-- A request that fails leaves the whole station as it was.  Nobody is told or answered and nothing
is stored: all that it does is at most one call to the link layer, which is made exactly if the
error is a rejection and was refused, and then letting its own requester go. -/
theorem failed_request_is_atomic {env : Surroundings} {op : Operation} {s : Station} {e : Error}
    (failed : (s.step env op).1 = .error e) :
    (s.step env op).2.station = s ∧
      (∀ event shown, .announce event shown ∉ (s.step env op).2.log) ∧
      (∀ r result, .answer r result ∉ (s.step env op).2.log) ∧
      (∀ c, .store c ∉ (s.step env op).2.log) ∧
      ∃ calls : List LinkCall,
        (s.step env op).2.log = calls.map .link ++ (op.requester?.map Effect.drop).toList ∧
        (e = .rejected → ∃ c, calls = [c] ∧ env.accepts [] c = false) ∧
        (e ≠ .rejected → calls = []) := by
  have refused := Turn.refused_of_error failed
  obtain ⟨calls, log, late, early⟩ := refused.log_eq failed
  have log : (s.step env op).2.log = calls.map .link ++ (op.requester?.map Effect.drop).toList := by
    simpa [step] using log
  refine ⟨refused.station_eq, ?_, ?_, ?_, calls, log, late, early⟩
  · intro event shown
    simp [log]
  · intro r result
    simp [log]
  · intro c
    simp [log]

/-- A link layer that refuses an attempt while a network is in reach. -/
theorem failed_request_is_atomic_refused_attempt :
    let s := Sample.station.played Sample.hearing
    let env := Sample.surroundings false
    let op := Operation.connect Sample.network Sample.accessPoint (some (.request 0))
    (s.step env op).1 = .error .rejected ∧ (s.step env op).2.station = s ∧
      ∃ c, env.accepts [] c = false ∧
        (s.step env op).2.log = [.link c, .drop (.request 0)] := by
  intro s env op
  have failed : (s.step env op).1 = .error .rejected :=
    Sample.failure?_eq_some.1 (by decide +kernel)
  obtain ⟨same, _, _, _, calls, log, late, _⟩ := failed_request_is_atomic failed
  obtain ⟨c, rfl, refused⟩ := late rfl
  exact ⟨failed, same, c, refused, log⟩

end Station

end WirelessStation
