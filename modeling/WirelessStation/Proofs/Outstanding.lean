import Mathlib.Data.List.DropRight
import WirelessStation.Proofs.Attempts
import WirelessStation.Proofs.Frame

/-! # Attempts that are outstanding

An attempt is outstanding from the moment at which the link layer accepts it until its result is
reported or the interface goes down.  A station has no number for an attempt.  It keeps new ones off
while it is connecting or disconnecting and while somebody waits for a connection (`Aware`), but it
also gives an attempt up before the result is in: when the link reports a lost beacon or the access
point's disconnect, and when a disconnect ends that no request for a connection outlives
(`Operation.givesUp`).  Then it is free for another attempt although one is outstanding
(`Abandoned`).

* `Aware.perform`: an operation keeps a station aware unless it reports a result, takes the
  interface down or gives up.
* `Tracked.move`, `Run.tracked`: what a move and a whole run keep, as long as nothing begins while
  an attempt is abandoned.
* `one_attempt_outstanding_iff`: at most one attempt is outstanding in exactly these runs. -/

namespace WirelessStation.Station

/-! ### Awareness -/

/-- A station that keeps new attempts off because of one that may be outstanding. -/
def Aware (s : Station) : Prop :=
  s.state = .connecting ∨ s.state = .disconnecting ∨ s.pending.connect.isSome

namespace Aware

variable {s s' : Station}

theorem isBusy (h : Aware s) : s.isBusy = true := by
  rcases h with state | state | waiting
  · simp [Station.isBusy, state, State.isConnectedSide, State.place]
  · simp [Station.isBusy, state, State.isConnectedSide, State.place]
  · simp [Station.isBusy, waiting]

theorem congr (h : Aware s)
    (same : s'.state = s.state ∧ s'.pending.connect = s.pending.connect) : Aware s' := by
  rw [Aware, same.1, same.2]
  exact h

theorem of_connecting (h : s.state = .connecting) : Aware s := .inl h

theorem of_waiting (h : s.pending.connect.isSome) : Aware s := .inr (.inr h)

/-- In every other state it is only somebody's request that keeps new attempts off. -/
theorem waiting (h : Aware s) (connecting : s.state ≠ .connecting)
    (disconnecting : s.state ≠ .disconnecting) : s.pending.connect.isSome := by
  rcases h with state | state | waiting
  · exact absurd state connecting
  · exact absurd state disconnecting
  · exact waiting

end Aware

namespace Aware

variable {t : Turn} (h : Aware t.station) (env : Surroundings)

include h

theorem refused {r : Option Requester} {outcome : Result × Turn}
    (refusal : Refused env r t outcome) : Aware outcome.2.station := by
  rw [refusal.station_eq]
  exact h

theorem connect (network : String) (a : Address) (r : Option Requester) :
    Aware (t.connect env network a r).2.station := by
  rcases t.connect_cases env network a r with refusal | ⟨o, context, _, free, _⟩
  · exact h.refused env refusal
  · rw [h.isBusy] at free
    cases free

theorem selectNext : Aware (t.selectNext env).station := by
  refine Turn.selectNext_induct (P := fun u => Aware u.station) ?_ ?_ h
  · exact fun u rest h => h.congr ⟨rfl, rfl⟩
  · exact fun u network a h => h.connect env network a none

theorem handleUp : Aware t.handleUp.station := by
  rw [Turn.station_handleUp]
  split
  next off => exact .of_waiting (h.waiting (by simp [off]) (by simp [off]))
  next => exact h

theorem handleScanResults (observations : List Observation) :
    Aware (t.handleScanResults env observations).station := by
  have taken : Aware (t.takeScan env observations).station := h.congr (by simp)
  rw [Turn.handleScanResults_eq]
  split
  · exact h
  · split
    · rw [Turn.station_handleRegistrars]
      exact taken.congr ⟨rfl, rfl⟩
    · split
      · refine selectNext ?_ env
        exact taken.congr ⟨rfl, rfl⟩
      · exact taken

/-- The end of a disconnect frees the station unless somebody waits for a connection. -/
theorem handleDisconnectResult (success : Bool)
    (kept : t.station.state ≠ .disconnecting ∨ t.station.pending.connect.isSome) :
    Aware (t.handleDisconnectResult success).station := by
  rw [Turn.station_handleDisconnectResult]
  split
  next ending =>
    have waiting : t.station.pending.connect.isSome := kept.resolve_left (not_not_intro ending)
    exact .of_waiting waiting
  next => exact h.congr ⟨rfl, rfl⟩

theorem handleLinkEvent (event : LinkEvent)
    (kept : (event ≠ .lostBeacon ∧ event ≠ .apDisconnect) ∨ t.station.connection = none) :
    Aware (t.handleLinkEvent event).station := by
  rw [Turn.station_handleLinkEvent]
  split
  next => exact h
  next => exact h
  next => exact h
  next => exact h
  next =>
    rw [Turn.station_keepSecret]
    exact h.congr ⟨rfl, rfl⟩
  next _ held => simp [held] at kept
  next _ held => simp [held] at kept

theorem setAutoconnect (enabled : Bool) : Aware (t.setAutoconnect enabled).station := by
  rw [Turn.station_setAutoconnect]
  split
  next => exact h
  split
  next on => exact .of_waiting (h.waiting (by simp [on.1]) (by simp [on.1]))
  split
  next off => exact .of_waiting (h.waiting (by simp [off.1]) (by simp [off.1]))
  next => exact h.congr ⟨rfl, rfl⟩

end Aware

/-! ### What ends an attempt -/

namespace Operation

/-- The interface goes down. -/
def isDown : Operation → Bool
  | .notify .down => true
  | _ => false

/-- An attempt is reported to have ended. -/
def isConnectResult : Operation → Bool
  | .notify (.connectResult _) => true
  | _ => false

/-- A station gives up an attempt, whose result is not in. -/
def givesUp (s : Station) : Operation → Bool
  | .notify (.event .lostBeacon) | .notify (.event .apDisconnect) => s.connection.isSome
  | .notify (.disconnectResult _) => s.state = .disconnecting && s.pending.connect.isNone
  | _ => false

end Operation

namespace Aware

variable {t : Turn} (h : Aware t.station) (env : Surroundings)

include h

/-- A station that keeps attempts off goes on doing so until it hears of a result, the interface
goes down or it gives up. -/
theorem perform (op : Operation) (live : op ≠ .shutdown) (up : op.isDown = false)
    (unreported : op.isConnectResult = false) (wanted : op.givesUp t.station = false) :
    Aware (t.perform env op).2.station := by
  cases aside : op.isAside with
  | true =>
    rw [t.station_aside env aside]
    exact h.congr ⟨rfl, rfl⟩
  | false =>
    cases op with
    | notify notification =>
      cases notification with
      | up => exact h.handleUp
      | down => cases up
      | scanResults observations => exact h.handleScanResults env observations
      | connectResult outcome => cases unreported
      | disconnectResult success =>
        refine h.handleDisconnectResult success ?_
        by_cases ending : t.station.state = .disconnecting
        · right
          simpa [Operation.givesUp, ending, Option.isSome_iff_ne_none] using wanted
        · exact .inl ending
      | event event =>
        apply h.handleLinkEvent event
        cases event with
        | authenticating | associating | handshaking | settingKeys => exact .inl (by simp)
        | lostBeacon | apDisconnect => exact .inr (by simpa [Operation.givesUp] using wanted)
      | renamed _ | scanTriggered _ | powerResult _ => cases aside
    | connect network a r => exact h.connect env network a r
    | connectNetwork network r =>
      rcases t.connectNetwork_cases env network r with refusal | ⟨a, outcome⟩
      · exact h.refused env refusal
      · rw [Turn.perform, outcome]
        exact h.connect env network a r
    | disconnect r =>
      rcases t.disconnect_cases env r with refusal | ⟨_, _, outcome⟩
      · exact h.refused env refusal
      · exact .inr (.inl (by simp [Turn.perform, outcome]))
    | setSecret network settings =>
      rcases t.setSecret_cases env network settings with refusal | outcome
      · exact h.refused env refusal
      · exact h.congr (by simp [Turn.perform, outcome])
    | setAutoconnect enabled => exact h.setAutoconnect enabled
    | selectNext => exact h.selectNext env
    | shutdown => exact absurd rfl live
    | scan _ | setPowered _ _ | pushButton _ | subscribe _ _ | unsubscribe _ => cases aside
    | cancelEnrollment | completeEnrollment _ => cases aside

end Aware

/-! ### Runs -/

/-- How many attempts began in the course of some moves. -/
def attempts (moves : List Move) : Nat :=
  (moves.flatMap fun m => m.picked (begun m.env)).length

/-- How many results of attempts were reported in the course of some moves. -/
def connectResults (moves : List Move) : Nat :=
  moves.countP fun m => m.op.isConnectResult

/-- The moves after the interface last went down. -/
def sinceDown (moves : List Move) : List Move :=
  moves.rtakeWhile fun m => !m.op.isDown

/-- The moves after the last one that began an attempt. -/
def sinceAttempt (moves : List Move) : List Move :=
  moves.rtakeWhile fun m => m.attempts == 0

/-- An attempt is outstanding that the station has given up. -/
structure Abandoned (moves : List Move) : Prop where
  outstanding : connectResults (sinceDown moves) < attempts (sinceDown moves)
  given_up : ∃ m ∈ sinceAttempt moves, m.op.givesUp m.before = true

/-- At most one attempt is outstanding, and one that is keeps others off or has been given up. -/
structure Tracked (moves : List Move) (s : Station) : Prop where
  bounded : attempts (sinceDown moves) ≤ connectResults (sinceDown moves) + 1
  noticed : connectResults (sinceDown moves) < attempts (sinceDown moves) →
    Aware s ∨ Abandoned moves

theorem attempts_concat (moves : List Move) (m : Move) :
    attempts (moves ++ [m]) = attempts moves + m.attempts := by
  unfold attempts Move.attempts
  rw [List.flatMap_append, List.length_append, List.flatMap_singleton]

theorem connectResults_concat (moves : List Move) (m : Move) :
    connectResults (moves ++ [m]) =
      connectResults moves + if m.op.isConnectResult then 1 else 0 := by
  simp [connectResults, List.countP_singleton]

theorem sinceDown_concat_of_isDown (moves : List Move) {m : Move} (h : m.op.isDown = true) :
    sinceDown (moves ++ [m]) = [] :=
  List.rtakeWhile_concat_neg _ _ _ (by simp [h])

theorem sinceDown_concat (moves : List Move) {m : Move} (h : m.op.isDown = false) :
    sinceDown (moves ++ [m]) = sinceDown moves ++ [m] :=
  List.rtakeWhile_concat_pos _ _ _ (by simp [h])

theorem sinceAttempt_concat (moves : List Move) {m : Move} (h : m.attempts = 0) :
    sinceAttempt (moves ++ [m]) = sinceAttempt moves ++ [m] :=
  List.rtakeWhile_concat_pos _ _ _ (by simp [h])

/-- Ending attempts begins none. -/
theorem mayAttempt_of_ends {op : Operation} (h : op.isDown = true ∨ op.isConnectResult = true) :
    op.mayAttempt = false := by
  cases may : op.mayAttempt with
  | false => rfl
  | true =>
    unfold Operation.mayAttempt at may
    split at may
    all_goals simp [Operation.isDown, Operation.isConnectResult] at h may

namespace Tracked

variable {moves : List Move} {m : Move}

/-- What a move that begins nothing and ends nothing keeps. -/
theorem move_of_quiet (h : Tracked moves m.before) (live : m.op ≠ .shutdown)
    (up : m.op.isDown = false) (unreported : m.op.isConnectResult = false)
    (quiet : m.attempts = 0) : Tracked (moves ++ [m]) m.after := by
  have begins : attempts (sinceDown (moves ++ [m])) = attempts (sinceDown moves) := by
    rw [sinceDown_concat moves up, attempts_concat, quiet, Nat.add_zero]
  have ends : connectResults (sinceDown (moves ++ [m])) = connectResults (sinceDown moves) := by
    simp [sinceDown_concat moves up, connectResults_concat, unreported]
  have later := sinceAttempt_concat moves quiet
  refine ⟨by rw [begins, ends]; exact h.bounded, fun outstanding => ?_⟩
  have before : connectResults (sinceDown moves) < attempts (sinceDown moves) := by
    rwa [begins, ends] at outstanding
  rcases h.noticed before with aware | abandoned
  · cases wanted : m.op.givesUp m.before with
    | true => exact .inr ⟨outstanding, m, by simp [later], wanted⟩
    | false =>
      left
      exact Aware.perform (t := { station := m.before }) aware m.env m.op live up unreported wanted
  · obtain ⟨given, there, up⟩ := abandoned.given_up
    exact .inr ⟨outstanding, given, by simp [later, there], up⟩

theorem move (h : Tracked moves m.before) (live : m.op ≠ .shutdown)
    (kept : Abandoned moves → m.attempts = 0) : Tracked (moves ++ [m]) m.after := by
  cases up : m.op.isDown with
  | true =>
    refine ⟨?_, ?_⟩ <;> simp [sinceDown_concat_of_isDown moves up, attempts, connectResults]
  | false =>
    have begins := attempts_concat (sinceDown moves) m
    have ends := connectResults_concat (sinceDown moves) m
    rw [← sinceDown_concat moves up] at begins ends
    have bounded := h.bounded
    cases unreported : m.op.isConnectResult with
    | true =>
      have quiet := Move.attempts_of_not_mayAttempt (mayAttempt_of_ends (.inr unreported))
      rw [unreported, if_pos rfl] at ends
      refine ⟨by omega, ?_⟩
      intro outstanding
      omega
    | false =>
      rcases m.attempts_cases with quiet | ⟨one, free, connecting⟩
      · exact h.move_of_quiet live up unreported quiet
      · -- A station that noticed an outstanding attempt would not have been free.
        have settled : ¬connectResults (sinceDown moves) < attempts (sinceDown moves) := by
          intro outstanding
          rcases h.noticed outstanding with aware | abandoned
          · rw [aware.isBusy] at free
            cases free
          · rw [kept abandoned] at one
            cases one
        simp only [unreported, Bool.false_eq_true, if_false] at ends
        refine ⟨by omega, fun _ => ?_⟩
        exact .inl (.of_connecting connecting)

end Tracked

/-- A run in which nothing begins while an attempt is abandoned tracks its attempts. -/
theorem Run.tracked {start s : Station} {moves : List Move} (run : Run start moves s)
    (kept : ∀ p m, p ++ [m] <+: moves → Abandoned p → m.attempts = 0) : Tracked moves s := by
  induction run with
  | start => refine ⟨?_, ?_⟩ <;> simp [sinceDown, attempts, connectResults]
  | @move moves s run env op live ih =>
    have earlier : Tracked moves s := by
      refine ih ?_
      intro p m h
      exact kept p m (h.trans (List.prefix_append _ _))
    exact earlier.move (m := ⟨s, env, op⟩) live (kept moves _ List.prefix_rfl)

/-- At most one attempt is outstanding throughout a run if and only if no attempt begins while one
is outstanding that the station has given up.  So a second one takes a lost beacon, a disconnect by
the access point or the end of a disconnect that nobody's request for a connection outlived. -/
theorem one_attempt_outstanding_iff {i : Interface} {config : Config} {moves : List Move}
    {s : Station} (run : Run (.new i config) moves s) :
    (∀ p, p <+: moves → attempts (sinceDown p) ≤ connectResults (sinceDown p) + 1) ↔
      ∀ p m, p ++ [m] <+: moves → Abandoned p → m.attempts = 0 := by
  constructor
  · intro bounded p m h abandoned
    have outstanding := abandoned.outstanding
    have after := bounded (p ++ [m]) h
    cases up : m.op.isDown with
    | true => exact Move.attempts_of_not_mayAttempt (mayAttempt_of_ends (.inl up))
    | false =>
      cases unreported : m.op.isConnectResult with
      | true => exact Move.attempts_of_not_mayAttempt (mayAttempt_of_ends (.inr unreported))
      | false =>
        rw [sinceDown_concat p up, attempts_concat, connectResults_concat, unreported,
          if_neg Bool.false_ne_true] at after
        omega
  · intro kept p h
    obtain ⟨s', earlier⟩ := run.of_prefix h
    exact (earlier.tracked fun p' m h' => kept p' m (h'.trans h)).bounded

/-- An attempt that nobody asked for is called off, and another one follows. -/
def Sample.retrying : List (Surroundings × Operation) :=
  Sample.hearing ++
    [(Sample.surroundings true, .connect Sample.network Sample.accessPoint none),
      (Sample.surroundings true, .disconnect none),
      (Sample.surroundings true, .notify (.disconnectResult true)),
      (Sample.surroundings true, .connect Sample.network Sample.accessPoint none)]

theorem Sample.run_retrying :
    Run Sample.station (Sample.station.play Sample.retrying)
      (Sample.station.played Sample.retrying) :=
  Sample.run Sample.retrying (by simp [Sample.retrying, Sample.hearing])

/-- The second attempt of this run begins while the first is abandoned. -/
theorem one_attempt_outstanding_iff_retrying :
    ∃ p m, p ++ [m] <+: Sample.station.play Sample.retrying ∧ Abandoned p ∧ m.attempts = 1 := by
  have exceeded : ¬∀ p, p <+: Sample.station.play Sample.retrying →
      attempts (sinceDown p) ≤ connectResults (sinceDown p) + 1 := by
    intro bounded
    exact absurd (bounded _ List.prefix_rfl) (by decide +kernel)
  rw [one_attempt_outstanding_iff Sample.run_retrying] at exceeded
  simp only [not_forall] at exceeded
  obtain ⟨p, m, h, abandoned, began⟩ := exceeded
  exact ⟨p, m, h, abandoned, m.attempts_cases.elim (fun none => absurd none began) And.left⟩

/-- The link layer reports nothing at all, and still two attempts are outstanding in the end. -/
theorem two_attempts_outstanding :
    let moves := Sample.station.play Sample.retrying
    Run Sample.station moves (Sample.station.played Sample.retrying) ∧
      (∀ p, p <+: moves → connectResults p ≤ attempts p) ∧
      ¬∀ p, p <+: moves → attempts (sinceDown p) ≤ connectResults (sinceDown p) + 1 := by
  intro moves
  refine ⟨Sample.run_retrying, ?_, ?_⟩
  · intro p h
    have silent : connectResults moves = 0 := by decide +kernel
    have fewer : connectResults p ≤ connectResults moves := h.sublist.countP_le
    omega
  · intro bounded
    exact absurd (bounded moves List.prefix_rfl) (by decide +kernel)

end WirelessStation.Station
