import Mathlib.Data.List.Forall2
import WirelessStation.Proofs.Attempts

/-! # Every attempt that is asked for was planned

An operation asks the link layer for attempts at some of its targets: the network and the access
point that it names, the best access point of the network that it names, or the candidates of
autoconnect, in their order (`Move.targets`).  Each call is the one that the station plans for its
target, whether it is accepted or refused (`Move.planned`), and `plan_eq_ok_iff` says what a planned
attempt consists of. -/

namespace WirelessStation

/-- What a candidate is a candidate for. -/
def Candidate.target (c : Candidate) : Connection := ⟨c.network, c.address⟩

theorem map_eq_ok_iff {ε α β : Type} {f : α → β} {x : Except ε α} {b : β} :
    x.map f = .ok b ↔ ∃ a, x = .ok a ∧ f a = b := by
  cases x <;> simp [Except.map]

namespace Station

/-- Picks out the attempts that the link layer is asked for, accepted or not. -/
def asked : Observer (Observation × Option Context) where
  pick
    | _, .link (.connect o context) => some (o, context)
    | _, _ => none

instance : asked.OfAttempts where
  pick_other before e other := by simp only [asked]

@[simp] theorem asked_connect (before : List Effect) (o : Observation) (context : Option Context) :
    asked.pick before (.link (.connect o context)) = some (o, context) := rfl

/-- From one turn to a later one the link layer was asked for attempts at some of the targets, in
their order, each as station `s` plans it. -/
def Tried (env : Surroundings) (s : Station) (targets : List Connection) (t t' : Turn) : Prop :=
  ∃ calls, t'.picked asked = t.picked asked ++ calls ∧
    List.SublistForall₂ (fun call c => Turn.plan env s c.network c.address = .ok call) calls targets

namespace Tried

variable {env : Surroundings} {s s' : Station} {targets later : List Connection} {t t' u : Turn}

theorem of_none (same : t'.picked asked = t.picked asked) : Tried env s targets t t' :=
  ⟨[], by simpa using same, .nil⟩

theorem of_same (h : Tried env s targets u t') (same : u.picked asked = t.picked asked) :
    Tried env s targets t t' := by
  obtain ⟨calls, picked, planned⟩ := h
  exact ⟨calls, same ▸ picked, planned⟩

theorem of_plan (h : Tried env s' targets t t')
    (same : s'.catalogue = s.catalogue ∧ s'.address = s.address ∧ s'.ciphers = s.ciphers) :
    Tried env s targets t t' := by
  obtain ⟨calls, picked, planned⟩ := h
  simp only [Turn.plan_congr env _ _ same] at planned
  exact ⟨calls, picked, planned⟩

theorem cons {c : Connection} (first : Tried env s [c] t u) (rest : Tried env s later u t') :
    Tried env s (c :: later) t t' := by
  obtain ⟨calls, picked, planned⟩ := first
  obtain ⟨calls', picked', planned'⟩ := rest
  refine ⟨calls ++ calls', by rw [picked', picked, List.append_assoc], ?_⟩
  cases planned with
  | nil => exact planned'.cons_right
  | cons here none =>
    cases none
    exact .cons here planned'
  | cons_right none =>
    cases none
    exact planned'.cons_right

end Tried

namespace Turn

variable (t : Turn) (env : Surroundings)

theorem tried_connect (network : String) (a : Address) (r : Option Requester) :
    Tried env t.station [⟨network, a⟩] t (t.connect env network a r).2 := by
  unfold connect
  split
  next => exact .of_none (by simp)
  split
  next => exact .of_none (by simp)
  next =>
    cases planned : plan env t.station network a with
    | error e => exact .of_none (by simp)
    | ok call =>
      refine ⟨[call], ?_, .cons planned .nil⟩
      simp only [call_eq]
      cases env.accepts t.log (.connect call.1 call.2) with
      | false => simp
      | true => simp [begin]

theorem tried_tryCandidates (l : List Candidate) :
    Tried env t.station (l.map Candidate.target) t (t.tryCandidates env l) := by
  induction l generalizing t with
  | nil => exact .of_none rfl
  | cons c rest ih =>
    let next := t.update fun s => { s with candidates := rest }
    have tried :
        Tried env t.station [c.target] next (next.connect env c.network c.address none).2 :=
      (next.tried_connect env c.network c.address none).of_plan ⟨rfl, rfl, rfl⟩
    unfold tryCandidates
    simp only
    split
    next t' h =>
      rw [h] at tried
      exact (tried.of_same rfl).cons (.of_none rfl)
    next e t' h =>
      have failed : (next.perform env (.connect c.network c.address none)).1 = .error e := by
        rw [perform, h]
      have refused := refused_of_error failed
      rw [perform, h] at refused
      rw [h] at tried
      have found : t'.station = next.station := refused.station_eq
      exact (tried.of_same rfl).cons ((ih t').of_plan (by simp [found, next]))

theorem tried_selectNext :
    Tried env t.station (t.station.candidates.map Candidate.target) t (t.selectNext env) := by
  unfold selectNext
  split
  · exact t.tried_tryCandidates env _
  · exact .of_none rfl

theorem tried_handleScanResults (observations : List Observation) :
    Tried env (t.takeScan env observations).station
      ((Candidate.ofCatalogue env.store (t.takeScan env observations).station.catalogue).map
        Candidate.target)
      t (t.handleScanResults env observations) := by
  have taken : (t.takeScan env observations).picked asked = t.picked asked := by simp
  rw [handleScanResults_eq]
  split
  · exact .of_none rfl
  · split
    · exact .of_none ((picked_handleRegistrars _ _ env _).trans taken)
    · split
      · refine (Tried.of_plan (tried_selectNext _ env) ?_).of_same ?_
        · simp
        · simp
      · exact .of_none taken

/-- An attempt takes a network under its path, an access point that the network lists, a current
observation of it, and a context that can be negotiated with what the network has to offer. -/
theorem plan_eq_ok_iff {env : Surroundings} {s : Station} {network : String} {a : Address}
    {o : Observation} {context : Option Context} :
    plan env s network a = .ok (o, context) ↔
      ∃ n, s.catalogue.network? network = some n ∧ n.hasAccessPoint a = true ∧
        s.catalogue.observation? a = some o ∧
        Context.negotiate o n.ssid n.security (n.settings env.store) s.address s.ciphers
          env.lister = .ok context := by
  unfold plan
  cases found : s.catalogue.network? network with
  | none => simp
  | some n =>
    cases has : n.hasAccessPoint a with
    | false => simp [has]
    | true =>
      cases current : s.catalogue.observation? a with
      | none => simp [has]
      | some q =>
        simp only [has, Bool.not_true, Bool.false_eq_true, if_false, map_eq_ok_iff,
          Option.some.injEq, Prod.mk.injEq]
        constructor
        · rintro ⟨_, negotiated, rfl, rfl⟩
          exact ⟨n, rfl, has, rfl, negotiated⟩
        · rintro ⟨_, rfl, _, rfl, negotiated⟩
          exact ⟨context, negotiated, rfl, rfl⟩

end Turn

namespace Move

/-- The networks and access points at which a move may make attempts, in their order. -/
def targets (m : Move) : List Connection :=
  match m.op with
  | .connect network a _ => [⟨network, a⟩]
  | .connectNetwork network _ =>
    let best := (m.before.catalogue.network? network).bind Network.best?
    best.toList.map fun p => ⟨network, p.address⟩
  | .selectNext => m.before.candidates.map Candidate.target
  | .notify (.scanResults _) =>
    (Candidate.ofCatalogue m.env.store m.informed.catalogue).map Candidate.target
  | _ => []

/-- Every attempt that is asked for in a move is one that the station has planned for a target. -/
theorem planned (m : Move) :
    List.SublistForall₂
      (fun call c => Turn.plan m.env m.informed c.network c.address = .ok call)
      (m.picked asked) m.targets := by
  have tried : Tried m.env m.informed m.targets { station := m.before }
      (m.before.step m.env m.op).2 := by
    obtain ⟨before, env, op⟩ := m
    let t : Turn := { station := before }
    cases may : op.mayAttempt with
    | false => exact .of_none (t.picked_perform_of_not_mayAttempt asked env may)
    | true =>
      cases op with
      | connect network a r => exact t.tried_connect env network a r
      | connectNetwork network r =>
        simp only [step, Turn.perform, Turn.connectNetwork, targets]
        cases (before.catalogue.network? network).bind Network.best? with
        | none => exact .of_none (t.picked_refuse_ofAttempts asked .notFound r)
        | some best => exact t.tried_connect env network best.address r
      | selectNext => exact t.tried_selectNext env
      | notify notification =>
        cases notification with
        | scanResults observations =>
          by_cases off : before.state = .off
          · exact .of_none (by simp [step, Turn.perform, Turn.handle, Turn.handleScanResults, off])
          · simp only [targets, informed, scan?, if_neg off]
            exact t.tried_handleScanResults env observations
        | _ => cases may
      | _ => cases may
  obtain ⟨calls, picked, planned⟩ := tried
  have fresh : Turn.picked asked { station := m.before } = [] := rfl
  rw [fresh, List.nil_append] at picked
  rw [Move.picked, picked]
  exact planned

/-- What holds of every attempt that can be planned holds of every attempt that is asked for. -/
theorem asked_of_planned {R : Observation × Option Context → Connection → Prop} {m : Move}
    (h : ∀ call c, Turn.plan m.env m.informed c.network c.address = .ok call → R call c) :
    List.SublistForall₂ R (m.picked asked) m.targets := by
  obtain ⟨tried, planned, among⟩ := List.sublistForall₂_iff.1 m.planned
  exact List.sublistForall₂_iff.2 ⟨tried, planned.imp h, among⟩

end Move

end Station

end WirelessStation
