import WirelessStation.Proofs.Changes
import WirelessStation.Proofs.Orderly

/-! # What becomes of a catalogue in a run

In the course of a run the catalogue of an interface changes in three ways
(`Move.catalogue_cases`): a scan is taken in, everything is dropped, or what is known about the
secret of a network changes and nothing else does (`Catalogue.Rekeyed`).  The first two are
renewals, and the third keeps a catalogue settled as well.  The catalogues that come about in these
ways are `Reachable`; at every moment of a run the catalogue is one of them (`Run.reachable`). -/

namespace WirelessStation

/-- Lists whose entries are related one by one have the same values of whatever the relation keeps.
-/
theorem map_eq_of_forall₂ {α β γ : Type} {R : α → β → Prop} {f : α → γ} {g : β → γ} {l : List α}
    {m : List β} (h : List.Forall₂ R l m) (same : ∀ a b, R a b → f a = g b) : l.map f = m.map g := by
  rw [← List.forall₂_eq_eq_eq, List.forall₂_map_left_iff, List.forall₂_map_right_iff]
  exact h.imp same

namespace Network

/-- Two states of a network that differ at most in what is known about its secret. -/
def Rekeyed (n n' : Network) : Prop :=
  ∃ supplied distrusted, n' = { n with supplied, distrusted }

theorem Rekeyed.refl (n : Network) : n.Rekeyed n :=
  ⟨n.supplied, n.distrusted, rfl⟩

theorem rekeyed_supply (settings : Settings) (n : Network) : n.Rekeyed (n.supply settings) :=
  ⟨some settings, n.distrusted, rfl⟩

theorem rekeyed_connectFailed (n : Network) : n.Rekeyed n.connectFailed := by
  unfold connectFailed
  split
  · exact .refl n
  · split
    · exact ⟨none, n.distrusted, rfl⟩
    · exact ⟨n.supplied, true, rfl⟩

theorem rekeyed_syncCredentials (n : Network) : n.Rekeyed n.syncCredentials.1 := by
  unfold syncCredentials
  split
  · exact ⟨none, false, rfl⟩
  · exact .refl n

/-- What is known about a secret has nothing to do with the place of a network in a catalogue. -/
theorem OnFile.rekeyed {c d : Catalogue} {n n' : Network} (h : n.OnFile c) (same : n.Rekeyed n')
    (device : d.device = c.device) (kept : ∀ o ∈ c.observations, o ∈ d.observations) :
    n'.OnFile d := by
  obtain ⟨supplied, distrusted, rfl⟩ := same
  have here := h.more device kept
  exact ⟨here.path_eq, here.descending, here.distinct, here.current⟩

end Network

namespace Catalogue

/-- Two states of a catalogue that differ at most in what is known about the secrets of its
networks. -/
structure Rekeyed (c d : Catalogue) : Prop where
  device : d.device = c.device
  observations : d.observations = c.observations
  networks : List.Forall₂ Network.Rekeyed c.networks d.networks

theorem rekeyed_modify {c : Catalogue} {path : String} {change : Network → Network}
    (keeps : ∀ n ∈ c.networks, n.path = path → n.Rekeyed (change n)) :
    c.Rekeyed (c.modify path change) := by
  refine ⟨rfl, rfl, ?_⟩
  rw [modify, List.forall₂_map_right_iff, List.forall₂_same]
  intro n hn
  split
  next here => exact keeps n hn here
  next => exact .refl n

namespace Rekeyed

variable {c d : Catalogue}

theorem refl (c : Catalogue) : c.Rekeyed c :=
  ⟨rfl, rfl, List.forall₂_same.2 fun n _ => .refl n⟩

theorem of_eq (h : d = c) : c.Rekeyed d :=
  h ▸ refl c

theorem exists_before (h : c.Rekeyed d) {n' : Network} (there : n' ∈ d.networks) :
    ∃ n ∈ c.networks, n.Rekeyed n' := by
  obtain ⟨i, hi, rfl⟩ := List.getElem_of_mem there
  have same := h.networks.length_eq
  exact ⟨c.networks[i], List.getElem_mem _, h.networks.get (by omega) hi⟩

theorem exists_after (h : c.Rekeyed d) {n : Network} (there : n ∈ c.networks) :
    ∃ n' ∈ d.networks, n.Rekeyed n' := by
  obtain ⟨i, hi, rfl⟩ := List.getElem_of_mem there
  have same := h.networks.length_eq
  exact ⟨d.networks[i], List.getElem_mem _, h.networks.get hi (by omega)⟩

theorem paths (h : c.Rekeyed d) : d.networks.map (·.path) = c.networks.map (·.path) := by
  refine (map_eq_of_forall₂ h.networks ?_).symm
  rintro n _ ⟨_, _, rfl⟩
  rfl

end Rekeyed

/-- A catalogue stays settled when only what is known about secrets changes. -/
theorem Settled.rekeyed {c d : Catalogue} (h : c.Settled) (r : c.Rekeyed d) : d.Settled := by
  have kept : ∀ o ∈ c.observations, o ∈ d.observations := by
    rw [r.observations]
    exact fun _ ho => ho
  refine ⟨⟨?_, ?_, ?_, ?_⟩, ?_⟩
  · rw [r.paths]
    exact h.paths
  · intro n' there
    obtain ⟨n, hn, same⟩ := r.exists_before there
    exact (h.networks n hn).rekeyed same r.device kept
  · rw [r.observations]
    exact h.addresses
  · rw [r.observations]
    intro o ho
    obtain ⟨n, hn, lists⟩ := h.listed o ho
    obtain ⟨_, there, _, _, rfl⟩ := r.exists_after hn
    exact ⟨_, there, lists⟩
  · intro n' there
    obtain ⟨n, hn, _, _, rfl⟩ := r.exists_before there
    exact h.heard n hn

/-- The catalogues that an interface can have: scans are taken in, with any access point in use and
any answers of a store, everything is dropped, and what is known about secrets changes. -/
inductive Reachable : Catalogue → Prop
  | new (device : String) : Reachable { device }
  | renew {c : Catalogue} (h : Reachable c) (r : Renewal) : Reachable (c.renew r)
  | rekeyed {c d : Catalogue} (h : Reachable c) (r : c.Rekeyed d) : Reachable d

theorem Reachable.settled {c : Catalogue} (h : c.Reachable) : c.Settled := by
  induction h with
  | new device => exact .new device
  | renew _ r ih => exact ih.renew r
  | rekeyed _ r ih => exact ih.rekeyed r

end Catalogue

namespace Station

/-! ### Moves -/

/-- Without an attempt the catalogue is dropped along with the connection, or rekeyed. -/
theorem Changed.catalogue {op : Operation} {result : Result} {s s' : Station}
    (h : Changed op result s s') (filed : s.catalogue.Filed) :
    (s'.connection = none ∧ s'.catalogue = (s.catalogue.clear .shutdown).1) ∨
      s.catalogue.Rekeyed s'.catalogue := by
  cases h with
  | same catalogue _ => exact .inr (.of_eq catalogue)
  | released catalogue _ => exact .inr (.of_eq catalogue)
  | cleared catalogue connection => exact .inl ⟨connection, catalogue⟩
  | failed _ catalogue _ =>
    rw [catalogue]
    exact .inr (Catalogue.rekeyed_modify fun n _ _ => n.rekeyed_connectFailed)
  | supplied _ _ catalogue _ =>
    rw [catalogue]
    exact .inr (Catalogue.rekeyed_modify fun n _ _ => n.rekeyed_supply _)
  | kept _ _ found catalogue _ =>
    rw [catalogue]
    refine .inr (Catalogue.rekeyed_modify fun n hn here => ?_)
    -- The path belongs to one network, so none is replaced by another one.
    obtain rfl := filed.eq_of_network? found hn here
    exact Network.rekeyed_syncCredentials _

namespace Move

variable {m : Move}

theorem scan?_of_not_mayAttempt (quiet : m.op.mayAttempt = false) : m.scan? = none := by
  unfold scan?
  split
  next scanned =>
    rw [scanned] at quiet
    cases quiet
  next => rfl

/-- Attempts are made in the catalogue that a scan leaves, if there is one. -/
theorem catalogue_informed (m : Move) :
    m.informed.catalogue =
      match m.scan? with
      | some observations =>
        (m.before.catalogue.ingest observations (Turn.pin m.before) m.env.store
          m.env.now).catalogue
      | none => m.before.catalogue := by
  unfold informed
  cases m.scan? with
  | some observations => simp
  | none => rfl

/-- A move takes a scan into the catalogue, drops everything in it or rekeys it. -/
theorem catalogue_cases (live : m.op ≠ .shutdown) (filed : m.before.catalogue.Filed) :
    (∃ observations, m.scan? = some observations ∧
      m.after.catalogue = (m.before.catalogue.ingest observations (Turn.pin m.before) m.env.store
        m.env.now).catalogue) ∨
      (m.scan? = none ∧ m.after.connection = none ∧
        m.after.catalogue = (m.before.catalogue.clear .shutdown).1) ∨
      (m.scan? = none ∧ m.before.catalogue.Rekeyed m.after.catalogue) := by
  cases may : m.op.mayAttempt with
  | true =>
    have found := catalogue_of_mayAttempt may
    rw [catalogue_informed] at found
    cases scanned : m.scan? with
    | some observations =>
      rw [scanned] at found
      exact .inl ⟨observations, rfl, found⟩
    | none =>
      rw [scanned] at found
      exact .inr (.inr ⟨rfl, .of_eq found⟩)
  | false =>
    have unscanned := scan?_of_not_mayAttempt may
    have changed := Turn.changed_perform { station := m.before } m.env live may
    rcases Changed.catalogue changed filed with ⟨connection, dropped⟩ | rekeyed
    · exact .inr (.inl ⟨unscanned, connection, dropped⟩)
    · exact .inr (.inr ⟨unscanned, rekeyed⟩)

end Move

/-- The catalogue of a station is one that an interface can have. -/
theorem Run.reachable {i : Interface} {config : Config} {moves : List Move} {s : Station}
    (run : Run (.new i config) moves s) : s.catalogue.Reachable := by
  refine run.induct (P := fun s => s.catalogue.Reachable) (.new _) ?_
  intro s env op live h
  let m : Move := ⟨s, env, op⟩
  show m.after.catalogue.Reachable
  rcases Move.catalogue_cases (m := m) live h.settled.toFiled with ⟨observations, _, taken⟩ |
    ⟨_, _, dropped⟩ | ⟨_, rekeyed⟩
  · rw [taken]
    exact h.renew (.ingest observations (Turn.pin s) env.store env.now)
  · rw [dropped]
    exact h.renew (.clear .shutdown)
  · exact h.rekeyed rekeyed

/-- The catalogue of an interface is settled at every moment of a run. -/
theorem Run.settled {i : Interface} {config : Config} {moves : List Move} {s : Station}
    (run : Run (.new i config) moves s) : s.catalogue.Settled :=
  run.reachable.settled

end Station

end WirelessStation
