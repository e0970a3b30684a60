import WirelessStation.Proofs.Blame
import WirelessStation.Proofs.Relisting
import WirelessStation.Proofs.Timely

/-! # When a stored secret is trusted

A network whose stored secret failed does not offer what is stored again.  That is remembered in the
network itself, by a mark that is set at one moment of a run and read at any later one.  Each move
sets the mark or takes it away in few cases only (`Move.distrusts_after`): a failure that is held
against the stored secret sets it, and keys that were installed with a supplied secret, or the end
of the network, take it away.  So a network is marked exactly if the stored secret was rejected
since trust in it was last restored (`Run.distrusts_eq`). -/

namespace WirelessStation

/-- A failure that is not held against the stored secret leaves the mark alone. -/
theorem Network.distrusted_connectFailed_of_not {n : Network}
    (spared : ¬(n.security = .personal ∧ n.supplied = none)) :
    n.connectFailed.distrusted = n.distrusted := by
  by_cases personal : n.security = .personal
  · have waiting : n.supplied.isNone = false := by
      rw [← Bool.not_eq_true, Option.isNone_iff_eq_none]
      exact fun unsupplied => spared ⟨personal, unsupplied⟩
    rw [distrusted_connectFailed personal, waiting, Bool.or_false]
  · rw [connectFailed, if_pos personal]

namespace Catalogue

variable {c : Catalogue}

/-- Whether there is a network with this path that does not offer what is stored for it. -/
def distrusts (c : Catalogue) (path : String) : Bool :=
  (c.network? path).any (·.distrusted)

theorem distrusts_of_network? {path : String} {n : Network} (found : c.network? path = some n) :
    c.distrusts path = n.distrusted := by
  rw [distrusts, found, Option.any_some]

/-- Nothing that is not there is distrusted, and so a mark that is the same is that of a network
that is left. -/
theorem distrusts_of_same {c' : Catalogue} {path : String}
    (same : c'.distrusts path = c.distrusts path) :
    c'.distrusts path = (c.distrusts path && (c'.network? path).isSome) := by
  rw [← same, distrusts]
  cases c'.network? path <;> simp

theorem distrusts_modify {path other : String} {change : Network → Network}
    (keeps : ∀ n, n.path = other → (change n).path = other)
    (same : ∀ n, path = other → c.network? path = some n →
      (change n).distrusted = n.distrusted) :
    (c.modify other change).distrusts path = c.distrusts path := by
  unfold distrusts
  rw [network?_modify keeps]
  split
  next here =>
    cases found : c.network? path with
    | none => rfl
    | some n => simp [same n here found]
  next => rfl

/-- A scan keeps the mark of a network that it leaves, and a network that is heard for the first
time has none. -/
theorem distrusts_ingest (h : c.Settled) (observations : List Observation) (pin : Option Pin)
    (source : CredentialSource) (now : Moment) (path : String) :
    (c.ingest observations pin source now).catalogue.distrusts path =
      (c.distrusts path &&
        ((c.ingest observations pin source now).catalogue.network? path).isSome) := by
  cases found : (c.ingest observations pin source now).catalogue.network? path with
  | none => simp [distrusts, found]
  | some n =>
    rw [distrusts_of_network? found, Option.isSome_some, Bool.and_true]
    have there := List.mem_of_find?_eq_some found
    rw [ingest_eq h.toFiled.named] at there
    obtain ⟨old, known, _, regrouped⟩ := mem_networks_regrouped.1 there
    have named : old.path = path := by
      rw [← path_of_network? found, ← regrouped]
      rfl
    have kept : n.distrusted = old.distrusted := by rw [← regrouped]; rfl
    rw [kept, ← named]
    rcases List.mem_append.1 known with before | new
    · exact (distrusts_of_network? (find?_key_of_mem h.paths before)).symm
    · have distinct := nodup_paths_known h now (heard observations)
      rw [Catalogue.known, List.map_append, List.nodup_append'] at distinct
      have absent : c.network? old.path = none := by
        refine List.find?_eq_none.2 fun n' hn' same => ?_
        have here : old.path ∈ c.networks.map (·.path) :=
          List.mem_map.2 ⟨n', hn', by simpa using same⟩
        exact distinct.2.2 here (List.mem_map_of_mem new)
      obtain ⟨home, _, rfl⟩ := List.mem_map.1 new
      rw [distrusts, absent]
      rfl

end Catalogue

namespace Station

namespace Move

/-- Whether a move reports that an attempt on a personal network failed while nothing that was
supplied for the network was waiting: that is held against what is stored. -/
def rejectsStored (path : String) (m : Move) : Bool :=
  m.op.failsAttempt && m.before.state == .connecting && m.before.connectedNetwork == some path &&
    (m.before.catalogue.network? path).any fun n =>
      n.security == .personal && n.supplied.isNone

/-- Whether keys are installed in a move with what was supplied for a network. -/
def provesSupplied (path : String) (m : Move) : Bool :=
  m.installsKeys && m.before.connectedNetwork == some path &&
    (m.before.catalogue.network? path).any (·.supplied.isSome)

/-- Whether a move restores trust in what is stored for a network: what was supplied takes its
place, or the network goes. -/
def restoresStored (path : String) (m : Move) : Bool :=
  m.provesSupplied path || (m.after.catalogue.network? path).isNone

variable {m : Move} {path : String}

theorem rejectsStored_iff :
    m.rejectsStored path = true ↔
      m.op.failsAttempt = true ∧ m.before.state = .connecting ∧
        (∃ c, m.before.connection = some c ∧ c.network = path) ∧
        ∃ n, m.before.catalogue.network? path = some n ∧ n.security = .personal ∧
          n.supplied = none := by
  simp [rejectsStored, connectedNetwork, Option.any_eq_true, and_assoc]

theorem provesSupplied_iff :
    m.provesSupplied path = true ↔
      m.installsKeys = true ∧ (∃ c, m.before.connection = some c ∧ c.network = path) ∧
        ∃ n, m.before.catalogue.network? path = some n ∧ n.supplied.isSome = true := by
  simp [provesSupplied, connectedNetwork, Option.any_eq_true, and_assoc]

/-- What is held against the stored secret is remembered. -/
theorem network?_of_rejectsStored (rejects : m.rejectsStored path = true) :
    ∃ n, m.after.catalogue.network? path = some n ∧ n.distrusted = true := by
  obtain ⟨fails, connecting, ⟨c, held, rfl⟩, n, found, personal, unsupplied⟩ :=
    rejectsStored_iff.1 rejects
  refine ⟨_, network?_of_failsAttempt m.env fails connecting held found, ?_⟩
  rw [Network.distrusted_connectFailed personal, unsupplied]
  exact Bool.or_true _

theorem not_restoresStored_of_rejectsStored (rejects : m.rejectsStored path = true) :
    m.restoresStored path = false := by
  obtain ⟨n, there, _⟩ := network?_of_rejectsStored rejects
  have unkeyed : m.installsKeys = false := by
    rw [← Bool.not_eq_true]
    intro keys
    have fails := (rejectsStored_iff.1 rejects).1
    rw [installsKeys_iff.1 keys] at fails
    cases fails
  simp [restoresStored, provesSupplied, unkeyed, there]

theorem distrusts_of_provesSupplied (proves : m.provesSupplied path = true) :
    m.after.catalogue.distrusts path = false := by
  obtain ⟨keys, ⟨c, held, rfl⟩, n, found, supplied⟩ := provesSupplied_iff.1 proves
  rw [Catalogue.distrusts_of_network? (network?_of_installsKeys keys held found),
    Network.distrusted_syncCredentials, ← Option.not_isSome, supplied]
  exact Bool.and_false _

/-- An attempt marks no network, and a scan leaves the marks of the networks that it leaves. -/
theorem distrusts_of_mayAttempt (settled : m.before.catalogue.Settled)
    (may : m.op.mayAttempt = true) :
    m.after.catalogue.distrusts path =
      (m.before.catalogue.distrusts path && (m.after.catalogue.network? path).isSome) := by
  have taken := catalogue_of_mayAttempt may
  rw [catalogue_informed] at taken
  cases scanned : m.scan? with
  | none =>
    rw [scanned] at taken
    exact Catalogue.distrusts_of_same (congrArg (·.distrusts path) taken)
  | some observations =>
    rw [scanned] at taken
    rw [taken]
    exact Catalogue.distrusts_ingest settled observations _ _ _ path

/-- In all other cases a network that is left is marked as it was, unless the stored secret is
rejected or a supplied one takes its place. -/
theorem distrusts_of_neither (live : m.op ≠ .shutdown) (linked : Linked m.before)
    (timely : Timely m.before) (may : m.op.mayAttempt = false)
    (keeps : m.rejectsStored path = false) (unproved : m.provesSupplied path = false) :
    m.after.catalogue.distrusts path =
      (m.before.catalogue.distrusts path && (m.after.catalogue.network? path).isSome) := by
  cases Turn.changed_perform { station := m.before } m.env live may with
  | same catalogue _ | released catalogue _ =>
    exact Catalogue.distrusts_of_same (congrArg (·.distrusts path) catalogue)
  | cleared catalogue _ =>
    have gone : m.after.catalogue.network? path = none := by
      rw [show m.after.catalogue = _ from catalogue]
      rfl
    simp [Catalogue.distrusts, gone]
  | supplied _ _ catalogue _ =>
    refine Catalogue.distrusts_of_same ((congrArg (·.distrusts path) catalogue).trans ?_)
    refine Catalogue.distrusts_modify ?_ fun _ _ _ => rfl
    exact fun _ named => named
  | @failed c held catalogue _ reported underWay =>
    refine Catalogue.distrusts_of_same ((congrArg (·.distrusts path) catalogue).trans ?_)
    refine Catalogue.distrusts_modify (fun n named => ?_) fun n here found => ?_
    · rw [Network.path_connectFailed, named]
    · refine Network.distrusted_connectFailed_of_not fun ⟨personal, unsupplied⟩ => ?_
      -- Nobody waits for a connection that is up, and so the attempt was under way.
      have connecting : m.before.state = .connecting := by
        rcases linked.held_iff.1 (by rw [held]; rfl) with connecting | connected
        · exact connecting
        · refine underWay.elim id fun waits => ?_
          exact absurd connected (timely.connect_waits waits).2
      have rejects : m.rejectsStored path = true := rejectsStored_iff.2
        ⟨reported, connecting, ⟨c, held, here.symm⟩, n, found, personal, unsupplied⟩
      rw [keeps] at rejects
      cases rejects
  | @kept c n heard held found catalogue _ =>
    refine Catalogue.distrusts_of_same ((congrArg (·.distrusts path) catalogue).trans ?_)
    refine Catalogue.distrusts_modify (fun _ _ => ?_) fun n' here found' => ?_
    · rw [Network.path_syncCredentials]
      exact Catalogue.path_of_network? found
    · obtain rfl : n = n' := Option.some.inj (found.symm.trans (here ▸ found'))
      have unused : n.supplied.isSome = false := by
        rw [← Bool.not_eq_true]
        intro supplied
        have proves : m.provesSupplied path = true := provesSupplied_iff.2
          ⟨installsKeys_iff.2 heard, ⟨c, held, here.symm⟩, n, found', supplied⟩
        rw [unproved] at proves
        cases proves
      rw [Network.distrusted_syncCredentials, ← Option.not_isSome, unused]
      exact Bool.and_true _

/-- A network is marked after a move if the stored secret was rejected in it, or if it was marked
before and the move did not restore trust. -/
theorem distrusts_after (live : m.op ≠ .shutdown) (linked : Linked m.before)
    (timely : Timely m.before) (settled : m.before.catalogue.Settled) :
    m.after.catalogue.distrusts path =
      (m.rejectsStored path ||
        (m.before.catalogue.distrusts path && !m.restoresStored path)) := by
  cases rejects : m.rejectsStored path with
  | true =>
    obtain ⟨n, found, marked⟩ := network?_of_rejectsStored rejects
    rw [Catalogue.distrusts_of_network? found, marked, Bool.true_or]
  | false =>
    cases proves : m.provesSupplied path with
    | true => simp [restoresStored, proves, distrusts_of_provesSupplied proves]
    | false =>
      have left : m.after.catalogue.distrusts path =
          (m.before.catalogue.distrusts path && (m.after.catalogue.network? path).isSome) := by
        cases may : m.op.mayAttempt with
        | true => exact distrusts_of_mayAttempt settled may
        | false => exact distrusts_of_neither live linked timely may rejects proves
      rw [left]
      simp [restoresStored, proves]

end Move

/-- The moves since trust in what is stored for a network was last restored. -/
def sinceRestored (path : String) (moves : List Move) : List Move :=
  moves.rtakeWhile fun m => !m.restoresStored path

/-- A network does not offer what is stored for it exactly if that was rejected since trust in it
was last restored. -/
theorem Run.distrusts_eq {i : Interface} {config : Config} {moves : List Move} {s : Station}
    (run : Run (.new i config) moves s) (path : String) :
    s.catalogue.distrusts path = (sinceRestored path moves).any (·.rejectsStored path) := by
  induction run with
  | start => rfl
  | @move moves s run env op live ih =>
    let m : Move := ⟨s, env, op⟩
    have after : m.after.catalogue.distrusts path =
        (m.rejectsStored path || (s.catalogue.distrusts path && !m.restoresStored path)) :=
      Move.distrusts_after live run.linked run.timely run.settled
    show m.after.catalogue.distrusts path = (sinceRestored path (moves ++ [m])).any _
    cases restores : m.restoresStored path with
    | true =>
      have unrejected : m.rejectsStored path = false := by
        rw [← Bool.not_eq_true]
        intro rejects
        rw [Move.not_restoresStored_of_rejectsStored rejects] at restores
        cases restores
      have since : sinceRestored path (moves ++ [m]) = [] :=
        List.rtakeWhile_concat_neg _ _ _ (by simp [restores])
      rw [after, since, restores, unrejected]
      simp
    | false =>
      have since : sinceRestored path (moves ++ [m]) = sinceRestored path moves ++ [m] :=
        List.rtakeWhile_concat_pos _ _ _ (by simp [restores])
      rw [after, since, restores, List.any_append, ← ih]
      simp [m, Bool.or_comm]

end Station

end WirelessStation
