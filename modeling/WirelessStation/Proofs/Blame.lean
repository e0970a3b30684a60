import WirelessStation.Proofs.Keeping

/-! # What a failed attempt is held against

When an attempt on a personal network fails, the station does not know which secret the attempt was
made with. It takes it for the supplied one if one is waiting at that moment, and for the stored one
otherwise. In between, the user may have supplied another secret, and the keys may have been
installed, which uses up what was supplied.

* `Run.traced`: the network of a connection, as the attempt behind the connection found it and as it
  is now; between the two, its secrets change as `rekeyed` says.
* `network?_of_failsAttempt`: what a failure does to it.
* `failure_blames_iff`: the secret of the attempt is blamed, and no other, in exactly these cases:
  it was stored and none was supplied since, or it was supplied and one is waiting still, since no
  keys were installed or another one was supplied after them. -/

namespace WirelessStation

namespace Network

theorem supplied_syncCredentials (n : Network) : n.syncCredentials.1.supplied = none := by
  unfold syncCredentials
  cases supplied : n.supplied <;> simp [supplied]

theorem distrusted_syncCredentials (n : Network) :
    n.syncCredentials.1.distrusted = (n.distrusted && n.supplied.isNone) := by
  unfold syncCredentials
  cases n.supplied <;> simp

theorem SameOffer.syncCredentials {n n' : Network} (h : n.SameOffer n') :
    n.syncCredentials.1.SameOffer n'.syncCredentials.1 where
  ssid := n'.later_syncCredentials.ssid.trans (h.ssid.trans n.later_syncCredentials.ssid.symm)
  security :=
    n'.later_syncCredentials.security.trans (h.security.trans n.later_syncCredentials.security.symm)
  supplied := by rw [supplied_syncCredentials, supplied_syncCredentials]
  distrusted := by
    rw [distrusted_syncCredentials, distrusted_syncCredentials, h.distrusted, h.supplied]

theorem supplied_connectFailed {n : Network} (personal : n.security = .personal) :
    n.connectFailed.supplied = none := by
  unfold connectFailed
  cases n.supplied <;> simp [personal]

theorem distrusted_connectFailed {n : Network} (personal : n.security = .personal) :
    n.connectFailed.distrusted = (n.distrusted || n.supplied.isNone) := by
  unfold connectFailed
  cases n.supplied <;> simp [personal]

/-- The secret that an attempt was made with is held against its failure, and no other. The attempt
found `planned`, the failure found `failed` and left `after`, and what was supplied in between is
`during`. -/
structure Blames (planned failed after : Network) (during : List Settings) : Prop where
  /-- A stored secret is not offered again, and what was supplied last is waiting. -/
  stored : planned.supplied = none →
    after.distrusted = true ∧ after.supplied = during.getLast?
  /-- A supplied secret is not waiting, and the stored one is trusted as before. -/
  supplied : ∀ settings, planned.supplied = some settings →
    after.supplied ≠ some settings ∧ after.distrusted = failed.distrusted

section failure

variable {planned n : Network} {during : List Settings} (personal : n.security = .personal)

include personal

/-- A stored secret is blamed unless another one was supplied, which is discarded instead. -/
theorem blames_iff_of_stored (stored : planned.supplied = none)
    (unmeddled : during = [] → n.supplied = none) :
    planned.Blames n n.connectFailed during ↔ during = [] := by
  have used := supplied_connectFailed personal
  have trust := distrusted_connectFailed personal
  constructor
  · intro blames
    have last : none = during.getLast? := used.symm.trans (blames.stored stored).2
    exact List.getLast?_eq_none_iff.1 last.symm
  · intro unsupplied
    constructor
    · intro _
      rw [trust, unmeddled unsupplied, used, unsupplied]
      exact ⟨Bool.or_true _, rfl⟩
    · intro settings supplied
      rw [stored] at supplied
      cases supplied

/-- A supplied secret is blamed if one is waiting; otherwise the stored one is, which was trusted. -/
theorem blames_iff_of_supplied (supplied : planned.supplied.isSome = true)
    (trusted : n.supplied = none → n.distrusted = false) :
    planned.Blames n n.connectFailed during ↔ n.supplied.isSome = true := by
  have used := supplied_connectFailed personal
  have trust := distrusted_connectFailed personal
  obtain ⟨settings, there⟩ := Option.isSome_iff_exists.1 supplied
  constructor
  · intro blames
    have unchanged := (blames.supplied settings there).2
    cases waiting : n.supplied with
    | some other => rfl
    | none =>
      rw [trust, waiting, trusted waiting] at unchanged
      cases unchanged
  · intro waiting
    constructor
    · intro stored
      rw [stored] at supplied
      cases supplied
    · intro _ _
      rw [trust, used, ← Option.not_isSome, waiting]
      exact ⟨by simp, Bool.or_false _⟩

end failure

end Network

namespace Station

/-! ### The secrets of a network in use -/

/-- What some moves make of the secrets of a network in use. -/
def rekeyed (network : String) (n : Network) (moves : List Move) : Network :=
  moves.foldl (fun n m => m.rekey network n) n

/-- The moves after the one in which keys were last installed. -/
def sinceKeys (moves : List Move) : List Move :=
  moves.rtakeWhile fun m => !m.installsKeys

theorem rekeyed_concat (network : String) (n : Network) (moves : List Move) (m : Move) :
    rekeyed network n (moves ++ [m]) = m.rekey network (rekeyed network n moves) :=
  List.foldl_concat _ _ _ _

theorem Move.rekey_congr {n n' : Network} (h : n.SameOffer n') (network : String) (m : Move) :
    (m.rekey network n).SameOffer (m.rekey network n') := by
  unfold Move.rekey
  cases m.supplied? network with
  | some settings => exact ⟨h.ssid, h.security, rfl, h.distrusted⟩
  | none =>
    cases m.installsKeys with
    | true => exact h.syncCredentials
    | false => exact h

theorem security_rekeyed (network : String) (n : Network) (moves : List Move) :
    (rekeyed network n moves).security = n.security := by
  induction moves using List.reverseRecOn with
  | nil => rfl
  | append_singleton moves m ih =>
    rw [rekeyed_concat, ← ih]
    unfold Move.rekey
    split
    · rfl
    · split
      · exact (Network.later_syncCredentials _).security
      · rfl

theorem Move.installsKeys_of_supplied? {network : String} {m : Move} {settings : Settings}
    (h : m.supplied? network = some settings) : m.installsKeys = false := by
  simp [installsKeys, (supplied?_eq_some h).1]

/-- A secret is waiting if one was supplied after keys were last installed, or if one was waiting
before and no keys were installed. -/
theorem isSome_supplied_rekeyed (network : String) (n : Network) (moves : List Move) :
    (rekeyed network n moves).supplied.isSome = true ↔
      suppliedFor network (sinceKeys moves) ≠ [] ∨
        n.supplied.isSome = true ∧ ∀ m ∈ moves, m.installsKeys = false := by
  induction moves using List.reverseRecOn with
  | nil => simp [rekeyed, sinceKeys, suppliedFor]
  | append_singleton moves m ih =>
    rw [rekeyed_concat]
    unfold Move.rekey
    cases supplied : m.supplied? network with
    | some settings =>
      have since : sinceKeys (moves ++ [m]) = sinceKeys moves ++ [m] :=
        List.rtakeWhile_concat_pos _ _ _ (by simp [Move.installsKeys_of_supplied? supplied])
      simp [since, suppliedFor_concat, supplied, Network.supply]
    | none =>
      cases keys : m.installsKeys with
      | true =>
        have since : sinceKeys (moves ++ [m]) = [] :=
          List.rtakeWhile_concat_neg _ _ _ (by simp [keys])
        simp [since, suppliedFor, Network.supplied_syncCredentials, keys]
      | false =>
        have since : sinceKeys (moves ++ [m]) = sinceKeys moves ++ [m] :=
          List.rtakeWhile_concat_pos _ _ _ (by simp [keys])
        rw [if_neg (by simp), ih, since, suppliedFor_concat, supplied, Option.toList_none,
          List.append_nil]
        simp [or_imp, forall_and, keys]

/-- Once what was waiting has been used up, what is stored is trusted. -/
theorem distrusted_rekeyed {network : String} {n : Network} {moves : List Move}
    (waiting : n.supplied.isSome = true) (used : (rekeyed network n moves).supplied = none) :
    (rekeyed network n moves).distrusted = false := by
  induction moves using List.reverseRecOn with
  | nil =>
    rw [show n.supplied = none from used] at waiting
    cases waiting
  | append_singleton moves m ih =>
    rw [rekeyed_concat] at used ⊢
    unfold Move.rekey at used ⊢
    cases supplied : m.supplied? network with
    | some settings => simp [supplied, Network.supply] at used
    | none =>
      simp only [supplied] at used ⊢
      cases keys : m.installsKeys with
      | true =>
        rw [if_pos rfl, Network.distrusted_syncCredentials]
        cases before : (rekeyed network n moves).supplied with
        | none => rw [ih before, Bool.false_and]
        | some settings => rw [Option.isNone_some, Bool.and_false]
      | false => exact ih (by simpa [keys] using used)

/-! ### The network of a connection -/

/-- The move `a` began the attempt that a connection comes from; it found the network as `planned`,
and the network is `n` now. -/
structure Traced (moves : List Move) (s : Station) (c : Connection) (a : Move)
    (call : Observation × Option Context) (planned n : Network) : Prop where
  last : ∃ earlier, moves = earlier ++ a :: sinceAttempt moves
  began : a.picked (begun a.env) = [call]
  asked : Turn.plan a.env a.informed c.network c.address = .ok call
  before : a.informed.catalogue.network? c.network = some planned
  found : s.catalogue.network? c.network = some n
  secrets : (rekeyed c.network planned (sinceAttempt moves)).SameOffer n

/-- Whatever happens while it is held, the network of a connection is the one that the attempt
found, with its secrets changed by what was supplied and by keys. -/
theorem Run.traced {i : Interface} {config : Config} {moves : List Move} {s : Station}
    (run : Run (.new i config) moves s) {c : Connection} (held : s.connection = some c) :
    ∃ a call planned n, Traced moves s c a call planned n := by
  refine run.induct_held
    (P := fun moves s c => ∃ a call planned n, Traced moves s c a call planned n) rfl
    ?begins ?keeps held
  case begins =>
    intro moves m c call _ asked catalogue new
    obtain ⟨n, found, _⟩ := Turn.plan_eq_ok_iff.1 asked
    have since := sinceAttempt_concat_of_attempt moves new
    refine ⟨m, call, n, n, ⟨moves, by rw [since]⟩, new, asked, found, catalogue ▸ found, ?_⟩
    rw [since]
    exact .refl n
  case keeps =>
    rintro moves m c run live before still quiet ⟨a, call, planned, n, h⟩
    have since : sinceAttempt (moves ++ [m]) = sinceAttempt moves ++ [m] :=
      sinceAttempt_concat moves (by simp [Move.attempts, quiet])
    obtain ⟨n', found, changed⟩ :=
      Move.sameOffer_rekey live run.linked run.settled.toFiled before still h.found
    obtain ⟨earlier, split⟩ := h.last
    refine ⟨a, call, planned, n', ⟨earlier, ?_⟩, h.began, h.asked, h.before, found, ?_⟩
    · rw [since, ← List.cons_append, ← List.append_assoc, ← split]
    · rw [since, rekeyed_concat]
      exact (Move.rekey_congr h.secrets c.network m).trans changed

/-! ### Failures -/

theorem network?_of_failsAttempt {s : Station} (env : Surroundings) {op : Operation}
    {c : Connection} {n : Network} (fails : op.failsAttempt = true)
    (connecting : s.state = .connecting) (held : s.connection = some c)
    (found : s.catalogue.network? c.network = some n) :
    (s.step env op).2.station.catalogue.network? c.network = some n.connectFailed := by
  let t : Turn := { station := s }
  have failed : (s.step env op).2.station.catalogue =
      s.catalogue.modify c.network Network.connectFailed := by
    unfold Operation.failsAttempt at fails
    split at fails
    · show (t.handleConnectResult .handshakeFailed).station.catalogue = _
      simp [Turn.station_handleConnectResult, t, connecting, held]
    · show (t.handleConnectResult .linkFailed).station.catalogue = _
      simp [Turn.station_handleConnectResult, t, connecting, held]
    · show (t.handleLinkEvent .apDisconnect).station.catalogue = _
      simp [Turn.station_handleLinkEvent, t, connecting, held]
    · cases fails
  have keeps : ∀ n : Network, n.path = c.network → n.connectFailed.path = c.network := by
    intro n named
    rw [Network.path_connectFailed, named]
  rw [failed, Catalogue.network?_modify keeps, if_pos rfl, found, Option.map_some]

/-- In which cases a failure is held against the secret of the attempt. -/
theorem blames_iff {network : String} {planned n : Network} {since : List Move}
    (personal : n.security = .personal) (same : (rekeyed network planned since).SameOffer n) :
    planned.Blames n n.connectFailed (suppliedFor network since) ↔
      (planned.supplied = none ∧ suppliedFor network since = []) ∨
      (planned.supplied.isSome = true ∧
        ((∀ m ∈ since, m.installsKeys = false) ∨
          suppliedFor network (sinceKeys since) ≠ [])) := by
  have waiting := isSome_supplied_rekeyed network planned since
  rw [← same.supplied] at waiting
  cases before : planned.supplied with
  | none =>
    have unmeddled (unsupplied : suppliedFor network since = []) : n.supplied = none := by
      have fewer : (suppliedFor network (sinceKeys since)).Sublist (suppliedFor network since) :=
        (List.rtakeWhile_suffix _ since).sublist.filterMap _
      rw [unsupplied, List.sublist_nil] at fewer
      simpa [before, fewer] using waiting
    rw [Network.blames_iff_of_stored personal before unmeddled]
    simp
  | some settings =>
    have trusted (used : n.supplied = none) : n.distrusted = false := by
      rw [same.distrusted]
      exact distrusted_rekeyed (by rw [before]; rfl) (same.supplied.symm.trans used)
    rw [Network.blames_iff_of_supplied personal (by rw [before]; rfl) trusted, waiting, before]
    simp [or_comm]

/-- When an attempt on a personal network fails, nothing that was supplied is waiting afterwards. The
failure is held against the secret of the attempt, and against no other, exactly if that secret was
stored and none was supplied since the attempt began, or if it was supplied and, since then, no keys
were installed or another one was supplied after them. -/
theorem failure_blames_iff {i : Interface} {config : Config} {moves : List Move} {s : Station}
    (run : Run (.new i config) moves s) (env : Surroundings) {op : Operation}
    (fails : op.failsAttempt = true) (connecting : s.state = .connecting) {c : Connection}
    {n : Network} (held : s.connection = some c)
    (found : s.catalogue.network? c.network = some n) (personal : n.security = .personal) :
    ∃ earlier a o x planned after,
      moves = earlier ++ a :: sinceAttempt moves ∧ a.picked (begun a.env) = [(o, some x)] ∧
      o.address = c.address ∧ a.informed.catalogue.network? c.network = some planned ∧
      planned.Offers a.env.store x.secret.settings ∧
      (s.step env op).2.station.catalogue.network? c.network = some after ∧
      after.supplied = none ∧
      (planned.Blames n after (suppliedFor c.network (sinceAttempt moves)) ↔
        (planned.supplied = none ∧ suppliedFor c.network (sinceAttempt moves) = []) ∨
        (planned.supplied.isSome = true ∧
          ((∀ m ∈ sinceAttempt moves, m.installsKeys = false) ∨
            suppliedFor c.network (sinceKeys (sinceAttempt moves)) ≠ []))) := by
  obtain ⟨a, ⟨o, context⟩, planned, n', traced⟩ := run.traced held
  obtain rfl : n' = n := Option.some.inj (traced.found.symm.trans found)
  obtain ⟨planned', before, _, current, negotiated⟩ := Turn.plan_eq_ok_iff.1 traced.asked
  obtain rfl : planned' = planned := Option.some.inj (before.symm.trans traced.before)
  have same : planned'.security = .personal := by
    rw [← security_rekeyed c.network planned' (sinceAttempt moves), ← traced.secrets.security,
      personal]
  obtain ⟨_, isOpen, fits⟩ := Context.fits_of_negotiate negotiated
  cases made : context with
  | none =>
    rw [isOpen.1 made] at same
    cases same
  | some x =>
    obtain ⟨earlier, split⟩ := traced.last
    exact ⟨earlier, a, o, x, planned', n'.connectFailed, split, made ▸ traced.began,
      Catalogue.address_of_observation? current, before, (fits x made).offers,
      network?_of_failsAttempt env fails connecting held found,
      Network.supplied_connectFailed personal, blames_iff personal traced.secrets⟩

/-- The only passphrase that was supplied is the one that the failed attempt was made with. -/
theorem failure_blames_iff_admitted :
    let asked := Sample.admitted ++ [Sample.join]
    let s := Sample.station.played asked
    let op : Operation := .notify (.connectResult .handshakeFailed)
    Run Sample.station (Sample.station.play asked) s ∧ op.failsAttempt = true ∧
      s.state = .connecting ∧
      s.connection = some ⟨Sample.securedNetwork, Sample.accessPoint⟩ ∧
      ∃ planned n after : Network,
        s.catalogue.network? Sample.securedNetwork = some n ∧ n.security = .personal ∧
        planned.supplied = some (Sample.passphrase "first secret") ∧
        (s.step (Sample.surroundings true) op).2.station.catalogue.network?
          Sample.securedNetwork = some after ∧
        planned.Blames n after [] := by
  intro asked s op
  let moves := Sample.station.play asked
  let begins : Move := ⟨Sample.station.played Sample.admitted, Sample.join.1, Sample.join.2⟩
  have run : Run Sample.station moves s :=
    Sample.run asked (by simp [asked, Sample.admitted, Sample.join])
  have connecting : s.state = .connecting := by decide +kernel
  have held : s.connection = some ⟨Sample.securedNetwork, Sample.accessPoint⟩ := by
    decide +kernel
  have secured : (s.catalogue.network? Sample.securedNetwork).map (·.security) =
      some .personal := by decide +kernel
  obtain ⟨n, found, personal⟩ := Option.map_eq_some_iff.1 secured
  have since : sinceAttempt moves = [] := by
    have none : (sinceAttempt moves).length = 0 := by decide +kernel
    exact List.length_eq_zero_iff.1 none
  obtain ⟨earlier, a, o, x, planned, after, split, _, _, before, _, failed, _, blames⟩ :=
    failure_blames_iff run (Sample.surroundings true) (rfl : op.failsAttempt = true) connecting held
      found personal
  rw [since] at split blames
  have made : moves = Sample.station.play Sample.admitted ++ [begins] := rfl
  obtain ⟨_, rfl⟩ := List.append_singleton_inj.1 (split.symm.trans made)
  have waiting : (begins.informed.catalogue.network? Sample.securedNetwork).map (·.supplied) =
      some (some (Sample.passphrase "first secret")) := by decide +kernel
  rw [before, Option.map_some, Option.some.injEq] at waiting
  have alone : planned.Blames n after [] := blames.2 (.inr ⟨by rw [waiting]; rfl, .inl (by simp)⟩)
  exact ⟨run, rfl, connecting, held, planned, n, after, found, personal, waiting, failed, alone⟩

/-- The store holds a passphrase for every network. -/
def Sample.stocked : Surroundings :=
  { Sample.surroundings true with
    store := ⟨fun _ _ => none, fun _ _ => some (Sample.passphrase "stored secret")⟩ }

/-- An attempt is made with the stored passphrase, and another one is supplied meanwhile. -/
def Sample.meddled : List (Surroundings × Operation) :=
  [(Sample.stocked, .notify .up), (Sample.stocked, .notify (.scanResults [Sample.secured])),
    (Sample.stocked, .connect Sample.securedNetwork Sample.accessPoint none),
    (Sample.stocked, .setSecret Sample.securedNetwork (Sample.passphrase "other secret"))]

/-- The failure of that attempt discards the passphrase that it was not made with, and the stored
one is offered again. -/
theorem untried_secret_blamed :
    let moves := Sample.station.play Sample.meddled
    let s := Sample.station.played Sample.meddled
    let after := (s.step Sample.stocked (.notify (.connectResult .handshakeFailed))).2.station
    Run Sample.station moves s ∧ s.state = .connecting ∧
      s.connection = some ⟨Sample.securedNetwork, Sample.accessPoint⟩ ∧
      ((lastAttempt moves).bind Prod.snd).map (fun x => x.secret.settings) =
        some (Sample.passphrase "stored secret") ∧
      (s.catalogue.network? Sample.securedNetwork).map (fun n => (n.security, n.supplied)) =
        some (.personal, some (Sample.passphrase "other secret")) ∧
      (after.catalogue.network? Sample.securedNetwork).map
          (fun n => (n.supplied, n.settings Sample.stocked.store)) =
        some (none, some (Sample.passphrase "stored secret")) := by
  intro moves s after
  have run : Run Sample.station moves s := Sample.run Sample.meddled (by simp [Sample.meddled])
  refine ⟨run, ?_, ?_, ?_, ?_, ?_⟩ <;> decide +kernel

end Station

end WirelessStation
