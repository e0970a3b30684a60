import WirelessStation.Proofs.Connection
import WirelessStation.Proofs.Negotiation
import WirelessStation.Proofs.Outstanding
import WirelessStation.Proofs.Rekeying

/-! # Which secret is kept

Once the keys of a connection are installed, what was supplied for its network goes to the store.
A secret that is supplied while the attempt is under way, or later, takes the place of the one that
the attempt was made with, so it is that one which is kept although nothing was tried with it.

* `Move.sameOffer_rekey`: the secrets of the network in use are changed by supplying one and by its
  keys, whatever else happens (`sameOffer_ingest` for a scan).
* `Move.later_of_unsupplied`: so what was supplied for it stays until it is used up, unless something
  is supplied in its place.
* `Run.origin`: the connection came of the last attempt that was accepted, and what is supplied for
  its network is the secret of that attempt unless another one was supplied since.
* `kept_settings_eq`: so is what is kept. -/

namespace WirelessStation

namespace Network

/-- Two states of a network of one SSID and security type about whose secret the same is known. -/
structure SameOffer (n n' : Network) : Prop where
  ssid : n'.ssid = n.ssid
  security : n'.security = n.security
  supplied : n'.supplied = n.supplied
  distrusted : n'.distrusted = n.distrusted

theorem SameOffer.refl (n : Network) : n.SameOffer n := ⟨rfl, rfl, rfl, rfl⟩

theorem SameOffer.trans {n n' n'' : Network} (h : n.SameOffer n') (h' : n'.SameOffer n'') :
    n.SameOffer n'' where
  ssid := h'.ssid.trans h.ssid
  security := h'.security.trans h.security
  supplied := h'.supplied.trans h.supplied
  distrusted := h'.distrusted.trans h.distrusted

/-- A later state of a network: what was supplied is still there or has been used up. -/
structure Later (n n' : Network) : Prop where
  ssid : n'.ssid = n.ssid
  security : n'.security = n.security
  supplied : ∀ settings, n'.supplied = some settings → n.supplied = some settings

theorem Later.refl (n : Network) : n.Later n := ⟨rfl, rfl, fun _ h => h⟩

theorem Later.of_sameOffer {n n' n'' : Network} (h : n.Later n') (same : n'.SameOffer n'') :
    n.Later n'' :=
  ⟨same.ssid.trans h.ssid, same.security.trans h.security,
    fun settings there => h.supplied settings (same.supplied ▸ there)⟩

theorem later_syncCredentials (n : Network) : n.Later n.syncCredentials.1 := by
  unfold syncCredentials
  split
  · exact ⟨rfl, rfl, by simp⟩
  · exact .refl n

theorem sameOffer_attach (o : Observation) (n : Network) : n.SameOffer (n.attach o) :=
  ⟨rfl, rfl, rfl, rfl⟩

end Network

namespace Catalogue

theorem sameOffer_attachSeen (now : Moment) (o : Observation) (n : Network) :
    n.SameOffer (attachSeen now o n) := by
  unfold attachSeen
  split <;> exact ⟨rfl, rfl, rfl, rfl⟩

/-- A network is there, with what was supplied for it. -/
def Holds (c : Catalogue) (n : Network) : Prop :=
  ∃ n' ∈ c.networks, n'.path = n.path ∧ n.SameOffer n'

namespace Holds

variable {c : Catalogue} {n : Network}

theorem observed (h : c.Holds n) (observations : List Observation) :
    Holds { c with observations } n := h

theorem modify (h : c.Holds n) {path : String} {change : Network → Network}
    (keeps : ∀ n, (change n).path = n.path ∧ n.SameOffer (change n)) :
    (c.modify path change).Holds n := by
  obtain ⟨n', there, named, same⟩ := h
  refine ⟨_, mem_networks_modify.2 ⟨n', there, rfl⟩, ?_⟩
  split
  · exact ⟨(keeps n').1.trans named, same.trans (keeps n').2⟩
  · exact ⟨named, same⟩

theorem ensure (h : c.Holds n) (path ssid : String) (security : Security) (now : Moment) :
    (c.ensure path ssid security now).1.Holds n := by
  unfold Catalogue.ensure
  split
  · exact h
  · obtain ⟨n', there, same⟩ := h
    exact ⟨n', List.mem_append_left _ there, same⟩

theorem receive (h : c.Holds n) (ssid : String) (security : Security) (now : Moment)
    (o : Observation) : (c.receive ssid security now o).Holds n := by
  have ensured := h.ensure (networkPath c.device ssid security) ssid security now
  exact (ensured.observed _).modify fun n => ⟨path_attachSeen now o n, sameOffer_attachSeen now o n⟩

theorem keepPinned (h : c.Holds n) (pin : Pin) (previous : List Observation) :
    (Catalogue.keepPinned pin previous c).1.Holds n := by
  have attaches (o : Observation) (n : Network) :
      (n.attach o).path = n.path ∧ n.SameOffer (n.attach o) := ⟨rfl, n.sameOffer_attach o⟩
  rcases keepPinned_cases pin previous c with same | ⟨_, o, _, _, _, attached⟩ |
    ⟨o, _, _, _, carried⟩
  · rw [same]
    exact h
  · rw [attached]
    exact h.modify (attaches o)
  · rw [carried]
    exact (h.observed _).modify (attaches o)

end Holds

theorem network?_supply (c : Catalogue) (settings : Settings) (path other : String) :
    (c.modify path (Network.supply settings)).network? other =
      if other = path then (c.network? other).map (Network.supply settings)
      else c.network? other := by
  have keeps : ∀ n : Network, n.path = path → (n.supply settings).path = path :=
    fun _ named => named
  exact network?_modify keeps other

/-- A scan leaves alone what was supplied for the network in use. -/
theorem sameOffer_ingest {c : Catalogue} (filed : c.Filed) {n : Network} {a : Address}
    (placed : c.Places n.path a) (found : c.network? n.path = some n)
    (observations : List Observation) (source : CredentialSource) (now : Moment) :
    ∃ n', (c.ingest observations (some ⟨n.path, a⟩) source now).catalogue.network? n.path =
      some n' ∧ n.SameOffer n' := by
  have there : n ∈ c.networks := List.mem_of_find?_eq_some found
  obtain ⟨d, ⟨filed', held⟩, settled⟩ := ingest_induct (P := fun d => d.Filed ∧ d.Holds n)
    c observations (some ⟨n.path, a⟩) source
    ⟨filed.emptied, n.clearAccessPoints, List.mem_map_of_mem there, rfl, ⟨rfl, rfl, rfl, rfl⟩⟩
    (fun d ssid security o fresh h => ⟨h.1.receive ssid security fresh,
      h.2.receive ssid security now o⟩)
    (fun p d h => ⟨h.1.keepPinned p _, h.2.keepPinned p _⟩)
  obtain ⟨n', found', _⟩ := (placed.ingest observations source now).listed
  refine ⟨n', found', ?_⟩
  rw [settled] at found'
  have named : n'.path = n.path := path_of_network? found'
  obtain ⟨before, there', _, rfl⟩ :=
    mem_networks_settle.1 (List.mem_of_find?_eq_some found')
  obtain ⟨only, there, named', same⟩ := held
  -- Before the catalogue is settled there is one network with this path.
  have unique : only = before := filed'.eq_of_path there there' (named'.trans named.symm)
  subst unique
  exact ⟨same.ssid, same.security, same.supplied, same.distrusted⟩

end Catalogue

/-- A context was made for a network, and what is supplied for the network is what was supplied last
among `later`, or the secret of the context if nothing was. -/
structure Context.Backs (x : Context) (n : Network) (later : List Settings) : Prop where
  ssid : x.ssid = n.ssid
  security : x.secret.settings.security = n.security
  supplied : ∀ settings, n.supplied = some settings → settings = later.getLastD x.secret.settings

namespace Station

/-! ### What was supplied -/

/-- While a connection is held, its network is changed only by supplying a secret for it and by its
keys. -/
theorem Changed.network?_of_held {op : Operation} {result : Result} {s s' : Station}
    {c : Connection} {n : Network} (h : Changed op result s s') (held : s'.connection = some c)
    (found : s.catalogue.network? c.network = some n)
    (unsupplied : ∀ settings, op = .setSecret c.network settings → result ≠ .ok ())
    (unkept : op ≠ .notify (.event .settingKeys)) :
    s'.catalogue.network? c.network = some n := by
  cases h with
  | same catalogue _ => exact catalogue ▸ found
  | released _ connection | cleared _ connection | failed _ _ connection =>
    rw [connection] at held
    cases held
  | @supplied network settings asked accepted catalogue _ =>
    have other : c.network ≠ network := by
      rintro rfl
      exact unsupplied settings asked accepted
    rw [catalogue, Catalogue.network?_supply, if_neg other, found]
  | kept heard => exact absurd heard unkept

namespace Move

/-- The secret that a move supplied for a network. -/
def supplied? (network : String) (m : Move) : Option Settings :=
  match m.op, m.result with
  | .setSecret path settings, .ok () => if path = network then some settings else none
  | _, _ => none

theorem supplied?_eq_some {network : String} {m : Move} {settings : Settings}
    (h : m.supplied? network = some settings) :
    m.op = .setSecret network settings ∧ m.result = .ok () := by
  unfold supplied? at h
  split at h
  next path supplied asked accepted =>
    split at h
    next here =>
      obtain rfl := Option.some.inj h
      rw [← here]
      exact ⟨asked, accepted⟩
    next => cases h
  next => cases h

theorem supplied?_of_setSecret {network path : String} {m : Move} {settings : Settings}
    (asked : m.op = .setSecret path settings) (accepted : m.result = .ok ()) :
    m.supplied? network = if path = network then some settings else none := by
  simp [supplied?, asked, accepted]

/-- What was supplied for a network in a move is there afterwards. -/
theorem catalogue_of_supplied? {network : String} {m : Move} {settings : Settings}
    (h : m.supplied? network = some settings) :
    m.after.catalogue = m.before.catalogue.modify network (Network.supply settings) := by
  obtain ⟨before, env, op⟩ := m
  obtain ⟨asked, accepted⟩ := supplied?_eq_some h
  simp only at asked
  subst asked
  let t : Turn := { station := before }
  show (t.setSecret network settings).2.station.catalogue = _
  rcases t.setSecret_cases env network settings with refused | outcome
  · exact absurd accepted refused.result_ne_ok
  · rw [outcome]
    rfl

theorem network?_of_supplied? {m : Move} {network : String} {n : Network} {settings : Settings}
    (h : m.supplied? network = some settings)
    (found : m.before.catalogue.network? network = some n) :
    m.after.catalogue.network? network = some (n.supply settings) := by
  rw [catalogue_of_supplied? h, Catalogue.network?_supply, if_pos rfl, found, Option.map_some]

/-- Whether a move reports that the keys of a connection are installed. -/
def installsKeys (m : Move) : Bool :=
  match m.op with
  | .notify (.event .settingKeys) => true
  | _ => false

theorem installsKeys_iff {m : Move} :
    m.installsKeys = true ↔ m.op = .notify (.event .settingKeys) := by
  unfold installsKeys
  split
  next heard => simp [heard]
  next other => simpa using other

/-- Keys use up what was supplied for the network in use. -/
theorem network?_of_installsKeys {m : Move} {c : Connection} {n : Network}
    (keys : m.installsKeys = true) (held : m.before.connection = some c)
    (found : m.before.catalogue.network? c.network = some n) :
    m.after.catalogue.network? c.network = some n.syncCredentials.1 := by
  obtain ⟨before, env, op⟩ := m
  obtain rfl : op = .notify (.event .settingKeys) := installsKeys_iff.1 keys
  let t : Turn := { station := before }
  have keeps : ∀ n' : Network, n'.path = c.network → n.syncCredentials.1.path = c.network := by
    intro n' _
    rw [Network.path_syncCredentials]
    exact Catalogue.path_of_network? found
  show (t.handleLinkEvent .settingKeys).station.catalogue.network? c.network = _
  simp only [Turn.station_handleLinkEvent, show t.station.connection = some c from held,
    Turn.station_keepSecret, show t.station.catalogue.network? c.network = some n from found]
  rw [Catalogue.network?_modify keeps, if_pos rfl]
  exact congrArg (Option.map _) found

/-- What a move does to the secrets of a network in use. -/
def rekey (network : String) (m : Move) (n : Network) : Network :=
  match m.supplied? network with
  | some settings => n.supply settings
  | none => if m.installsKeys then n.syncCredentials.1 else n

/-- While a connection is held, nothing but supplying and keys changes the secrets of its network. -/
theorem sameOffer_rekey {m : Move} {c : Connection} {n : Network} (live : m.op ≠ .shutdown)
    (linked : Linked m.before) (filed : m.before.catalogue.Filed)
    (held : m.before.connection = some c) (still : m.after.connection = some c)
    (found : m.before.catalogue.network? c.network = some n) :
    ∃ n', m.after.catalogue.network? c.network = some n' ∧ (m.rekey c.network n).SameOffer n' := by
  unfold rekey
  cases supplied : m.supplied? c.network with
  | some settings => exact ⟨_, network?_of_supplied? supplied found, .refl _⟩
  | none =>
    cases keys : m.installsKeys with
    | true => exact ⟨_, network?_of_installsKeys keys held found, .refl _⟩
    | false =>
      rw [if_neg (by simp)]
      cases may : m.op.mayAttempt with
      | false =>
        have changed := Turn.changed_perform { station := m.before } m.env live may
        refine ⟨n, changed.network?_of_held still found ?_ ?_, .refl n⟩
        · intro settings asked accepted
          rw [supplied?_of_setSecret asked accepted, if_pos rfl] at supplied
          cases supplied
        · intro heard
          rw [installsKeys_iff.2 heard] at keys
          cases keys
      | true =>
        have informed := catalogue_of_mayAttempt may
        rw [catalogue_informed] at informed
        cases scanned : m.scan? with
        | none =>
          rw [scanned] at informed
          exact ⟨n, informed ▸ found, .refl n⟩
        | some observations =>
          have named : n.path = c.network := Catalogue.path_of_network? found
          have pin : Turn.pin m.before = some ⟨n.path, c.address⟩ := by
            simp [Turn.pin, held, named]
          have placed : m.before.catalogue.Places n.path c.address :=
            named ▸ linked.placed c held
          rw [scanned, pin] at informed
          rw [← named] at found ⊢
          obtain ⟨n', found', same⟩ :=
            Catalogue.sameOffer_ingest filed placed found observations m.env.store m.env.now
          exact ⟨n', informed ▸ found', same⟩

/-- A network in use keeps its SSID, its security type and what was supplied for it, or uses that
up, unless a secret is supplied for it. -/
theorem later_of_unsupplied {m : Move} {c : Connection} {n : Network} (live : m.op ≠ .shutdown)
    (linked : Linked m.before) (filed : m.before.catalogue.Filed)
    (held : m.before.connection = some c) (still : m.after.connection = some c)
    (found : m.before.catalogue.network? c.network = some n)
    (unsupplied : m.supplied? c.network = none) :
    ∃ n', m.after.catalogue.network? c.network = some n' ∧ n.Later n' := by
  obtain ⟨n', found', same⟩ := sameOffer_rekey live linked filed held still found
  have later : n.Later (m.rekey c.network n) := by
    unfold rekey
    rw [unsupplied]
    cases m.installsKeys with
    | true => exact n.later_syncCredentials
    | false => exact .refl n
  exact ⟨n', found', later.of_sameOffer same⟩

end Move

/-! ### The attempt behind a connection -/

/-- The last attempt of some moves that the link layer accepted. -/
def lastAttempt (moves : List Move) : Option (Observation × Option Context) :=
  (moves.flatMap fun m => m.picked (begun m.env)).getLast?

/-- The secrets that were supplied for a network in the course of some moves. -/
def suppliedFor (network : String) (moves : List Move) : List Settings :=
  moves.filterMap (Move.supplied? network)

section concat

variable (moves : List Move) {m : Move}

theorem lastAttempt_concat_of_quiet (quiet : m.picked (begun m.env) = []) :
    lastAttempt (moves ++ [m]) = lastAttempt moves := by
  rw [lastAttempt, List.flatMap_append, List.flatMap_singleton, quiet, List.append_nil, lastAttempt]

theorem lastAttempt_concat {call : Observation × Option Context}
    (new : m.picked (begun m.env) = [call]) : lastAttempt (moves ++ [m]) = some call := by
  rw [lastAttempt, List.flatMap_append, List.flatMap_singleton, new, List.getLast?_concat]

theorem suppliedFor_concat (network : String) (m : Move) :
    suppliedFor network (moves ++ [m]) =
      suppliedFor network moves ++ (m.supplied? network).toList := by
  rw [suppliedFor, List.filterMap_append, suppliedFor]
  cases h : m.supplied? network <;> simp [h]

theorem sinceAttempt_concat_of_attempt {call : Observation × Option Context}
    (new : m.picked (begun m.env) = [call]) : sinceAttempt (moves ++ [m]) = [] :=
  List.rtakeWhile_concat_neg _ _ _ (by simp [Move.attempts, new])

end concat

/-- An attempt is the one that a connection to a network comes from. -/
structure Origin (moves : List Move) (s : Station) (c : Connection)
    (call : Observation × Option Context) (n : Network) : Prop where
  last : lastAttempt moves = some call
  address : call.1.address = c.address
  found : s.catalogue.network? c.network = some n
  backed : n.security.needsHandshake = true →
    ∃ x, call.2 = some x ∧ x.Backs n (suppliedFor c.network (sinceAttempt moves))

namespace Origin

variable {moves : List Move} {m : Move} {c : Connection} {call : Observation × Option Context}

/-- The attempt stays the one that a connection comes from while the connection is held. -/
theorem move {n : Network} (h : Origin moves m.before c call n) (live : m.op ≠ .shutdown)
    (linked : Linked m.before) (filed : m.before.catalogue.Filed)
    (held : m.before.connection = some c) (still : m.after.connection = some c)
    (quiet : m.picked (begun m.env) = []) : ∃ n', Origin (moves ++ [m]) m.after c call n' := by
  have since : sinceAttempt (moves ++ [m]) = sinceAttempt moves ++ [m] :=
    sinceAttempt_concat moves (by simp [Move.attempts, quiet])
  have last := (lastAttempt_concat_of_quiet moves quiet).trans h.last
  have later := suppliedFor_concat (sinceAttempt moves) c.network m
  cases supplied : m.supplied? c.network with
  | some settings =>
    refine ⟨n.supply settings, last, h.address, Move.network?_of_supplied? supplied h.found, ?_⟩
    intro needs
    obtain ⟨x, made, backs⟩ := h.backed needs
    refine ⟨x, made, backs.ssid, backs.security, ?_⟩
    rintro _ ⟨⟩
    rw [since, later, supplied, Option.toList_some, List.getLastD_concat]
  | none =>
    obtain ⟨n', found, kept⟩ :=
      Move.later_of_unsupplied live linked filed held still h.found supplied
    refine ⟨n', last, h.address, found, ?_⟩
    rw [kept.security]
    intro needs
    obtain ⟨x, made, backs⟩ := h.backed needs
    refine ⟨x, made, backs.ssid.trans kept.ssid.symm, backs.security.trans kept.security.symm, ?_⟩
    intro settings there
    rw [since, later, supplied, Option.toList_none, List.append_nil]
    exact backs.supplied settings (kept.supplied settings there)

/-- A connection comes from an attempt that has just been accepted. -/
theorem of_attempt (moves : List Move)
    (planned : Turn.plan m.env m.informed c.network c.address = .ok call)
    (catalogue : m.after.catalogue = m.informed.catalogue)
    (new : m.picked (begun m.env) = [call]) : ∃ n, Origin (moves ++ [m]) m.after c call n := by
  obtain ⟨n, found, _, current, negotiated⟩ := Turn.plan_eq_ok_iff.1 planned
  obtain ⟨_, isOpen, fits⟩ := Context.fits_of_negotiate negotiated
  refine ⟨n, lastAttempt_concat moves new, Catalogue.address_of_observation? current,
    catalogue ▸ found, fun needs => ?_⟩
  rw [sinceAttempt_concat_of_attempt moves new]
  cases made : call.2 with
  | none =>
    rw [isOpen.1 made] at needs
    cases needs
  | some x =>
    have fit := fits x made
    refine ⟨x, rfl, fit.ssid, fit.secret_security, fun settings supplied => ?_⟩
    cases fit.offers with
    | supplied offered => exact Option.some.inj (supplied.symm.trans offered)
    | stored none _ _ =>
      rw [none] at supplied
      cases supplied

end Origin

/-- What an attempt that is accepted brings about, and what a move keeps that leaves the connection
as it was, holds of every connection in every run. -/
theorem Run.induct_held {start : Station} {P : List Move → Station → Connection → Prop}
    (unconnected : start.connection = none)
    (begins : ∀ {moves m c call}, Run start moves m.before →
      Turn.plan m.env m.informed c.network c.address = .ok call →
      m.after.catalogue = m.informed.catalogue → m.picked (begun m.env) = [call] →
      P (moves ++ [m]) m.after c)
    (keeps : ∀ {moves m c}, Run start moves m.before → m.op ≠ .shutdown →
      m.before.connection = some c → m.after.connection = some c →
      m.picked (begun m.env) = [] → P moves m.before c → P (moves ++ [m]) m.after c)
    {moves : List Move} {s : Station} (run : Run start moves s) {c : Connection}
    (held : s.connection = some c) : P moves s c := by
  induction run generalizing c with
  | start =>
    rw [unconnected] at held
    cases held
  | @move moves s run env op live ih =>
    let m : Move := ⟨s, env, op⟩
    rcases Move.connection_cases (m := m) live with none | ⟨same, quiet⟩ |
      ⟨c', call, _, began, catalogue, planned, new⟩
    · rw [show m.after.connection = some c from held] at none
      cases none
    · have before : s.connection = some c := same.symm.trans held
      exact keeps (m := m) run live before held quiet (ih before)
    · obtain rfl : c' = c := Option.some.inj (began.symm.trans held)
      exact begins (m := m) run planned catalogue new

/-- Whatever happens while it is held, a connection comes from the last attempt that the link layer
accepted, and what is supplied for its network was either tried with it or supplied since. -/
theorem Run.origin {i : Interface} {config : Config} {moves : List Move} {s : Station}
    (run : Run (.new i config) moves s) {c : Connection} (held : s.connection = some c) :
    ∃ call n, Origin moves s c call n := by
  refine run.induct_held (P := fun moves s c => ∃ call n, Origin moves s c call n) rfl
    ?begins ?keeps held
  case begins =>
    intro moves m c call _ planned catalogue new
    exact ⟨call, Origin.of_attempt moves planned catalogue new⟩
  case keeps =>
    rintro moves m c run live before still quiet ⟨call, n, origin⟩
    exact ⟨call, origin.move live run.linked run.settled.toFiled before still quiet⟩

/-! ### What is kept -/

/-- Picks out what the store is to keep. -/
def kept : Observer (Security × String × Settings) where
  pick
    | _, .store (.sync security ssid settings) => some (security, ssid, settings)
    | _, _ => none

theorem Turn.picked_keepSecret_kept (t : Turn) (network : String) :
    (t.keepSecret network).picked kept =
      t.picked kept ++ (t.station.catalogue.network? network).toList.flatMap fun n =>
        n.supplied.toList.map fun settings => (n.security, n.ssid, settings) := by
  unfold keepSecret
  cases t.station.catalogue.network? network with
  | none => simp
  | some n => cases supplied : n.supplied <;> simp [Network.syncCredentials, supplied, kept]

/-- Once keys are installed, what is supplied for the network in use is kept. -/
theorem mem_kept_settingKeys {s : Station} {env : Surroundings} {security : Security}
    {ssid : String} {settings : Settings} :
    (security, ssid, settings) ∈
        Move.picked kept ⟨s, env, .notify (.event .settingKeys)⟩ ↔
      ∃ c n, s.connection = some c ∧ s.catalogue.network? c.network = some n ∧
        n.security = security ∧ n.ssid = ssid ∧ n.supplied = some settings := by
  let t : Turn := { station := s }
  have fresh : t.picked kept = [] := rfl
  show (security, ssid, settings) ∈ (t.handleLinkEvent .settingKeys).picked kept ↔ _
  unfold Turn.handleLinkEvent
  cases held : s.connection with
  | none => simp [t, fresh]
  | some c =>
    simp only [Turn.picked_keepSecret_kept, fresh, List.nil_append, List.mem_flatMap,
      Option.mem_toList, List.mem_map, Prod.mk.injEq, Option.some.injEq]
    constructor
    · rintro ⟨n, found, _, supplied, rfl, rfl, rfl⟩
      exact ⟨c, n, rfl, found, rfl, rfl, supplied⟩
    · rintro ⟨_, n, rfl, found, rfl, rfl, supplied⟩
      exact ⟨n, found, settings, supplied, rfl, rfl, rfl⟩

/-- What the store is given to keep of a secured network once keys are installed is the secret that
was last supplied for the network after the attempt behind the connection was accepted, and the
secret of that attempt if none was. -/
theorem kept_settings_eq {i : Interface} {config : Config} {moves : List Move} {s : Station}
    (run : Run (.new i config) moves s) {env : Surroundings} {security : Security} {ssid : String}
    {settings : Settings} (secured : security.needsHandshake = true)
    (h : (security, ssid, settings) ∈
      Move.picked kept ⟨s, env, .notify (.event .settingKeys)⟩) :
    ∃ c o x, s.connection = some c ∧ lastAttempt moves = some (o, some x) ∧
      o.address = c.address ∧ x.ssid = ssid ∧ x.secret.settings.security = security ∧
      settings = (suppliedFor c.network (sinceAttempt moves)).getLastD x.secret.settings := by
  obtain ⟨c, n, held, found, rfl, rfl, supplied⟩ := mem_kept_settingKeys.1 h
  obtain ⟨⟨o, context⟩, n', origin⟩ := run.origin held
  obtain rfl : n' = n := Option.some.inj (origin.found.symm.trans found)
  obtain ⟨x, made, backs⟩ := origin.backed secured
  simp only at made
  subst made
  exact ⟨c, o, x, held, origin.last, origin.address, backs.ssid, backs.security,
    backs.supplied settings supplied⟩

/-- A passphrase is replaced while the attempt that was made with another one is under way. -/
def Sample.replaced : List (Surroundings × Operation) :=
  Sample.admitted ++
    [Sample.join,
      (Sample.surroundings true,
        .setSecret Sample.securedNetwork (Sample.passphrase "other secret"))]

theorem Sample.run_replaced :
    Run Sample.station (Sample.station.play Sample.replaced)
      (Sample.station.played Sample.replaced) :=
  Sample.run Sample.replaced (by simp [Sample.replaced, Sample.admitted, Sample.join])

/-- Keys are installed, and it is the passphrase that was supplied last which is kept. -/
theorem kept_settings_eq_replaced :
    let moves := Sample.station.play Sample.replaced
    let s := Sample.station.played Sample.replaced
    (Security.personal, "A", Sample.passphrase "other secret") ∈
        Move.picked kept ⟨s, Sample.surroundings true, .notify (.event .settingKeys)⟩ ∧
      ∃ c o x, s.connection = some c ∧ lastAttempt moves = some (o, some x) ∧
        o.address = c.address ∧ x.ssid = "A" ∧
        Sample.passphrase "other secret" =
          (suppliedFor c.network (sinceAttempt moves)).getLastD x.secret.settings := by
  intro moves s
  have there : (Security.personal, "A", Sample.passphrase "other secret") ∈
      Move.picked kept ⟨s, Sample.surroundings true, .notify (.event .settingKeys)⟩ := by
    decide +kernel
  obtain ⟨c, o, x, held, last, address, ssid, _, settings⟩ :=
    kept_settings_eq Sample.run_replaced rfl there
  exact ⟨there, c, o, x, held, last, address, ssid, settings⟩

/-- What is kept there is not what the attempt behind the connection was made with. -/
theorem untried_secret_kept :
    let moves := Sample.station.play Sample.replaced
    let s := Sample.station.played Sample.replaced
    Run Sample.station moves s ∧
      s.connection = some ⟨Sample.securedNetwork, Sample.accessPoint⟩ ∧
      ((lastAttempt moves).bind Prod.snd).map (fun x => x.secret.settings) =
        some (Sample.passphrase "first secret") ∧
      Move.picked kept ⟨s, Sample.surroundings true, .notify (.event .settingKeys)⟩ =
        [(.personal, "A", Sample.passphrase "other secret")] ∧
      Sample.passphrase "first secret" ≠ Sample.passphrase "other secret" := by
  intro moves s
  refine ⟨Sample.run_replaced, ?_, ?_, ?_, ?_⟩ <;> decide +kernel

end Station

end WirelessStation
