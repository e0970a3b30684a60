import WirelessStation.Proofs.Changes
import WirelessStation.Proofs.Members

/-! # Contexts fit the networks they are made for

An attempt on an unprotected network has no context, none is made on a WEP network, and on any other
one the context fits (`Context.Fits`): it names the SSID and both ends, its ciphers and its key
management suite are ones that both sides have and that belong to the network's security type, it
answers with an element of the kind that the access point sent, and its secret is the one that the
network has to offer.

* `fits_of_negotiate`: every context that is negotiated fits.
* `attempts_fit`: so does the context of every attempt in every run. -/

namespace WirelessStation

/-! ### Ciphers -/

namespace CipherSet

theorem contains_inter (s t c : CipherSet) :
    (s.inter t).contains c = true ↔ s.contains c = true ∧ t.contains c = true := by
  simp only [contains, inter, Bits.contains_iff, Bits.has_and, Bool.and_eq_true]
  constructor
  · intro both
    exact ⟨fun i there => (both i there).1, fun i there => (both i there).2⟩
  · rintro ⟨left, right⟩ i there
    exact ⟨left i there, right i there⟩

/-- A cipher that both sides have: CCMP, or else TKIP. -/
structure Agreed (offered own chosen : CipherSet) : Prop where
  known : chosen = ccmp ∨ chosen = tkip
  there : offered.contains chosen = true
  here : own.contains chosen = true
  strongest : offered.contains ccmp = true → own.contains ccmp = true → chosen = ccmp

theorem agreed_of_strongest? {offered own chosen : CipherSet}
    (h : strongest? offered own = some chosen) : Agreed offered own chosen := by
  have both : (offered.inter own).contains chosen = true := by simpa using List.find?_some h
  obtain ⟨there, here⟩ := (contains_inter offered own chosen).1 both
  have known : chosen = ccmp ∨ chosen = tkip := by simpa using List.mem_of_find?_eq_some h
  refine ⟨known, there, here, fun theirs ours => ?_⟩
  have common : (offered.inter own).contains ccmp = true :=
    (contains_inter offered own ccmp).2 ⟨theirs, ours⟩
  unfold strongest? at h
  rw [List.find?_cons_of_pos (by simpa using common)] at h
  exact (Option.some.inj h).symm

end CipherSet

/-- The key management suites of a security type. -/
def AkmSet.family : Security → AkmSet
  | .personal => anyPersonal
  | .enterprise => anyEnterprise
  | .unsecured | .wep => ⟨0⟩

theorem AkmSet.forSecurity_mem_family {security : Security} (needs : security.needsHandshake = true)
    (sha256 : Bool) :
    forSecurity security sha256 ∈ named ∧
      (family security).contains (forSecurity security sha256) = true := by
  cases security with
  | personal | enterprise => cases sha256 <;> decide
  | unsecured | wep => cases needs

/-! ### Contexts -/

/-- What a network has to offer for an attempt: what was supplied for it, or else what a store
holds, unless that is not trusted. -/
inductive Network.Offers (n : Network) (source : CredentialSource) (settings : Settings) : Prop
  | supplied (h : n.supplied = some settings)
  | stored (h : n.supplied = none) (trusted : n.distrusted = false)
      (known : source.settings n.ssid n.security = some settings)

theorem Network.offers_of_settings {n : Network} {source : CredentialSource} {settings : Settings}
    (h : n.settings source = some settings) : n.Offers source settings := by
  unfold Network.settings at h
  cases supplied : n.supplied with
  | some s =>
    rw [supplied] at h
    exact .supplied (supplied.trans h)
  | none =>
    cases trusted : n.distrusted with
    | true => simp [supplied, trusted] at h
    | false => exact .stored supplied trusted (by simpa [supplied, trusted] using h)

/-- A context is right for an attempt at an access point of a secured network, by an interface with
an address and ciphers of its own. -/
structure Context.Fits (x : Context) (n : Network) (o : Observation) (own : Address)
    (ciphers : CipherSet) (source : CredentialSource) : Prop where
  ssid : x.ssid = n.ssid
  authenticator : x.authenticator = o.address
  supplicant : x.supplicant = own
  /-- Each cipher is agreed on, out of what the governing element offers for its use. -/
  agreed : ∃ element offered, o.governing = some element ∧ element.reading = .suites offered ∧
    CipherSet.Agreed offered.pairwise ciphers x.pairwise ∧
    CipherSet.Agreed offered.group ciphers x.group
  akm : x.akm ∈ AkmSet.named ∧ (AkmSet.family n.security).contains x.akm = true
  /-- RSN is answered with RSN. -/
  kind : x.kind = .rsn ↔ o.rsn.isSome = true
  opening : x.ownElement.head? = some ElementKind.rsn.id ↔ o.rsn.isSome = true
  secret_security : x.secret.settings.security = n.security
  offers : n.Offers source x.secret.settings
  complete : ∀ eap, x.secret = .enterprise eap → eap.validate = .ok ()

namespace Context

/-- A secret is of the security type that it is for, and is what the settings hold. -/
theorem secretFor_eq_ok {security : Security} {settings : Option Settings}
    {secret : HandshakeSecret} (h : secretFor security settings = .ok secret) :
    settings = some secret.settings ∧ secret.settings.security = security ∧
      ∀ eap, secret = .enterprise eap → eap.validate = .ok () := by
  unfold secretFor at h
  split at h
  next s =>
    cases h
    exact ⟨rfl, rfl, by simp⟩
  next eap =>
    split at h
    next valid =>
      cases h
      refine ⟨rfl, rfl, ?_⟩
      rintro _ ⟨⟩
      exact valid
    next => cases h
  next => cases h

/-- Which choices a context comes from. -/
theorem secured_eq_ok {o : Observation} {element : SecurityElement} {offered : Suites}
    {ssid : String} {security : Security} {settings : Option Settings} {own : Address}
    {ciphers : CipherSet} {lister : Bits.Lister} {x : Context}
    (h : secured o element offered ssid security settings own ciphers lister = .ok x) :
    CipherSet.strongest? offered.pairwise ciphers = some x.pairwise ∧
      CipherSet.strongest? offered.group ciphers = some x.group ∧
      x.akm = AkmSet.forSecurity security (o.sha256 && o.rsn.isSome) ∧
      x.kind = (if o.rsn.isSome then .rsn else .wpa) ∧
      x.ownElement = Suites.encode x.kind ⟨x.group, x.pairwise, x.akm⟩ lister ∧
      secretFor security settings = .ok x.secret ∧
      x.ssid = ssid ∧ x.authenticator = o.address ∧ x.supplicant = own := by
  unfold secured at h
  cases pairwise : CipherSet.strongest? offered.pairwise ciphers with
  | none => simp [pairwise] at h
  | some p =>
    cases group : CipherSet.strongest? offered.group ciphers with
    | none => simp [pairwise, group] at h
    | some g =>
      cases secret : secretFor security settings with
      | error e => simp [pairwise, group, secret] at h
      | ok held =>
        simp only [pairwise, group, secret, Except.ok.injEq] at h
        subst h
        have answers : ((if o.rsn.isSome then ElementKind.rsn else .wpa) == .rsn) = o.rsn.isSome := by
          cases o.rsn <;> rfl
        exact ⟨rfl, rfl, by rw [answers], rfl, rfl, rfl, rfl, rfl, rfl⟩

theorem fits_of_secured {o : Observation} {element : SecurityElement} {offered : Suites}
    {n : Network} {source : CredentialSource} {own : Address} {ciphers : CipherSet}
    {lister : Bits.Lister} {x : Context}
    (governing : o.governing = some element) (reading : element.reading = .suites offered)
    (needs : n.security.needsHandshake = true)
    (h : secured o element offered n.ssid n.security (n.settings source) own ciphers lister =
      .ok x) :
    x.Fits n o own ciphers source := by
  obtain ⟨pairwise, group, akm, kind, written, secret, ssid, authenticator, supplicant⟩ :=
    secured_eq_ok h
  obtain ⟨known, same, complete⟩ := secretFor_eq_ok secret
  exact {
    ssid
    authenticator
    supplicant
    agreed := ⟨element, offered, governing, reading, CipherSet.agreed_of_strongest? pairwise,
      CipherSet.agreed_of_strongest? group⟩
    akm := akm ▸ AkmSet.forSecurity_mem_family needs _
    kind := by rw [kind]; cases o.rsn <;> simp
    opening := by rw [written, kind]; cases o.rsn <;> simp [Suites.encode, ElementKind.id]
    secret_security := same
    offers := Network.offers_of_settings known
    complete }

/-- There is nothing to negotiate with an unprotected network; otherwise a context is made from the
suites of the governing element. -/
theorem negotiate_eq_ok {o : Observation} {ssid : String} {security : Security}
    {settings : Option Settings} {own : Address} {ciphers : CipherSet} {lister : Bits.Lister}
    {context : Option Context}
    (h : negotiate o ssid security settings own ciphers lister = .ok context) :
    (security = .unsecured ∧ context = none) ∨
      (security.needsHandshake = true ∧ ∃ element offered x, o.governing = some element ∧
        element.reading = .suites offered ∧
        secured o element offered ssid security settings own ciphers lister = .ok x ∧
        context = some x) := by
  cases security with
  | unsecured =>
    cases h
    exact .inl ⟨rfl, rfl⟩
  | wep => cases h
  | personal | enterprise =>
    right
    unfold negotiate at h
    cases governing : o.governing with
    | none => simp [governing] at h
    | some element =>
      cases reading : element.reading with
      | malformed reason => simp [governing, reading] at h
      | suites offered =>
        simp only [governing, reading] at h
        obtain ⟨x, made, only⟩ := map_eq_ok_iff.1 h
        exact ⟨rfl, element, offered, x, rfl, reading, made, only.symm⟩

/-- Nothing is negotiated with a WEP network, no context for an unprotected one, and one that fits
for any other. -/
theorem fits_of_negotiate {o : Observation} {n : Network} {source : CredentialSource}
    {own : Address} {ciphers : CipherSet} {lister : Bits.Lister} {context : Option Context}
    (h : negotiate o n.ssid n.security (n.settings source) own ciphers lister = .ok context) :
    n.security ≠ .wep ∧ (context = none ↔ n.security = .unsecured) ∧
      ∀ x, context = some x → x.Fits n o own ciphers source := by
  rcases negotiate_eq_ok h with ⟨isOpen, rfl⟩ |
    ⟨needs, element, offered, x, governing, reading, made, rfl⟩
  · simp [isOpen]
  · have protects : n.security ≠ .wep ∧ n.security ≠ .unsecured := by
      constructor <;> intro h <;> rw [h] at needs <;> cases needs
    refine ⟨protects.1, by simp [protects.2], ?_⟩
    rintro _ ⟨⟩
    exact fits_of_secured governing reading needs made

end Context

namespace Station

/-- Whatever the link layer is asked for in a run, at whichever network, by a request or by
autoconnect: the network is not a WEP network, there is no context exactly if it is unprotected, and
a context fits it. -/
theorem attempts_fit {i : Interface} {config : Config} {moves : List Move} {s : Station}
    (run : Run (.new i config) moves s) {m : Move} (there : m ∈ moves) :
    List.SublistForall₂
      (fun (call : Observation × Option Context) (target : Connection) =>
        ∃ n, m.informed.catalogue.network? target.network = some n ∧
          m.informed.catalogue.observation? target.address = some call.1 ∧
          n.security ≠ .wep ∧ (call.2 = none ↔ n.security = .unsecured) ∧
          ∀ x, call.2 = some x →
            x.Fits n call.1 i.address config.supportedCiphers m.env.store)
      (m.picked asked) m.targets := by
  obtain ⟨earlier, later, rfl⟩ := List.append_of_mem there
  have found : earlier ++ [m] <+: earlier ++ m :: later := ⟨later, by simp⟩
  obtain ⟨before, _⟩ := run.of_prefix_concat found
  have own : m.informed.own = (new i config).own := m.own_informed.trans before.own_eq
  have address : m.informed.address = i.address := congrArg Own.address own
  have ciphers : m.informed.ciphers = config.supportedCiphers := congrArg Own.ciphers own
  refine Move.asked_of_planned fun call target h => ?_
  obtain ⟨n, found, _, current, negotiated⟩ := Turn.plan_eq_ok_iff.1 h
  rw [address, ciphers] at negotiated
  exact ⟨n, found, current, Context.fits_of_negotiate negotiated⟩

/-- The attempt at a protected access point is made with the passphrase that was supplied. -/
theorem attempts_fit_admitted :
    let m : Move := ⟨Sample.station.played Sample.admitted, Sample.join.1, Sample.join.2⟩
    ∃ o x n, m.picked asked = [(o, some x)] ∧
      m.informed.catalogue.network? Sample.securedNetwork = some n ∧
      m.informed.catalogue.observation? Sample.accessPoint = some o ∧
      x.Fits n o Sample.interface.address (CipherSet.ccmp.union .tkip) m.env.store ∧
      x.secret.settings = Sample.passphrase "first secret" := by
  intro m
  have run := Sample.run_admitted.move Sample.join.1 Sample.join.2 (by simp [Sample.join])
  have fit := attempts_fit (m := m) run (by simp [m])
  have supplied : (m.picked asked).map (fun call => call.2.map fun x => x.secret.settings) =
      [some (Sample.passphrase "first secret")] := by decide +kernel
  obtain ⟨call, only, context⟩ := List.map_eq_singleton_iff.1 supplied
  obtain ⟨x, there, secret⟩ := Option.map_eq_some_iff.1 context
  rw [only, show m.targets = [⟨Sample.securedNetwork, Sample.accessPoint⟩] from rfl] at fit
  cases fit with
  | cons here _ =>
    obtain ⟨n, found, current, _, _, fits⟩ := here
    exact ⟨call.1, x, n, by rw [only, ← there], found, current, fits x there, secret⟩
  | cons_right none => cases none

end Station

end WirelessStation
