import WirelessStation.Credentials
import WirelessStation.Observation

/-! # Security types of observations and contexts of attempts

`Observation.classify` says what protects an access point, from its governing element and its
privacy bit, and notes whether it offers the SHA-256 variant of its key management.

`Context.negotiate` prepares one attempt to connect: it picks the strongest ciphers that both sides
have, the key management suite, and the secret, and writes the element that the station sends.
Nothing is prepared for an unprotected network, and WEP is not supported. -/

namespace WirelessStation

namespace Observation

/-- The suites of the governing element, if there is one; fails if its decoder refused it. -/
def governingSuites (o : Observation) : Except Error (Option Suites) :=
  match o.governing with
  | none => .ok none
  | some element =>
    match element.reading with
    | .suites s => .ok (some s)
    | .malformed reason => .error (.invalidInput (.unreadableElement reason))

/-- The security type of the suites of an element, or of the privacy bit where they settle
nothing. -/
def securityOf (o : Observation) : Option Suites → Security
  | none => if o.hasPrivacy then .wep else .unsecured
  | some s =>
    if s.akm.intersects .anyPersonal then .personal
    else if s.akm.intersects .anyEnterprise then .enterprise
    else if o.hasPrivacy then .wep
    else .unsecured

/-- Whether the suites hold the SHA-256 variant for a security type. -/
def offersSha256 (security : Security) : Option Suites → Bool
  | none => false
  | some s =>
    match security with
    | .personal => s.akm.contains .pskSha256
    | .enterprise => s.akm.contains .ieee8021xSha256
    | _ => false

/-- The security type of an observation, and the observation with its SHA-256 mark set. -/
def classify (o : Observation) : Except Error (Security × Observation) :=
  match o.governingSuites with
  | .error e => .error e
  | .ok suites =>
    let security := o.securityOf suites
    .ok (security, { o with sha256 := offersSha256 security suites })

end Observation

/-- The strongest cipher that both sides have: CCMP, then TKIP. -/
def CipherSet.strongest? (offered own : CipherSet) : Option CipherSet :=
  [CipherSet.ccmp, CipherSet.tkip].find? fun c => (offered.inter own).contains c

/-- The key management suite for a security type. -/
def AkmSet.forSecurity : Security → Bool → AkmSet
  | .personal, true => .pskSha256
  | .personal, false => .psk
  | _, true => .ieee8021xSha256
  | _, false => .ieee8021x

/-- Secret material of one attempt. -/
inductive HandshakeSecret where
  | personal (secret : Secret)
  | enterprise (eap : Eap.Settings)
deriving DecidableEq, Repr

/-- The secret as settings of a network. -/
def HandshakeSecret.settings : HandshakeSecret → Settings
  | personal secret => .personal secret
  | enterprise eap => .enterprise eap

/-- Everything that a key exchange needs for one attempt. -/
structure Context where
  /-- Goes into the key that is derived from a passphrase. -/
  ssid : String
  /-- The access point. -/
  authenticator : Address
  /-- The interface. -/
  supplicant : Address
  akm : AkmSet
  pairwise : CipherSet
  group : CipherSet
  kind : ElementKind
  /-- The element as the access point sent it. -/
  theirElement : Bytes
  /-- The element that the station sends. -/
  ownElement : Bytes
  secret : HandshakeSecret
deriving DecidableEq, Repr

namespace Context

/-- The secret that settings hold for a security type.  Enterprise settings have to be complete. -/
def secretFor (security : Security) (settings : Option Settings) : Except Error HandshakeSecret :=
  match security, settings with
  | .personal, some (.personal secret) => .ok (.personal secret)
  | .enterprise, some (.enterprise eap) =>
    match eap.validate with
    | .ok () => .ok (.enterprise eap)
    | .error e => .error e
  | _, _ => .error .noSecrets

/-- The context for a secured network whose access point sent a readable element. -/
def secured (o : Observation) (element : SecurityElement) (offered : Suites) (ssid : String)
    (security : Security) (settings : Option Settings) (own : Address) (ciphers : CipherSet)
    (lister : Bits.Lister) : Except Error Context :=
  let kind : ElementKind := if o.rsn.isSome then .rsn else .wpa
  match CipherSet.strongest? offered.pairwise ciphers with
  | none => .error .notSupported
  | some pairwise =>
    match CipherSet.strongest? offered.group ciphers with
    | none => .error .notSupported
    | some group =>
      let akm := AkmSet.forSecurity security (o.sha256 && kind == .rsn)
      match secretFor security settings with
      | .error e => .error e
      | .ok secret => .ok {
          ssid, authenticator := o.address, supplicant := own, akm, pairwise, group, kind
          theirElement := element.raw
          ownElement := Suites.encode kind ⟨group, pairwise, akm⟩ lister
          secret }

/-- The context of an attempt to connect to an access point; none for an unprotected network. -/
def negotiate (o : Observation) (ssid : String) (security : Security) (settings : Option Settings)
    (own : Address) (ciphers : CipherSet) (lister : Bits.Lister := .standard) :
    Except Error (Option Context) :=
  match security with
  | .unsecured => .ok none
  | .wep => .error .notSupported
  | .personal | .enterprise =>
    match o.governing with
    | none => .error .notSupported
    | some element =>
      match element.reading with
      | .malformed _ => .error .notSupported
      | .suites offered =>
        (secured o element offered ssid security settings own ciphers lister).map some

end Context

end WirelessStation
