import WirelessStation.Document

/-! # Enterprise authentication settings

What the handshake of an 802.1X network needs: an outer method, an identity and, for the methods
that run an inner one inside a tunnel, a password and the inner method.  `Settings.ofDocument?`
reads them either from a record of named fields or from the list of all six values. -/

namespace WirelessStation.Eap

/-- The outer method. -/
inductive Method where
  | peap
  | ttls
  | tls
  | sim
  | aka
deriving DecidableEq, Repr, Inhabited

namespace Method

def all : List Method := [peap, ttls, tls, sim, aka]

def name : Method → String
  | peap => "Peap"
  | ttls => "Ttls"
  | tls => "Tls"
  | sim => "Sim"
  | aka => "Aka"

/-- Whether the method runs an inner method. -/
def isTunneled : Method → Bool
  | peap | ttls => true
  | tls | sim | aka => false

def ofName? (name : String) : Option Method :=
  all.find? fun m => m.name == name

def ofDocument? (d : Document) : Option Method :=
  d.choice?.bind ofName?

end Method

/-- The inner method of a tunneled one. -/
inductive InnerMethod where
  | mschapv2
  | pap
deriving DecidableEq, Repr, Inhabited

namespace InnerMethod

def name : InnerMethod → String
  | mschapv2 => "Mschapv2"
  | pap => "Pap"

def ofName? (name : String) : Option InnerMethod :=
  [mschapv2, pap].find? fun m => m.name == name

def ofDocument? (d : Document) : Option InnerMethod :=
  d.choice?.bind ofName?

end InnerMethod

structure Settings where
  method : Method
  /-- The user, mostly a mail address or a login name. -/
  identity : String
  password : Option String := none
  /-- The identity shown outside the tunnel. -/
  anonymousIdentity : Option String := none
  /-- Where the certificate lies that the server is checked against. -/
  caCertificate : Option String := none
  inner : Option InnerMethod := none
deriving DecidableEq, Repr, Inhabited

namespace Settings

/-- Reads the six values in the order of the fields; a missing one is null. -/
def ofValues? (method identity password anonymous certificate inner : Document) :
    Option Settings := do
  let method ← Method.ofDocument? method
  let identity ← identity.text?
  let password ← password.nullable? Document.text?
  let anonymous ← anonymous.nullable? Document.text?
  let certificate ← certificate.nullable? Document.text?
  let inner ← inner.nullable? InnerMethod.ofDocument?
  return ⟨method, identity, password, anonymous, certificate, inner⟩

/-- Reads settings from a record, in which the last four fields may be missing, or from a list of
all six values. -/
def ofDocument? : Document → Option Settings
  | .record fields =>
    let value := fun name => (Document.field? fields name).getD .null
    ofValues? (value "method") (value "identity") (value "password") (value "anonymous_identity")
      (value "ca_cert_path") (value "phase2")
  | .list [method, identity, password, anonymous, certificate, inner] =>
    ofValues? method identity password anonymous certificate inner
  | _ => none

end Settings

end WirelessStation.Eap
