import WirelessStation.Error
import WirelessStation.Text.Blank
import WirelessStation.Text.Hex

/-! # Secrets and network settings

What it takes to join a network.  Secrets never show in a description. -/

namespace WirelessStation

/-- Key material of a personal network. -/
inductive Secret where
  | passphrase (text : String)
  /-- The key itself, 256 bits. -/
  | key (octets : Bytes)
deriving DecidableEq, Repr, Inhabited

namespace Secret

/-- A passphrase of an admissible length, counted in characters. -/
def ofPassphrase (text : String) : Except Error Secret :=
  if passphraseLimits.1 ≤ text.length ∧ text.length ≤ passphraseLimits.2 then
    .ok (.passphrase text)
  else .error (.invalidInput (.passphraseLength text.length))

/-- The kind of the secret and nothing of its content. -/
def description : Secret → String
  | passphrase _ => "Passphrase(<redacted>)"
  | key _ => "Psk(<redacted>)"

end Secret

/-- Checks that the identity is not blank and that a tunneled method has what its inner method
needs; the first flaw counts. -/
def Eap.Settings.validate (s : Eap.Settings) : Result :=
  if isBlankText s.identity then .error (.invalidInput .blankIdentity)
  else if s.method.isTunneled && s.password.isNone then
    .error (.invalidInput (.noPassword s.method))
  else if s.method.isTunneled && s.inner.isNone then
    .error (.invalidInput (.noInnerMethod s.method))
  else .ok ()

/-- What it takes to join a network of one security type. -/
inductive Settings where
  | unsecured
  | personal (secret : Secret)
  | enterprise (eap : Eap.Settings)
deriving DecidableEq, Repr, Inhabited

/-- The security type that settings are for. -/
def Settings.security : Settings → Security
  | unsecured => .unsecured
  | personal _ => .personal
  | enterprise _ => .enterprise

/-- Settings around a secret, described without its content. -/
def Secret.settingsDescription (s : Secret) : String :=
  "Psk(" ++ s.description ++ ")"

end WirelessStation
