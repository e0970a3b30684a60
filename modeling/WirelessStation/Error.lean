import WirelessStation.Eap
import WirelessStation.Security

/-! # What can go wrong

`Error` has one constructor for each cause.  The causes that come from a piece of input say which
flaw it had.  All wording is in `Flaw.message` and `Error.message`. -/

namespace WirelessStation

/-- The fewest and the most characters of a passphrase. -/
def passphraseLimits : Nat × Nat := (8, 63)

/-- What is wrong with a piece of input. -/
inductive Flaw where
  /-- A passphrase with too few or too many characters. -/
  | passphraseLength (length : Nat)
  /-- A security element that its decoder refused. -/
  | unreadableElement (reason : String)
  /-- Enterprise settings without an identity. -/
  | blankIdentity
  /-- A tunneled method without a password. -/
  | noPassword (method : Eap.Method)
  /-- A tunneled method without an inner one. -/
  | noInnerMethod (method : Eap.Method)
  /-- Settings for another security type than the network has. -/
  | wrongSecurity (given wanted : Security)
  /-- An interface that is managed already. -/
  | alreadyManaged (index : Nat)
  /-- A flaw that somebody else found. -/
  | other (text : String)
deriving DecidableEq, Repr, Inhabited

def Flaw.message : Flaw → String
  | passphraseLength n =>
    "passphrase must be " ++ toString passphraseLimits.1 ++ "-" ++ toString passphraseLimits.2 ++
      " characters, got " ++ toString n
  | unreadableElement reason => "unparseable security element: " ++ reason
  | blankIdentity => "EAP identity is empty"
  | noPassword method => method.name ++ " requires a password"
  | noInnerMethod method => method.name ++ " requires a phase 2 method"
  | wrongSecurity given wanted => given.tag ++ " settings for a " ++ wanted.tag ++ " network"
  | alreadyManaged index => "interface " ++ toString index ++ " is already managed"
  | other text => text

/-- Why a request failed. -/
inductive Error where
  /-- A conflicting request is pending. -/
  | busy
  /-- There is nothing to disconnect. -/
  | notConnected
  /-- The link layer refused. -/
  | rejected
  /-- The request was overtaken by a teardown. -/
  | aborted
  /-- The key exchange did not complete. -/
  | handshakeFailed
  /-- The link layer failed later. -/
  | linkFailed
  | invalidInput (flaw : Flaw)
  /-- The request cannot be served in this state. -/
  | notAvailable
  /-- No such interface, network or access point. -/
  | notFound
  /-- A secured network and no secret for it. -/
  | noSecrets
  /-- The security of the access point cannot be served. -/
  | notSupported
  /-- More than one registrar invites at once. -/
  | sessionOverlap
  /-- The message bus failed. -/
  | bus (text : String)
deriving DecidableEq, Repr, Inhabited

def Error.message : Error → String
  | busy => "operation already in progress"
  | notConnected => "not connected"
  | rejected => "request rejected by link layer"
  | aborted => "operation aborted"
  | handshakeFailed => "handshake failed"
  | linkFailed => "link failed"
  | invalidInput flaw => "invalid input: " ++ flaw.message
  | notAvailable => "not available"
  | notFound => "not found"
  | noSecrets => "no secrets available"
  | notSupported => "not supported"
  | sessionOverlap => "push-button session overlap"
  | bus text => "D-Bus error: " ++ text

/-- How a request ended. -/
abbrev Result := Except Error Unit

end WirelessStation
