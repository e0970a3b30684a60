import WirelessStation.Credentials

/-! # Credential stores

A station reads from a store which networks are known, how much it trusts each, and with what
credentials it joins them.  It writes to the store by calls: credentials that proved to work, and
connections that came up.  `CredentialSource` is what a store answers at one moment; it may answer
anything. -/

namespace WirelessStation

/-- What a credential store answers. -/
structure CredentialSource where
  /-- The factor on the ranks of a network; `none` for an unknown network. -/
  rankModifier : String → Security → Option Float
  /-- The credentials of a known network. -/
  settings : String → Security → Option Settings

/-- What a station tells a credential store. -/
inductive StoreCall where
  /-- Keep credentials that work. -/
  | sync (security : Security) (ssid : String) (settings : Settings)
  /-- A connection came up. -/
  | markConnected (ssid : String) (security : Security)
deriving DecidableEq, Repr

end WirelessStation
