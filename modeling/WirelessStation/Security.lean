/-! # Security types

What protects a network: nothing, static keys, a pre-shared key or enterprise authentication.  The
tag of a type is part of the name of a network and appears in replies. -/

namespace WirelessStation

inductive Security where
  /-- No protection. -/
  | unsecured
  /-- Static WEP keys. -/
  | wep
  /-- WPA with a pre-shared key. -/
  | personal
  /-- WPA with 802.1X authentication. -/
  | enterprise
deriving DecidableEq, Repr, Inhabited

namespace Security

def tag : Security → String
  | unsecured => "open"
  | wep => "wep"
  | personal => "psk"
  | enterprise => "8021x"

def ofTag? (text : String) : Option Security :=
  [unsecured, wep, personal, enterprise].find? fun s => s.tag == text

/-- Whether connecting takes a key exchange. -/
def needsHandshake : Security → Bool
  | personal | enterprise => true
  | unsecured | wep => false

theorem ofTag?_tag (s : Security) : ofTag? s.tag = some s := by
  cases s <;> decide

theorem tag_injective {s t : Security} (h : s.tag = t.tag) : s = t := by
  have := congrArg ofTag? h
  simpa [ofTag?_tag] using this

end Security

end WirelessStation
