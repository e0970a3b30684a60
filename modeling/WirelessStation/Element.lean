import WirelessStation.Suite
import WirelessStation.Text.Hex

/-! # Security elements

An access point says which suites it offers in an RSN element or in a WPA element, and a station
says which ones it chose in an element of the same kind.  Both share one layout: version, group
cipher, a counted list of pairwise ciphers, a counted list of key management suites; each suite is a
selector of three octets of organisation and one octet of type.  An RSN element ends with two octets
of capabilities; a WPA element starts with a selector of its own.

`Suites.rsn` and `Suites.wpa` write them. -/

namespace WirelessStation

/-- The suites that an element lists. -/
structure Suites where
  group : CipherSet
  pairwise : CipherSet
  akm : AkmSet
deriving DecidableEq, Repr

/-- The two formats. -/
inductive ElementKind where
  | rsn
  | wpa
deriving DecidableEq, Repr

namespace ElementKind

/-- The identifier of the element. -/
def id : ElementKind → UInt8
  | rsn => 48
  | wpa => 221

/-- The organisation whose selectors the element uses. -/
def organisation : ElementKind → Bytes
  | rsn => [0x00, 0x0F, 0xAC]
  | wpa => [0x00, 0x50, 0xF2]

/-- What stands in front of the version. -/
def opening : ElementKind → Bytes
  | rsn => []
  | wpa => wpa.organisation ++ [1]

/-- What stands behind the last list. -/
def closing : ElementKind → Bytes
  | rsn => [0, 0]
  | wpa => []

end ElementKind

/-- The type octet of a cipher.  A set that is not a single named suite counts as CCMP. -/
def CipherSet.selector (c : CipherSet) : UInt8 :=
  if c = .wep40 then 1
  else if c = .tkip then 2
  else if c = .wep104 then 5
  else if c = .bip then 6
  else 4

/-- The type octet of a key management suite.  A set that is not a single named suite counts as
PSK. -/
def AkmSet.selector (a : AkmSet) : UInt8 :=
  if a = .ieee8021x then 1
  else if a = .ft8021x then 3
  else if a = .ftPsk then 4
  else if a = .ieee8021xSha256 then 5
  else if a = .pskSha256 then 6
  else 2

namespace Suites

/-- A count and the selectors behind it. -/
def selectorList (organisation : Bytes) (types : List UInt8) : Bytes :=
  Bytes.le16 types.length ++ types.flatMap fun t => organisation ++ [t]

/-- The type octet of the group cipher: the first member counts, and CCMP where there is none. -/
def groupSelector (s : Suites) (lister : Bits.Lister) : UInt8 :=
  ((s.group.members lister).headD .ccmp).selector

/-- Version, group cipher and the two lists. -/
def body (organisation : Bytes) (s : Suites) (lister : Bits.Lister) : Bytes :=
  Bytes.le16 1 ++ (organisation ++ [s.groupSelector lister]) ++
    selectorList organisation ((s.pairwise.members lister).map CipherSet.selector) ++
    selectorList organisation ((s.akm.members lister).map AkmSet.selector)

/-- The octets behind the length. -/
def content (kind : ElementKind) (s : Suites) (lister : Bits.Lister) : Bytes :=
  kind.opening ++ s.body kind.organisation lister ++ kind.closing

/-- An element of the given kind: identifier, length, content. -/
def encode (kind : ElementKind) (s : Suites) (lister : Bits.Lister := .standard) : Bytes :=
  kind.id :: UInt8.ofNat (s.content kind lister).length :: s.content kind lister

def rsn (s : Suites) : Bytes := s.encode .rsn

def wpa (s : Suites) : Bytes := s.encode .wpa

end Suites

/-- What the decoder made of an element. -/
inductive ElementReading where
  | suites (s : Suites)
  | malformed (reason : String)
deriving DecidableEq, Repr

/-- A security element as an access point sent it. -/
structure SecurityElement where
  /-- All octets, the identifier and the length too. -/
  raw : Bytes
  reading : ElementReading
deriving DecidableEq, Repr

/-- The element that lists exactly these suites. -/
def SecurityElement.ofSuites (kind : ElementKind) (s : Suites) : SecurityElement :=
  ⟨s.encode kind, .suites s⟩

end WirelessStation
