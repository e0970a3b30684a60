import WirelessStation.Address
import WirelessStation.Element
import WirelessStation.Uuid

/-! # Observations

An observation is one access point as one scan heard it.  Its rank says how desirable it is: mostly
its signal strength, then RSN over WPA over neither, privacy over none, and 5 GHz over 2.4 GHz. -/

namespace WirelessStation

/-- What an access point answers about push-button enrollment. -/
structure Registrar where
  /-- Whether it takes enrollees now. -/
  selected : Bool
  passwordId : UInt16
  uuid : Uuid
deriving DecidableEq, Repr

/-- One access point, heard once. -/
structure Observation where
  address : Address
  /-- The SSID as it came: any octets. -/
  ssid : Bytes
  /-- In MHz. -/
  frequency : Nat
  /-- In hundredths of a dBm. -/
  signal : Int
  capability : UInt16 := 0
  rsn : Option SecurityElement := none
  wpa : Option SecurityElement := none
  registrar : Option Registrar := none
  rank : UInt16 := 0
  /-- Whether the access point offers the SHA-256 variant of its key management. -/
  sha256 : Bool := false
deriving DecidableEq, Repr

namespace Observation

/-- The capability bit of privacy. -/
def privacyBit : UInt16 := 0x0010

def hasPrivacy (o : Observation) : Bool :=
  o.capability &&& privacyBit != 0

/-- The element that governs the security of the access point: RSN first, then WPA. -/
def governing (o : Observation) : Option SecurityElement :=
  o.rsn.orElse fun _ => o.wpa

/-- The kind of the governing element. -/
def governingKind? (o : Observation) : Option ElementKind :=
  if o.rsn.isSome then some .rsn else if o.wpa.isSome then some .wpa else none

theorem isSome_governingKind? (o : Observation) :
    o.governingKind?.isSome = o.governing.isSome := by
  simp only [governingKind?, governing]
  cases o.rsn <;> cases o.wpa <;> rfl

/-- The rank that the observation earns, cut to sixteen bits. -/
def earnedRank (o : Observation) : UInt16 :=
  let base := 10000.0 + Float.ofInt o.signal
  let secured := base * (if o.rsn.isSome then 1.2 else if o.wpa.isSome then 1.0 else 0.5)
  let shielded := if o.hasPrivacy then secured else secured * 0.5
  let banded := if 4000 < o.frequency then shielded * 1.1 else shielded
  banded.toUInt16

/-- The observation with the rank that it earns. -/
def ranked (o : Observation) : Observation :=
  { o with rank := o.earnedRank }

end Observation

end WirelessStation
