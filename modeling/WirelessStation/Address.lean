import WirelessStation.Text.Hex

/-! # Hardware addresses

Six octets, written either as twelve digits or with colons between the octets. -/

namespace WirelessStation

/-- The hardware address of an interface or an access point. -/
structure Address where
  octets : Vector UInt8 6
deriving DecidableEq, Repr

namespace Address

def bytes (a : Address) : Bytes :=
  a.octets.toList

/-- An address from exactly six octets. -/
def ofBytes? (bs : Bytes) : Option Address :=
  if h : bs.length = 6 then some ⟨⟨bs.toArray, by simpa using h⟩⟩ else none

/-- Two digits for each octet, with colons between them. -/
def text (a : Address) : String :=
  ":".intercalate (a.bytes.map fun b => Bytes.hex [b])

theorem ofBytes?_bytes (a : Address) : ofBytes? a.bytes = some a := by
  rw [ofBytes?, dif_pos (by simp [bytes])]
  obtain ⟨⟨octets, size⟩⟩ := a
  simp [bytes]

theorem bytes_injective {a b : Address} (h : a.bytes = b.bytes) : a = b := by
  have := congrArg ofBytes? h
  simpa [ofBytes?_bytes] using this

end Address

end WirelessStation
