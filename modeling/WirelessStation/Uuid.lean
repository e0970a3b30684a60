import WirelessStation.Digest.Sha1

/-! # Universally unique identifiers

Identifiers of version 5 are derived from a namespace and a name.  What derives them is a library of
its own: a `Uuid.Namer` stands for it, with what is known of it, and `Uuid.Namer.standard` is one
that runs.  It takes the first sixteen octets of the digest of both (`Uuid.named`), with the version
and the variant written over their bits. -/

namespace WirelessStation

/-- Sixteen octets. -/
structure Uuid where
  octets : Vector UInt8 16
deriving DecidableEq, Repr

namespace Uuid

def bytes (u : Uuid) : Bytes :=
  u.octets.toList

/-- An identifier from exactly sixteen octets. -/
def ofBytes? (bs : Bytes) : Option Uuid :=
  if h : bs.length = 16 then some ⟨⟨bs.toArray, by simpa using h⟩⟩ else none

/-- The identifier that a name has in a namespace. -/
def named (space : Uuid) (name : Bytes) : Uuid :=
  let digest := Sha1.digest (space.bytes ++ name)
  ⟨Vector.ofFn fun i =>
    let b := digest.getD i.val 0
    if i.val = 6 then (b &&& 0x0F) ||| 0x50
    else if i.val = 8 then (b &&& 0x3F) ||| 0x80
    else b⟩

/-- What derives identifiers from names in a namespace. -/
structure Namer where
  named : Uuid → Bytes → Uuid
  /-- Its identifiers are of version 5. -/
  version : ∀ space name, (named space name).octets[6] >>> 4 = 5
  /-- Its identifiers are of the variant that has versions. -/
  variant : ∀ space name, (named space name).octets[8] >>> 6 = 2

theorem version_named (space : Uuid) (name : Bytes) :
    (named space name).octets[6] >>> 4 = 5 := by
  simp only [named, Vector.getElem_ofFn, ↓reduceIte]
  generalize (Sha1.digest (space.bytes ++ name)).getD 6 0 = b
  have all : ∀ n : Fin 256, ((UInt8.ofNat n.val &&& 0x0F) ||| 0x50) >>> 4 = 5 := by decide +kernel
  simpa using all ⟨b.toNat, b.toNat_lt⟩

theorem variant_named (space : Uuid) (name : Bytes) :
    (named space name).octets[8] >>> 6 = 2 := by
  have apart : (8 : Nat) ≠ 6 := by decide
  simp only [named, Vector.getElem_ofFn, if_neg apart, ↓reduceIte]
  generalize (Sha1.digest (space.bytes ++ name)).getD 8 0 = b
  have all : ∀ n : Fin 256, ((UInt8.ofNat n.val &&& 0x3F) ||| 0x80) >>> 6 = 2 := by decide +kernel
  simpa using all ⟨b.toNat, b.toNat_lt⟩

def Namer.standard : Namer :=
  ⟨Uuid.named, version_named, variant_named⟩

end Uuid

end WirelessStation
