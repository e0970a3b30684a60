import WirelessStation.Text.Blank
import WirelessStation.Text.Hex

/-! # Sets of cipher and key management suites

A set of suites is an octet with one bit for each suite.  Bits that name no suite are kept.  The
members of a set are its named suites in ascending order of their bits and then, if any unnamed bit
is set, all unnamed bits together as one last member.  What lists them is a library of its own: a
`Bits.Lister` stands for it, with what is known of it, and `Bits.Lister.standard` is one that runs.

A set of ciphers has a text: the names of its members joined with ` | `, the unnamed bits as a
hexadecimal number.  `CipherSet.ofText?` reads it. -/

namespace WirelessStation

namespace Bits

/-- Whether every bit of `t` is set in `s`. -/
def contains (s t : UInt8) : Bool :=
  s &&& t == t

/-- All bits of some sets. -/
def union (l : List UInt8) : UInt8 :=
  l.foldl (· ||| ·) 0

/-- What is left of a set when its named suites are taken out. -/
def unnamed (named : List UInt8) (s : UInt8) : UInt8 :=
  s &&& ~~~union named

/-- A set of one bit. -/
def IsFlag (t : UInt8) : Prop :=
  ∃ i : Fin 8, t.toBitVec = BitVec.twoPow 8 i

instance : DecidablePred IsFlag :=
  fun t => Nat.decidableExistsFin fun i => t.toBitVec = BitVec.twoPow 8 i

/-- What lists the members of sets, given the named suites of their kind, each of which is one bit.
-/
structure Lister where
  members : List UInt8 → UInt8 → List UInt8
  /-- A member is a named suite that the set contains, or else all unnamed bits together. -/
  mem_iff : ∀ {named : List UInt8}, (∀ n ∈ named, IsFlag n) → ∀ s t, t ∈ members named s ↔
    (t ∈ named ∧ contains s t = true) ∨ (unnamed named s ≠ 0 ∧ t = unnamed named s)
  /-- The suites come in the order in which they are named, and the unnamed bits come last. -/
  sublist : ∀ {named : List UInt8}, (∀ n ∈ named, IsFlag n) → ∀ s,
    (members named s).Sublist (named ++ [unnamed named s])

/-- The named bits of `s`, and then the unnamed ones together. -/
def members (named : List UInt8) (s : UInt8) : List UInt8 :=
  named.filter (contains s) ++ if unnamed named s = 0 then [] else [unnamed named s]

def Lister.standard : Lister where
  members := Bits.members
  mem_iff _ s t := by
    rw [Bits.members, List.mem_append, List.mem_filter]
    split
    next empty => simp [empty]
    next nonempty => simp [nonempty]
  sublist _ s := by
    refine List.filter_sublist.append ?_
    split
    · exact List.nil_sublist _
    · exact List.Sublist.refl _

end Bits

/-- Cipher suites, as advertised by an access point or supported by the radio. -/
structure CipherSet where
  bits : UInt8
deriving DecidableEq, Repr

namespace CipherSet

def wep40 : CipherSet := ⟨1⟩
def tkip : CipherSet := ⟨2⟩
def ccmp : CipherSet := ⟨4⟩
def wep104 : CipherSet := ⟨8⟩
/-- Protects management frames of a group, never data. -/
def bip : CipherSet := ⟨16⟩

/-- The suites that have a name, with it. -/
def names : List (CipherSet × String) :=
  [(wep40, "WEP40"), (tkip, "TKIP"), (ccmp, "CCMP"), (wep104, "WEP104"), (bip, "BIP")]

def contains (s t : CipherSet) : Bool :=
  Bits.contains s.bits t.bits

def inter (s t : CipherSet) : CipherSet :=
  ⟨s.bits &&& t.bits⟩

def union (s t : CipherSet) : CipherSet :=
  ⟨s.bits ||| t.bits⟩

def members (s : CipherSet) (lister : Bits.Lister := .standard) : List CipherSet :=
  (lister.members (names.map fun n => n.1.bits) s.bits).map CipherSet.mk

/-- The name of one member of a set. -/
def memberText (s : CipherSet) : String :=
  match names.find? fun n => n.1 == s with
  | some n => n.2
  | none => "0x" ++ String.ofList (Nat.toDigits 16 s.bits.toNat)

/-- The names of the members, joined. -/
def text (s : CipherSet) : String :=
  " | ".intercalate (s.members.map memberText)

/-- A number of one octet in hexadecimal digits, with an optional plus sign in front. -/
def octet? (digits : List Char) : Option UInt8 :=
  let unsigned := match digits with
    | '+' :: rest => rest
    | _ => digits
  if unsigned.isEmpty then none
  else
    match unsigned.mapM hexValue? with
    | none => none
    | some values =>
      let n := values.foldl (fun n v => 16 * n + v) 0
      if n < 256 then some (UInt8.ofNat n) else none

/-- One part of a text: a hexadecimal number behind `0x`, or the exact name of a suite. -/
def ofPart? (part : List Char) : Option CipherSet :=
  match part with
  | '0' :: 'x' :: digits => (octet? digits).map CipherSet.mk
  | _ => (names.find? fun n => n.2.toList == part).map (·.1)

/-- The pieces of a list between bars. -/
def parts : List Char → List (List Char)
  | [] => [[]]
  | c :: rest =>
    if c = '|' then [] :: parts rest
    else
      match parts rest with
      | [] => [[c]]
      | part :: more => (c :: part) :: more

/-- Reads a set.  Blanks around a part do not count; a blank text is the empty set, and a blank part
is an error. -/
def ofText? (text : String) : Option CipherSet :=
  if isBlankText text then some ⟨0⟩
  else
    ((parts text.toList).mapM fun part => ofPart? (trimChars part)).map
      fun sets => sets.foldl union ⟨0⟩

end CipherSet

/-- Authentication and key management suites. -/
structure AkmSet where
  bits : UInt8
deriving DecidableEq, Repr

namespace AkmSet

def ieee8021x : AkmSet := ⟨1⟩
def psk : AkmSet := ⟨2⟩
def ft8021x : AkmSet := ⟨4⟩
def ftPsk : AkmSet := ⟨8⟩
def ieee8021xSha256 : AkmSet := ⟨16⟩
def pskSha256 : AkmSet := ⟨32⟩

/-- The suites that have a name. -/
def named : List AkmSet :=
  [ieee8021x, psk, ft8021x, ftPsk, ieee8021xSha256, pskSha256]

def contains (s t : AkmSet) : Bool :=
  Bits.contains s.bits t.bits

/-- Whether the sets share a bit. -/
def intersects (s t : AkmSet) : Bool :=
  s.bits &&& t.bits != 0

def union (s t : AkmSet) : AkmSet :=
  ⟨s.bits ||| t.bits⟩

def members (s : AkmSet) (lister : Bits.Lister := .standard) : List AkmSet :=
  (lister.members (named.map AkmSet.bits) s.bits).map AkmSet.mk

/-- The suites that run on a pre-shared key. -/
def anyPersonal : AkmSet :=
  psk.union (ftPsk.union pskSha256)

/-- The suites that run on 802.1X. -/
def anyEnterprise : AkmSet :=
  ieee8021x.union (ft8021x.union ieee8021xSha256)

end AkmSet

end WirelessStation
