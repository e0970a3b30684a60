import WirelessStation.Text.Hex

/-! # Octets as UTF-8 text

`Utf8.decode?` accepts exactly the well-formed octet strings.  `Utf8.lossy` accepts all of them: it
writes U+FFFD for each maximal prefix of an ill-formed sequence and goes on behind it, so that a
truncated sequence counts once and a stray octet counts once. -/

namespace WirelessStation

/-- The UTF-8 octets of a text. -/
def utf8 (text : String) : Bytes :=
  text.toUTF8.data.toList

theorem utf8_injective {a b : String} (h : utf8 a = utf8 b) : a = b := by
  rw [← String.toByteArray_inj]
  exact ByteArray.ext (Array.toList_inj.1 h)

namespace Utf8

/-- The text that the octets encode, if they are well-formed. -/
def decode? (bs : Bytes) : Option String :=
  String.fromUTF8? ⟨bs.toArray⟩

/-- Whether an octet continues a sequence. -/
def isTrail (b : UInt8) : Bool :=
  0x80 ≤ b && b ≤ 0xBF

/-- Whether `b` may follow the first octet of a sequence of three: no overlong form, no surrogate.
-/
def isSecondOfThree (lead b : UInt8) : Bool :=
  if lead = 0xE0 then 0xA0 ≤ b && b ≤ 0xBF
  else if lead = 0xED then 0x80 ≤ b && b ≤ 0x9F
  else isTrail b

/-- Whether `b` may follow the first octet of a sequence of four: no overlong form, nothing above
U+10FFFF. -/
def isSecondOfFour (lead b : UInt8) : Bool :=
  if lead = 0xF0 then 0x90 ≤ b && b ≤ 0xBF
  else if lead = 0xF4 then 0x80 ≤ b && b ≤ 0x8F
  else isTrail b

/-- The scalar value of a sequence, six bits for each octet behind the first. -/
def scalar (lead : Nat) (trail : List UInt8) : Char :=
  Char.ofNat (trail.foldl (fun v b => v * 64 + b.toNat % 64) lead)

/-- U+FFFD, which stands for what cannot be read. -/
def replacement : Char := Char.ofNat 0xFFFD

/-- Reads the front of the octets: a character and how many octets it took. -/
def front (lead : UInt8) (rest : Bytes) : Char × Nat :=
  if lead < 0x80 then (Char.ofNat lead.toNat, 1)
  else if 0xC2 ≤ lead && lead ≤ 0xDF then
    match rest with
    | b :: _ => if isTrail b then (scalar (lead.toNat % 32) [b], 2) else (replacement, 1)
    | [] => (replacement, 1)
  else if 0xE0 ≤ lead && lead ≤ 0xEF then
    match rest with
    | b :: c :: _ =>
      if !isSecondOfThree lead b then (replacement, 1)
      else if isTrail c then (scalar (lead.toNat % 16) [b, c], 3)
      else (replacement, 2)
    | [b] => if isSecondOfThree lead b then (replacement, 2) else (replacement, 1)
    | [] => (replacement, 1)
  else if 0xF0 ≤ lead && lead ≤ 0xF4 then
    match rest with
    | b :: c :: d :: _ =>
      if !isSecondOfFour lead b then (replacement, 1)
      else if !isTrail c then (replacement, 2)
      else if isTrail d then (scalar (lead.toNat % 8) [b, c, d], 4)
      else (replacement, 3)
    | [b, c] =>
      if !isSecondOfFour lead b then (replacement, 1)
      else if isTrail c then (replacement, 3)
      else (replacement, 2)
    | [b] => if isSecondOfFour lead b then (replacement, 2) else (replacement, 1)
    | [] => (replacement, 1)
  else (replacement, 1)

/-- The characters of any octet string, with U+FFFD for each maximal ill-formed prefix. -/
def lossyChars : Bytes → List Char
  | [] => []
  | lead :: rest =>
    let (c, n) := front lead rest
    c :: lossyChars (rest.drop (n - 1))
termination_by bs => bs.length

/-- The text of any octet string. -/
def lossy (bs : Bytes) : String :=
  String.ofList (lossyChars bs)

end Utf8

end WirelessStation
