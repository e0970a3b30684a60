/-! # Octets in hexadecimal

Octet strings are lists of `UInt8`.  `Bytes.hex` writes each octet as two lower-case digits, high
half first, and `Bytes.ofHex?` reads such a text back (upper-case digits are read too).

* `Bytes.ofHex?_hex`: what was written reads back.
* `Bytes.hex_injective`: two octet strings with the same digits are the same. -/

namespace WirelessStation

/-- A string of octets. -/
abbrev Bytes := List UInt8

/-- The value of a hexadecimal digit. -/
def hexValue? (c : Char) : Option Nat :=
  if '0' ≤ c ∧ c ≤ '9' then some (c.toNat - '0'.toNat)
  else if 'a' ≤ c ∧ c ≤ 'f' then some (c.toNat - 'a'.toNat + 10)
  else if 'A' ≤ c ∧ c ≤ 'F' then some (c.toNat - 'A'.toNat + 10)
  else none

theorem hexValue?_digitChar {n : Nat} (h : n < 16) : hexValue? (Nat.digitChar n) = some n := by
  have : ∀ m : Fin 16, hexValue? (Nat.digitChar m.val) = some m.val := by decide
  exact this ⟨n, h⟩

namespace Bytes

/-- The two digits of an octet. -/
def digits (b : UInt8) : List Char :=
  [Nat.digitChar (b.toNat / 16), Nat.digitChar (b.toNat % 16)]

/-- The digits of all octets, in order. -/
def hexChars (bs : Bytes) : List Char :=
  bs.flatMap digits

/-- Two digits for each octet. -/
def hex (bs : Bytes) : String :=
  String.ofList (hexChars bs)

/-- Reads pairs of digits; fails on any other character and on a digit left over. -/
def ofHexChars? : List Char → Option Bytes
  | [] => some []
  | [_] => none
  | high :: low :: rest => do
    let h ← hexValue? high
    let l ← hexValue? low
    let bs ← ofHexChars? rest
    return UInt8.ofNat (16 * h + l) :: bs

/-- Reads a text of digit pairs. -/
def ofHex? (text : String) : Option Bytes :=
  ofHexChars? text.toList

@[simp] theorem hexChars_nil : hexChars [] = [] := rfl

@[simp] theorem hexChars_cons (b : UInt8) (bs : Bytes) :
    hexChars (b :: bs) = digits b ++ hexChars bs := by
  simp [hexChars]

theorem ofHexChars?_hexChars (bs : Bytes) : ofHexChars? (hexChars bs) = some bs := by
  induction bs with
  | nil => rfl
  | cons b bs ih =>
    have hi : b.toNat / 16 < 16 := by have := b.toNat_lt; omega
    have lo : b.toNat % 16 < 16 := Nat.mod_lt _ (by decide)
    have whole : UInt8.ofNat (16 * (b.toNat / 16) + b.toNat % 16) = b := by
      rw [Nat.div_add_mod]; exact UInt8.ofNat_toNat
    simp only [hexChars_cons, digits, List.cons_append, List.nil_append, ofHexChars?,
      hexValue?_digitChar hi, hexValue?_digitChar lo, ih, Option.bind_eq_bind, Option.bind_some,
      Option.pure_def, whole]

/-- What was written reads back. -/
theorem ofHex?_hex (bs : Bytes) : ofHex? (hex bs) = some bs := by
  simp [ofHex?, hex, ofHexChars?_hexChars]

theorem hex_injective {a b : Bytes} (h : hex a = hex b) : a = b := by
  have := congrArg ofHex? h
  simpa [ofHex?_hex] using this

/-- The low octet, then the high one. -/
def le16 (n : Nat) : Bytes :=
  [UInt8.ofNat n, UInt8.ofNat (n / 256)]

end Bytes

end WirelessStation
