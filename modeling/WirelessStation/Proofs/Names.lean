import Mathlib.Data.List.Basic
import WirelessStation.Path

/-! # Names say what they name

The last part of a name holds no slash, whatever stands before it (`append_slash_inj`).  The last
part of the name of an interface is its index; that of a network is made of the digits of its SSID,
which hold no underscore, and the tag of its security type (`networkPart_inj`).

So interfaces have one name only if they have one radio and one index (`devicePath_inj`), networks
of one interface only if they have one SSID and one security type (`networkPath_inj`), and networks
of different interfaces never (`names_injective`). -/

namespace WirelessStation

/-! ### Parts -/

/-- Texts that end in a slash and a part without one have this part in common only if they have
everything before it in common. -/
theorem append_slash_inj {a b x y : List Char} (hx : '/' ∉ x) (hy : '/' ∉ y) :
    a ++ '/' :: x = b ++ '/' :: y ↔ a = b ∧ x = y := by
  constructor
  · intro same
    rcases List.append_eq_append_iff.1 same with ⟨l, rfl, rest⟩ | ⟨l, rfl, rest⟩
    · cases l with
      | nil => simpa using rest
      | cons c l =>
        obtain ⟨rfl, rfl⟩ := List.cons.inj rest
        simp at hx
    · cases l with
      | nil => simpa [eq_comm] using rest
      | cons c l =>
        obtain ⟨rfl, rfl⟩ := List.cons.inj rest
        simp at hy
  · rintro ⟨rfl, rfl⟩
    rfl

/-! ### Interfaces -/

theorem toList_devicePath (adapter : String) (index : Nat) :
    (devicePath adapter index).toList = adapter.toList ++ '/' :: Nat.toDigits 10 index := by
  simp [devicePath]

theorem slash_not_mem_toDigits (n : Nat) : '/' ∉ Nat.toDigits 10 n := by
  intro there
  have digit := Nat.isDigit_of_mem_toDigits (by decide) (by decide) there
  exact absurd digit (by decide)

/-- Two interfaces with one name are on one radio and have one index. -/
theorem devicePath_inj {adapter adapter' : String} {index index' : Nat} :
    devicePath adapter index = devicePath adapter' index' ↔
      adapter = adapter' ∧ index = index' := by
  constructor
  · intro same
    have chars := congrArg String.toList same
    rw [toList_devicePath, toList_devicePath,
      append_slash_inj (slash_not_mem_toDigits _) (slash_not_mem_toDigits _)] at chars
    obtain ⟨radios, digits⟩ := chars
    have values := congrArg (Nat.ofDigitChars 10 · 0) digits
    simp only [Nat.ofDigitChars_ten_toDigits] at values
    exact ⟨String.toList_inj.1 radios, values⟩
  · rintro ⟨rfl, rfl⟩
    rfl

/-! ### Networks -/

theorem Bytes.not_mem_hexChars {c : Char} (h : ∀ n : Fin 16, Nat.digitChar n.val ≠ c) (bs : Bytes) :
    c ∉ bs.hexChars := by
  simp only [hexChars, List.mem_flatMap, not_exists, not_and, digits, List.mem_cons,
    List.not_mem_nil, or_false]
  rintro b _ (high | low)
  · have bound : b.toNat / 16 < 16 := by
      have := b.toNat_lt
      omega
    exact h ⟨_, bound⟩ high.symm
  · exact h ⟨b.toNat % 16, Nat.mod_lt _ (by decide)⟩ low.symm

/-- The last part of the name of a network. -/
def networkPart (ssid : String) (security : Security) : List Char :=
  (utf8 ssid).hexChars ++ '_' :: security.tag.toList

theorem toList_networkPath (device ssid : String) (security : Security) :
    (networkPath device ssid security).toList =
      device.toList ++ '/' :: networkPart ssid security := by
  simp [networkPath, networkPart, Bytes.hex]

theorem slash_not_mem_networkPart (ssid : String) (security : Security) :
    '/' ∉ networkPart ssid security := by
  have digits : '/' ∉ (utf8 ssid).hexChars := Bytes.not_mem_hexChars (by decide) _
  have tag : '/' ∉ security.tag.toList := by cases security <;> decide
  simp [networkPart, digits, tag]

variable {device device' ssid ssid' : String} {security security' : Security}

theorem networkPart_inj :
    networkPart ssid security = networkPart ssid' security' ↔
      ssid = ssid' ∧ security = security' := by
  constructor
  · intro same
    have digits : '_' ∉ (utf8 ssid).hexChars := Bytes.not_mem_hexChars (by decide) _
    have tag : '_' ∉ security.tag.toList := by cases security <;> decide
    obtain ⟨names, _, tags⟩ := (List.append_cons_inj_of_notMem digits tag).1 same
    have octets : (utf8 ssid).hex = (utf8 ssid').hex := by rw [Bytes.hex, Bytes.hex, names]
    exact ⟨utf8_injective (Bytes.hex_injective octets),
      Security.tag_injective (String.toList_inj.1 tags)⟩
  · rintro ⟨rfl, rfl⟩
    rfl

theorem networkPath_eq_iff :
    networkPath device ssid security = networkPath device' ssid' security' ↔
      device = device' ∧ networkPart ssid security = networkPart ssid' security' := by
  rw [← String.toList_inj, toList_networkPath, toList_networkPath,
    append_slash_inj (slash_not_mem_networkPart _ _) (slash_not_mem_networkPart _ _),
    String.toList_inj]

/-- Two networks of an interface with one name have one SSID and one security type. -/
theorem networkPath_inj :
    networkPath device ssid security = networkPath device ssid' security' ↔
      ssid = ssid' ∧ security = security' := by
  rw [networkPath_eq_iff, networkPart_inj, and_iff_right rfl]

/-- Two networks with one name are heard by one interface. -/
theorem device_of_networkPath
    (same : networkPath device ssid security = networkPath device' ssid' security') :
    device = device' :=
  (networkPath_eq_iff.1 same).1

/-- Networks with one name, on whatever interfaces, have one interface, one SSID and one security
type, and interfaces with one name have one radio and one index. -/
theorem names_injective {adapter adapter' : String} {index index' : Nat} :
    (networkPath device ssid security = networkPath device' ssid' security' ↔
      device = device' ∧ ssid = ssid' ∧ security = security') ∧
    (devicePath adapter index = devicePath adapter' index' ↔
      adapter = adapter' ∧ index = index') := by
  rw [networkPath_eq_iff, networkPart_inj]
  exact ⟨Iff.rfl, devicePath_inj⟩

end WirelessStation
