/-! # Frequencies, channels and bands

A frequency in MHz belongs to at most one band, and inside a band it has a channel number. -/

namespace WirelessStation

inductive Band where
  | twoGhz
  | fiveGhz
  | sixGhz
deriving DecidableEq, Repr

namespace Band

/-- The band of a frequency.  Channel 14 lies apart from the rest of its band. -/
def ofFrequency? (mhz : Nat) : Option Band :=
  if (2412 ≤ mhz ∧ mhz ≤ 2472) ∨ mhz = 2484 then some .twoGhz
  else if 5150 ≤ mhz ∧ mhz ≤ 5925 then some .fiveGhz
  else if 5955 ≤ mhz ∧ mhz ≤ 7115 then some .sixGhz
  else none

/-- The number of a band in GHz. -/
def label : Band → String
  | twoGhz => "2.4"
  | fiveGhz => "5"
  | sixGhz => "6"

end Band

/-- The channel of a frequency: 5 MHz each, counted from the start of the band, at 5 GHz from
5000 MHz. -/
def channel? (mhz : Nat) : Option Nat :=
  if 2412 ≤ mhz ∧ mhz ≤ 2472 then some ((mhz - 2412) / 5 + 1)
  else if mhz = 2484 then some 14
  else if 5150 ≤ mhz ∧ mhz ≤ 5925 then some ((mhz - 5000) / 5)
  else if 5955 ≤ mhz ∧ mhz ≤ 7115 then some ((mhz - 5955) / 5 + 1)
  else none

/-- A frequency has a channel exactly when it lies in a band. -/
theorem isSome_channel? (mhz : Nat) : (channel? mhz).isSome = (Band.ofFrequency? mhz).isSome := by
  by_cases h₁ : 2412 ≤ mhz ∧ mhz ≤ 2472
  · simp [channel?, Band.ofFrequency?, h₁]
  · by_cases h₂ : mhz = 2484
    · simp [channel?, Band.ofFrequency?, h₂]
    · simp only [channel?, Band.ofFrequency?, h₁, h₂, or_self, if_false]
      split
      · rfl
      · split <;> rfl

end WirelessStation
