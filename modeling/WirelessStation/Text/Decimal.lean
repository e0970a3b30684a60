/-! # Numbers with a fixed number of decimals

`Decimal.fixed places x` writes a binary64 number with exactly `places` digits behind the point.
The number is taken apart into an integer times a power of two and rounded in exact integer
arithmetic, a tie to the even neighbour.  The sign of a negative number stays when all digits
are zero.

* `Decimal.roundDiv_le`, `Decimal.le_roundDiv`: the rounded quotient is within half a unit. -/

namespace WirelessStation.Decimal

/-- The quotient to the nearest integer, a tie to the even one. -/
def roundDiv (num den : Nat) : Nat :=
  let q := num / den
  let r := num % den
  if den < 2 * r ∨ (2 * r = den ∧ q % 2 = 1) then q + 1 else q

theorem roundDiv_le (num : Nat) {den : Nat} (h : 0 < den) :
    2 * (roundDiv num den * den) ≤ 2 * num + den := by
  have hd := Nat.div_add_mod num den
  have hr := Nat.mod_lt num h
  have hc : den * (num / den) = num / den * den := Nat.mul_comm _ _
  simp only [roundDiv]
  split
  · rw [Nat.add_mul]; omega
  · omega

theorem le_roundDiv (num : Nat) {den : Nat} (h : 0 < den) :
    2 * num ≤ 2 * (roundDiv num den * den) + den := by
  have hd := Nat.div_add_mod num den
  have hr := Nat.mod_lt num h
  have hc : den * (num / den) = num / den * den := Nat.mul_comm _ _
  simp only [roundDiv]
  split
  · rw [Nat.add_mul]; omega
  · omega

/-- A binary64 number taken apart; a finite one is `mantissa * 2 ^ exponent`. -/
inductive Parts where
  | nan
  | infinite (negative : Bool)
  | finite (negative : Bool) (mantissa : Nat) (exponent : Int)
deriving DecidableEq, Repr

/-- The parts of a number, from its bit pattern. -/
def Parts.ofFloat (x : Float) : Parts :=
  let bits : Nat := x.toBits.toNat
  let negative : Bool := bits >>> 63 == 1
  let exponent : Nat := (bits >>> 52) % 0x800
  let fraction : Nat := bits % 0x10000000000000
  if exponent = 2047 then
    if fraction = 0 then .infinite negative else .nan
  else if exponent = 0 then .finite negative fraction (-1074)
  else .finite negative (0x10000000000000 + fraction) ((exponent : Int) - 1075)

/-- `mantissa * 2 ^ exponent` in units of the last written digit. -/
def units (places mantissa : Nat) (exponent : Int) : Nat :=
  match exponent with
  | .ofNat e => (mantissa <<< e) * Nat.pow 10 places
  | .negSucc e => roundDiv (mantissa * Nat.pow 10 places) (1 <<< (e + 1))

/-- Digits with zeros in front up to a width. -/
def padded (width n : Nat) : String :=
  let digits := Nat.toDigits 10 n
  String.ofList (List.replicate (width - digits.length) '0' ++ digits)

/-- A number with `places` digits behind the point. -/
def fixed (places : Nat) (x : Float) : String :=
  match Parts.ofFloat x with
  | .nan => "NaN"
  | .infinite negative => if negative then "-inf" else "inf"
  | .finite negative mantissa exponent =>
    let n := units places mantissa exponent
    let sign := if negative then "-" else ""
    sign ++ toString (n / Nat.pow 10 places) ++ "." ++ padded places (n % Nat.pow 10 places)

end WirelessStation.Decimal
