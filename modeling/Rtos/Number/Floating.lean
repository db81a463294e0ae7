import Rtos.Number.Decimal

/-!
# Floating-point values

The values of the binary interchange formats of 64 and 32 bits, decoded into a
significand and a power of two. An integer becomes the nearest value with 53
significant bits, and of two equally near ones the one with an even significand.
-/

namespace Rtos

namespace Number

inductive Floating where
  | nan
  | infinite (negative : Bool)
  /-- The number `significand * 2 ^ exponent` with a sign, which zero has too. -/
  | finite (negative : Bool) (significand : Nat) (exponent : Int)
  deriving DecidableEq

namespace Floating

/--
The value of an encoding whose fraction field has `fractionBits` bits and whose
exponent field has `exponentBits` bits.
-/
def ofFields (exponentBits fractionBits : Nat) (encoding : Nat) : Floating :=
  let fraction := encoding % Nat.pow 2 fractionBits
  let exponent := encoding / Nat.pow 2 fractionBits % Nat.pow 2 exponentBits
  let negative := encoding / Nat.pow 2 (fractionBits + exponentBits) % 2 == 1
  let bias : Int := Nat.pow 2 (exponentBits - 1) - 1 + fractionBits
  if exponent = Nat.pow 2 exponentBits - 1 then
    if fraction = 0 then infinite negative else nan
  else if exponent = 0 then finite negative fraction (1 - bias)
  else finite negative (Nat.pow 2 fractionBits + fraction) (exponent - bias)

/-- The value of a 64-bit encoding. -/
def ofBinary64 (encoding : UInt64) : Floating :=
  ofFields 11 52 encoding.toNat

/-- The value of a 32-bit encoding. -/
def ofBinary32 (encoding : UInt32) : Floating :=
  ofFields 8 23 encoding.toNat

/-- The number of significant bits of a 64-bit value. -/
def precision : Nat := 53

/-- The nearest value to a natural number below `2 ^ 64`. -/
def ofNat (negative : Bool) (number : Nat) : Floating :=
  let excess := number.log2 + 1 - precision
  finite negative (roundedQuotient number (Nat.pow 2 excess)) excess

/-- The nearest value to an integer. -/
def ofInt (number : Int) : Floating :=
  ofNat (number < 0) number.natAbs

/-- A significand and a power of two as a decimal fraction: half is five tenths. -/
def magnitude (significand : Nat) : Int → Decimal
  | .ofNat power => ⟨significand * Nat.pow 2 power, 0⟩
  | .negSucc power => ⟨significand * Nat.pow 5 (power + 1), power + 1⟩

end Floating

end Number

end Rtos
