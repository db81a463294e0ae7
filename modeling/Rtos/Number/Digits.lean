import Rtos.Bytes

/-!
# Digits

The digits of a natural number in a base, most significant first, and their ASCII
form. Zero has one digit.

`digitsOnto` says what the digits are. `digits` finds the same ones in groups, because
a division of a long number costs as much by one digit as by several.
-/

namespace Rtos

namespace Number

/-- The digits of a number in front of digits that are already known. -/
def digitsOnto (base : Nat) (number : Nat) (known : List Nat) : List Nat :=
  if _more : 2 ≤ base ∧ base ≤ number then
    digitsOnto base (number / base) (number % base :: known)
  else number :: known
termination_by number
decreasing_by exact Nat.div_lt_self (by omega) (by omega)

/-- So many of the last digits of a number in front of digits that are already known. -/
def lastDigitsOnto (base : Nat) : Nat → Nat → List Nat → List Nat
  | 0, _, known => known
  | count + 1, number, known =>
      lastDigitsOnto base count (number / base) (number % base :: known)

/-- The number of digits of a group. -/
def groupSize : Nat := 15

/-- The digits of a number, found in groups, in front of digits that are already known. -/
def groupedDigitsOnto (base number : Nat) (known : List Nat) : List Nat :=
  let group := Nat.pow base groupSize
  if _more : 2 ≤ base ∧ group ≤ number then
    groupedDigitsOnto base (number / group)
      (lastDigitsOnto base groupSize (number % group) known)
  else digitsOnto base number known
termination_by number
decreasing_by
  have one_lt : 1 < Nat.pow base groupSize := Nat.one_lt_pow (by decide) (by omega)
  exact Nat.div_lt_self (by omega) one_lt

/-- The digits of a number, most significant first. -/
def digits (base number : Nat) : List Nat :=
  groupedDigitsOnto base number []

/-- The number of decimal digits of a number. -/
def decimalLength (number : Nat) : Nat :=
  (digits 10 number).length

/-- The ASCII form of a digit below sixteen. -/
def digitByte (upper : Bool) (digit : Nat) : UInt8 :=
  UInt8.ofNat (if digit < 10 then 0x30 + digit else (if upper then 0x37 else 0x57) + digit)

/-- The ASCII numeral of a number in a base up to sixteen. -/
def numeral (base : Nat) (upper : Bool) (number : Nat) : Bytes :=
  (digits base number).map (digitByte upper)

/-- The ASCII numeral of a number in base ten. -/
def decimal (number : Nat) : Bytes :=
  numeral 10 false number

/-- Bytes filled up on the left with zeros to a least length. -/
def zeroFilled (length : Nat) (bytes : Bytes) : Bytes :=
  List.replicate (length - bytes.length) 0x30 ++ bytes

end Number

end Rtos
