import Rtos.Number.Digits

/-!
# Decimal fractions

A decimal fraction is a natural number divided by a power of ten. It can be rounded
to a number of places after the point, or to a number of significant digits; in
both cases the nearest choice wins and of two equally near ones the even one.
-/

namespace Rtos

namespace Number

/-- The fraction `coefficient / 10 ^ scale`. -/
structure Decimal where
  coefficient : Nat
  scale : Nat
  deriving DecidableEq

/-- The quotient rounded to the nearest natural number, halves to the even one. -/
def roundedQuotient (numerator denominator : Nat) : Nat :=
  let quotient := numerator / denominator
  let rest := numerator % denominator
  if denominator < 2 * rest ∨ (2 * rest = denominator ∧ quotient % 2 = 1) then quotient + 1
  else quotient

/-- A mantissa of some digits and a decimal exponent: `digits / 10 ^ places * 10 ^ exponent`. -/
structure Scientific where
  /-- The mantissa without its point. -/
  digits : Nat
  /-- The exponent of the first digit. -/
  exponent : Int
  deriving DecidableEq

namespace Decimal

/-- The fraction times `10 ^ places`, rounded. -/
def toPlaces (value : Decimal) (places : Nat) : Nat :=
  if value.scale ≤ places then value.coefficient * Nat.pow 10 (places - value.scale)
  else roundedQuotient value.coefficient (Nat.pow 10 (value.scale - places))

/--
The fraction rounded to one digit before the point and `places` digits after it. A
mantissa that rounding carries to ten is one with the next exponent.
-/
def toScientific (value : Decimal) (places : Nat) : Scientific :=
  if value.coefficient = 0 then ⟨0, 0⟩
  else
    let length := decimalLength value.coefficient
    let exponent : Int := (length : Int) - 1 - value.scale
    if length ≤ places + 1 then
      ⟨value.coefficient * Nat.pow 10 (places + 1 - length), exponent⟩
    else
      let rounded := roundedQuotient value.coefficient (Nat.pow 10 (length - (places + 1)))
      if rounded = Nat.pow 10 (places + 1) then ⟨Nat.pow 10 places, exponent + 1⟩
      else ⟨rounded, exponent⟩

end Decimal

end Number

end Rtos
