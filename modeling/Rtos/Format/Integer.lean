import Rtos.Format.Field

/-!
# Integer fields

The numerals of the integer conversions. A precision is a least number of digits;
zero with precision zero has none. The alternate form makes an octal numeral begin
with a zero and marks a hexadecimal one that is not zero by its radix.
-/

namespace Rtos

namespace Format

/-- The base in which a conversion writes integers. -/
def Conversion.base : Conversion → Nat
  | .octal => 8
  | .hexadecimal _ => 16
  | _ => 10

def Conversion.isUpper : Conversion → Bool
  | .hexadecimal upper => upper
  | .fixed upper => upper
  | .scientific upper => upper
  | .general upper => upper
  | _ => false

namespace Layout

/-- The digits of a magnitude, extended with zeros to the precision. -/
def integerDigits (layout : Layout) (conversion : Conversion) (magnitude : Nat) : Bytes :=
  match layout.precision with
  | none => Number.numeral conversion.base conversion.isUpper magnitude
  | some precision =>
      if precision = 0 ∧ magnitude = 0 then []
      else Number.zeroFilled precision
        (Number.numeral conversion.base conversion.isUpper magnitude)

/-- The digits of a magnitude, with the leading zero of the alternate octal form. -/
def integerBody (layout : Layout) (conversion : Conversion) (magnitude : Nat) : Bytes :=
  let digits := layout.integerDigits conversion magnitude
  if conversion = .octal ∧ layout.flags.alternate ∧ digits.head? ≠ some 0x30 then
    0x30 :: digits
  else digits

/-- The sign or radix mark of an integer. -/
def integerMark (layout : Layout) (conversion : Conversion) (negative : Bool)
    (magnitude : Nat) : Bytes :=
  match conversion with
  | .signed => layout.flags.sign negative
  | .hexadecimal upper =>
      if layout.flags.alternate ∧ magnitude ≠ 0 then [0x30, if upper then 0x58 else 0x78]
      else []
  | _ => []

def integerField (layout : Layout) (conversion : Conversion) (negative : Bool)
    (magnitude : Nat) : Field where
  mark := layout.integerMark conversion negative magnitude
  body := layout.integerBody conversion magnitude
  zeroFill := layout.flags.zero && layout.precision.isNone

end Layout

end Format

end Rtos
