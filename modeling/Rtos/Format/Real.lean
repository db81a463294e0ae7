import Rtos.Format.Integer
import Rtos.Number.Floating

/-!
# Floating-point fields

The fixed form writes a value rounded to so many places after the point, the
scientific form a mantissa of one digit and so many places with an exponent of at
least two digits. The general form takes a number of significant digits; it writes
an exponent if the value rounded to that many digits has an exponent below minus
four or not below that number, and drops the zeros at the end of the places unless
the alternate form keeps them.

A finite value is rendered with a limited number of places. The general form counts
twice: by the mantissa that is rounded first, and by the positional form where it is
chosen.
-/

namespace Rtos

namespace Format

/-- The number of places if a directive gives no precision. -/
def defaultPlaces : Nat := 6

/-- The largest number of places of one rendering. -/
def placesLimit : Nat := Nat.pow 2 16 - 1

/-- A whole part and places, with a point between them if there are places or it is kept. -/
def pointed (whole places : Bytes) (keepPoint : Bool) : Bytes :=
  if places.isEmpty && !keepPoint then whole else whole ++ point :: places

/-- Places without the zeros at their end. -/
def withoutTrailingZeros (places : Bytes) : Bytes :=
  (places.reverse.dropWhile (· == 0x30)).reverse

/--
The number `digits / 10 ^ places` in positional form. Zeros at the end of the places
are dropped on request.
-/
def positional (digits places : Nat) (dropZeros keepPoint : Bool) : Bytes :=
  let text := Number.zeroFilled (places + 1) (Number.decimal digits)
  let whole := text.take (text.length - places)
  let fraction := text.drop (text.length - places)
  pointed whole (if dropZeros then withoutTrailingZeros fraction else fraction) keepPoint

/-- The mark, sign and digits of an exponent. -/
def exponentText (upper : Bool) (exponent : Int) : Bytes :=
  [if upper then 0x45 else 0x65, if exponent < 0 then 0x2D else 0x2B] ++
    Number.zeroFilled 2 (Number.decimal exponent.natAbs)

namespace Layout

/-- The number of places of the fixed and the scientific form. -/
def places (layout : Layout) : Nat :=
  layout.precision.getD defaultPlaces

/-- The number of significant digits of the general form. -/
def significantDigits (layout : Layout) : Nat :=
  max layout.places 1

/-- The mantissa and exponent by which the general form chooses between its two forms. -/
def generalRounding (layout : Layout) (value : Number.Decimal) : Number.Scientific :=
  value.toScientific (layout.significantDigits - 1)

/-- The places of the general form after rounding, unless it writes an exponent. -/
def generalPlaces? (layout : Layout) (rounded : Number.Scientific) : Option Nat :=
  if rounded.exponent < -4 ∨ (layout.significantDigits : Int) ≤ rounded.exponent then none
  else some ((layout.significantDigits : Int) - 1 - rounded.exponent).toNat

def fixedBody (layout : Layout) (value : Number.Decimal) : Bytes :=
  positional (value.toPlaces layout.places) layout.places false layout.flags.alternate

def scientificBody (layout : Layout) (upper : Bool) (value : Number.Decimal) : Bytes :=
  let rounded := value.toScientific layout.places
  positional rounded.digits layout.places false layout.flags.alternate ++
    exponentText upper rounded.exponent

def generalBody (layout : Layout) (upper : Bool) (value : Number.Decimal) : Bytes :=
  let rounded := layout.generalRounding value
  let keepZeros := layout.flags.alternate
  match layout.generalPlaces? rounded with
  | some places => positional (value.toPlaces places) places (!keepZeros) keepZeros
  | none =>
      positional rounded.digits (layout.significantDigits - 1) (!keepZeros) keepZeros ++
        exponentText upper rounded.exponent

def realBody (layout : Layout) (conversion : Conversion) (value : Number.Decimal) : Bytes :=
  match conversion with
  | .fixed _ => layout.fixedBody value
  | .scientific upper => layout.scientificBody upper value
  | _ => layout.generalBody conversion.isUpper value

/-- Whether every rendering of a finite value is within the limit of places. -/
def hasPlacesFor (layout : Layout) (conversion : Conversion) (value : Number.Decimal) : Bool :=
  match conversion with
  | .general _ =>
      layout.significantDigits - 1 ≤ placesLimit &&
        (layout.generalPlaces? (layout.generalRounding value)).all (· ≤ placesLimit)
  | _ => layout.places ≤ placesLimit

/-- Whether a value can be rendered; what is not finite always can. -/
def canRender (layout : Layout) (conversion : Conversion) (value : Number.Floating) : Bool :=
  match value with
  | .finite _ significand exponent =>
      layout.hasPlacesFor conversion (Number.Floating.magnitude significand exponent)
  | _ => true

/-- The field of a floating-point value; what is not finite is never filled with zeros. -/
def realField (layout : Layout) (conversion : Conversion) (value : Number.Floating) : Field :=
  match value with
  | .nan =>
      { mark := layout.flags.sign false
        body := Bytes.ofString (if conversion.isUpper then "NAN" else "nan") }
  | .infinite negative =>
      { mark := layout.flags.sign negative
        body := Bytes.ofString (if conversion.isUpper then "INF" else "inf") }
  | .finite negative significand exponent =>
      { mark := layout.flags.sign negative
        body := layout.realBody conversion (Number.Floating.magnitude significand exponent)
        zeroFill := layout.flags.zero }

end Layout

end Format

end Rtos
