import Rtos.Format.Directive
import Rtos.Number.Digits

/-!
# Fields

What a directive writes before it is filled up to its width: a sign or radix
mark, a body, and whether zeros may come between the two.
-/

namespace Rtos

namespace Format

/-- The flags, width and precision of a directive once its arguments are known. -/
structure Layout where
  flags : Flags
  width : Nat
  precision : Option Nat
  deriving DecidableEq

/-- The output of a directive without filling. -/
structure Field where
  mark : Bytes := []
  body : Bytes
  /-- Whether the zero flag fills with zeros between mark and body. -/
  zeroFill : Bool := false
  deriving DecidableEq

namespace Field

def spaces (count : Nat) : Bytes :=
  List.replicate count 0x20

def zeros (count : Nat) : Bytes :=
  List.replicate count 0x30

/-- The number of bytes of a field without filling. -/
def length (field : Field) : Nat :=
  field.mark.length + field.body.length

/-- A field filled up to the width of its layout. -/
def padded (field : Field) (layout : Layout) : Bytes :=
  let missing := layout.width - field.length
  if layout.flags.left then field.mark ++ field.body ++ spaces missing
  else if field.zeroFill then field.mark ++ zeros missing ++ field.body
  else spaces missing ++ field.mark ++ field.body

end Field

namespace Flags

/-- The sign of a number: a minus sign, or what the flags ask for in its place. -/
def sign (flags : Flags) (negative : Bool) : Bytes :=
  if negative then [0x2D]
  else if flags.plus then [0x2B]
  else if flags.space then [0x20]
  else []

end Flags

end Format

end Rtos
