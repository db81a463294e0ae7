import Rtos.Format.Directive
import Rtos.Number.Floating
import Rtos.Utf8.Encoding

/-!
# Arguments of a format

The values that directives consume, and the readings of an argument that the
conversions ask for. A reading that an argument does not have makes the format
invalid.
-/

namespace Rtos

namespace Format

/-- A value that a directive consumes. -/
inductive Argument where
  | signed (value : Int64)
  | unsigned (value : UInt64)
  | floating (value : Number.Floating)
  | character (value : Char)
  /-- Bytes, of which the C string at the start is written. -/
  | bytes (value : Bytes)
  | pointer (address : UInt64)

namespace Argument

def signed? : Argument → Option Int64
  | signed value => some value
  | unsigned value => some value.toInt64
  | character value => some (Int64.ofNat value.toNat)
  | _ => none

def unsigned? : Argument → Option UInt64
  | signed value => some value.toUInt64
  | unsigned value => some value
  | character value => some (UInt64.ofNat value.toNat)
  | pointer address => some address
  | _ => none

def floating? : Argument → Option Number.Floating
  | signed value => some (.ofInt value.toInt)
  | unsigned value => some (.ofNat false value.toNat)
  | floating value => some value
  | _ => none

/-- An argument as one character: an integer gives its low byte. -/
def character? : Argument → Option Bytes
  | signed value => some [value.toUInt64.toUInt8]
  | unsigned value => some [value.toUInt8]
  | character value => some (Utf8.encode value)
  | _ => none

def string? : Argument → Option Bytes
  | bytes value => some (Bytes.untilNul value)
  | _ => none

end Argument

namespace Length

/-- The low bits of an integer as a signed number. -/
def truncateSigned (length : Length) (value : Int64) : Int64 :=
  match length with
  | byte => value.toInt8.toInt64
  | short => value.toInt16.toInt64
  | word => value.toInt32.toInt64
  | wide => value

/-- The low bits of an integer as an unsigned number. -/
def truncateUnsigned (length : Length) (value : UInt64) : UInt64 :=
  match length with
  | byte => value.toUInt8.toUInt64
  | short => value.toUInt16.toUInt64
  | word => value.toUInt32.toUInt64
  | wide => value

end Length

end Format

end Rtos
