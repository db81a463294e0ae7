import Rtos.Bytes

/-!
# Values

The values that travel through queues and are published in records, and their
types. A record is opened as a type, so types have names; a queue reports the size
of its items, so they have sizes too.
-/

namespace Rtos

/-- The type of a queue's items or of a record's data. -/
inductive ValueType where
  /-- An unsigned integer of so many bits. -/
  | unsigned (bits : Nat)
  /-- A signed integer of so many bits. -/
  | signed (bits : Nat)
  | array (length : Nat)
  | text
  | byteString
  /-- The type of the one value that carries nothing. -/
  | unit
  deriving DecidableEq

namespace ValueType

/-- The name of a type in the program's output. -/
def name : ValueType → String
  | unsigned bits => s!"u{bits}"
  | signed bits => s!"i{bits}"
  | array length => s!"[u8; {length}]"
  | text => "alloc::string::String"
  | byteString => "furry_core::string::FurryString"
  | unit => "()"

/-- The size of a value in bytes; texts and byte strings are three words. -/
def size : ValueType → Nat
  | unsigned bits => bits / 8
  | signed bits => bits / 8
  | array length => length
  | text => 24
  | byteString => 24
  | unit => 0

end ValueType

/-- A value that a queue or a record holds. -/
inductive Value where
  | integer (value : Int)
  | text (value : String)
  | bytes (value : Bytes)
  | unit
  deriving DecidableEq

end Rtos
