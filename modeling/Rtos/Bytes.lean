/-!
# Sequences of bytes

Plain byte sequences and the views of them that the rest of the library shares:
the part before the first NUL, which is what a C string holds, and the reading of
ASCII letters without regard to case.
-/

namespace Rtos

abbrev Bytes := List UInt8

namespace Bytes

/-- The largest number of bytes for which one can ask for room. -/
def roomLimit : Nat := Nat.pow 2 63 - 1

def ofString (text : String) : Bytes :=
  text.toUTF8.toList

/-- The C string at the start of the bytes: everything before the first NUL. -/
def untilNul (bytes : Bytes) : Bytes :=
  bytes.takeWhile (· != 0)

/-- The lower-case form of an ASCII capital letter, and every other byte unchanged. -/
def lowercase (byte : UInt8) : UInt8 :=
  if 65 ≤ byte && byte ≤ 90 then byte + 32 else byte

/-- The 32-bit FNV-1a hash of the bytes. -/
def hash (bytes : Bytes) : UInt32 :=
  bytes.foldl (fun hash byte => (hash ^^^ byte.toUInt32) * 0x01000193) 0x811C9DC5

end Bytes

end Rtos
