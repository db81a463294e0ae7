import Rtos.Bytes
import Rtos.Error

/-!
# Byte strings

A byte string owns a buffer that holds its content followed by one terminating
NUL, so that the content can be handed at any time to a reader that expects a C
string. The content may itself hold NULs: the buffer's length decides how long it
is. Every operation edits the buffer and leaves it terminated.

The operations that cut a string take a `Span`, a range of positions that carries
the proof that it lies inside the string.
-/

namespace Rtos

/-- A growable sequence of bytes in a buffer with a terminating NUL. -/
structure ByteString where
  /-- The content and the terminator. -/
  buffer : List UInt8
  /-- The number of bytes set aside for the buffer. -/
  capacity : Nat
  deriving DecidableEq

/-- A range of positions inside a sequence of the given size. -/
structure Span (size : Nat) where
  start : Nat
  stop : Nat
  start_le_stop : start ≤ stop
  stop_le_size : stop ≤ size

namespace Span

/-- The part of the range of `count` positions from `start` that lies inside the sequence. -/
def clamp (size start count : Nat) : Span size where
  start := min start size
  stop := min start size + min count (size - min start size)
  start_le_stop := by omega
  stop_le_size := by omega

def length {size : Nat} (span : Span size) : Nat :=
  span.stop - span.start

end Span

namespace ByteString

/-- The bytes before the terminator. -/
def content (string : ByteString) : Bytes :=
  string.buffer.dropLast

/-- The number of bytes before the terminator. -/
def size (string : ByteString) : Nat :=
  string.buffer.length - 1

def isEmpty (string : ByteString) : Bool :=
  string.size == 0

/-- The buffer is the content followed by one terminating NUL. -/
def Terminated (string : ByteString) : Prop :=
  string.buffer = string.content ++ [0]

@[simp]
theorem length_content (string : ByteString) : string.content.length = string.size := by
  simp [content, size]

/-! ## New strings -/

/-- An empty string with room for `capacity` bytes, of which it needs one for the terminator. -/
def withCapacity (capacity : Nat) : ByteString :=
  ⟨[0], max capacity 1⟩

def empty : ByteString :=
  withCapacity 1

instance : Inhabited ByteString :=
  ⟨empty⟩

/-- A copy of the bytes. -/
def ofBytes (bytes : Bytes) : ByteString :=
  ⟨bytes ++ [0], bytes.length + 1⟩

/-- A copy of the C string at the start of the bytes. -/
def ofCString (bytes : Bytes) : ByteString :=
  ofBytes (Bytes.untilNul bytes)

/-- A copy with no more room than its content needs. -/
def copy (string : ByteString) : ByteString :=
  ⟨string.buffer, string.buffer.length⟩

/-! ## Views -/

/-- The content as a reader of C strings sees it. -/
def asCString (string : ByteString) : Bytes :=
  Bytes.untilNul string.buffer

/-- The byte at a position of the content. -/
def byteAt (string : ByteString) (position : Nat) : Except Error UInt8 :=
  match string.content[position]? with
  | some byte => .ok byte
  | none => .error .outOfBounds

/-- The FNV-1a hash of the content. -/
def hash (string : ByteString) : UInt32 :=
  Bytes.hash string.content

/-! ## Edits -/

/-- The string with another buffer, for which room is made if there is none. -/
def withBuffer (string : ByteString) (buffer : List UInt8) : ByteString :=
  ⟨buffer, max string.capacity buffer.length⟩

/-- The number of bytes from which on no room can be had. -/
def allocationLimit : Nat := Nat.pow 2 60

/-- Makes the room exactly as large as asked for, but never smaller than the buffer. -/
def reserve (string : ByteString) (capacity : Nat) : Except Error ByteString :=
  let target := max capacity string.buffer.length
  if string.capacity < target ∧ allocationLimit ≤ target then .error .outOfMemory
  else .ok { string with capacity := target }

/-- Removes the content and keeps the room. -/
def clear (string : ByteString) : ByteString :=
  string.withBuffer [0]

def setBytes (string : ByteString) (bytes : Bytes) : ByteString :=
  string.withBuffer (bytes ++ [0])

/-- Replaces the content by the C string at the start of the bytes. -/
def setCString (string : ByteString) (bytes : Bytes) : ByteString :=
  string.setBytes (Bytes.untilNul bytes)

/-- Replaces the content by at most `limit` bytes of a C string. -/
def setCStringPrefix (string : ByteString) (bytes : Bytes) (limit : Nat) : ByteString :=
  string.setBytes ((Bytes.untilNul bytes).take limit)

/-- Replaces the content by the bytes of a span of another string. -/
def setSpan (string source : ByteString) (span : Span source.size) : ByteString :=
  string.setBytes ((source.content.take span.stop).drop span.start)

/-- Replaces the content by the part of another string that a clamped range covers. -/
def setSubstring (string source : ByteString) (offset length : Nat) : ByteString :=
  string.setSpan source (Span.clamp source.size offset length)

/-- Overwrites the byte at a position of the content. -/
def setByte (string : ByteString) (position : Nat) (byte : UInt8) : Except Error ByteString :=
  if position < string.size then
    .ok (string.withBuffer (string.buffer.set position byte))
  else .error .outOfBounds

/-- Appends one byte: it takes the terminator's place and a new terminator follows. -/
def pushByte (string : ByteString) (byte : UInt8) : ByteString :=
  string.withBuffer (string.buffer.set (string.buffer.length - 1) byte ++ [0])

def pushBytes (string : ByteString) (bytes : Bytes) : ByteString :=
  string.withBuffer (string.buffer.dropLast ++ bytes ++ [0])

def append (string other : ByteString) : ByteString :=
  string.pushBytes other.content

/-- Appends the C string at the start of the bytes. -/
def appendCString (string : ByteString) (bytes : Bytes) : ByteString :=
  string.pushBytes (Bytes.untilNul bytes)

/-- Keeps the first `count` bytes. -/
def left (string : ByteString) (count : Nat) : ByteString :=
  if count < string.size then string.withBuffer (string.buffer.take count ++ [0]) else string

/-- Keeps the last `count` bytes and the terminator after them. -/
def right (string : ByteString) (count : Nat) : ByteString :=
  if count < string.size then string.withBuffer (string.buffer.drop (string.size - count))
  else string

def keep (string : ByteString) (span : Span string.size) : ByteString :=
  string.withBuffer ((string.buffer.take span.stop).drop span.start ++ [0])

/-- Keeps the part of the content that a clamped range covers. -/
def middle (string : ByteString) (position count : Nat) : ByteString :=
  string.keep (Span.clamp string.size position count)

/-- Puts other bytes in the place of a span and keeps the terminator. -/
def splice (string : ByteString) (span : Span string.size) (bytes : Bytes) : ByteString :=
  string.withBuffer (string.buffer.take span.start ++ bytes ++ string.buffer.drop span.stop)

end ByteString

end Rtos
