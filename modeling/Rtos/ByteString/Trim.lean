import Rtos.ByteString.Basic

/-!
# Trimming

Removing the bytes of a set from both ends of a string. The two ends are found
independently; when every byte is in the set they would cross, and the empty span
after the last byte is kept.
-/

namespace Rtos

namespace ByteString

/-- The bytes that count as white space: space, line feed, carriage return and tab. -/
def whitespace : Bytes := [0x20, 0x0A, 0x0D, 0x09]

/-- The number of bytes at the start of a sequence that are in a set. -/
def leadingCount (set bytes : Bytes) : Nat :=
  (bytes.takeWhile (set.contains ·)).length

/-- A sequence does not begin with more bytes than it has. -/
theorem leadingCount_le (set bytes : Bytes) : leadingCount set bytes ≤ bytes.length := by
  simpa [leadingCount] using (List.takeWhile_prefix (set.contains ·) (l := bytes)).length_le

/-- The span between the first and the last byte that are not in a set. -/
def trimSpan (string : ByteString) (set : Bytes) : Span string.size where
  start := leadingCount set string.content
  stop := max (leadingCount set string.content)
    (string.size - leadingCount set string.content.reverse)
  start_le_stop := by omega
  stop_le_size := by
    have := leadingCount_le set string.content
    simp only [length_content] at this
    omega

/-- Removes the bytes of a set from both ends. -/
def trim (string : ByteString) (set : Bytes) : ByteString :=
  string.keep (string.trimSpan set)

def trimWhitespace (string : ByteString) : ByteString :=
  string.trim whitespace

end ByteString

end Rtos
