import Rtos.ByteString.Basic
import Rtos.Bytes.Search

/-!
# Replacing parts of a string

Replacement of a range, of the first occurrence of a needle, and of all its
occurrences. The last moves a cursor through the string: it searches behind the cursor
and goes on behind the bytes that it has put in, so these never take part in a further
match.
-/

namespace Rtos

namespace ByteString

/-- The span of a needle that was found. -/
def matchSpan (string : ByteString) {needle : Bytes} {start offset : Nat}
    (found : Bytes.find? string.content needle start = some offset) : Span string.size where
  start := offset
  stop := offset + needle.length
  start_le_stop := by omega
  stop_le_size := by simpa using (Bytes.find?_bounds found).2

/-- Replaces the bytes of a range that begins inside the string and is clamped to its end. -/
def replaceRange (string : ByteString) (position count : Nat) (bytes : Bytes) :
    Except Error ByteString :=
  if string.size < position then .error .outOfBounds
  else .ok (string.splice (Span.clamp string.size position count) bytes)

/-- Replaces the first occurrence at or after an offset and answers where it was. -/
def replaceFirst (string : ByteString) (needle replacement : Bytes) (start : Nat) :
    ByteString × Option Nat :=
  match found : Bytes.find? string.content needle start with
  | none => (string, none)
  | some offset => (string.splice (string.matchSpan found) replacement, some offset)

/--
The bytes after all replacements, of which at most the given number of offsets behind the
cursor come into question. The bytes before the cursor are final and stand in reverse
order; those behind it are untouched, and the search goes on in them alone.
-/
def replaceFrom (needle replacement : Bytes) (nonempty : needle ≠ []) (offsets : Nat)
    (done rest : Bytes) : Bytes × Nat :=
  match found : Bytes.occurrence? needle offsets rest with
  | none => (done.reverseAux rest, 0)
  | some offset =>
      let kept := (rest.take offset).reverseAux done
      let result := replaceFrom needle replacement nonempty
        (offsets - (offset + needle.length)) (replacement.reverseAux kept)
        (rest.drop (offset + needle.length))
      (result.1, result.2 + 1)
termination_by offsets
decreasing_by
  have bounded := Bytes.occurrence?_lt found
  have needlePositive : 0 < needle.length := List.length_pos_iff.2 nonempty
  omega

/-- Replaces every occurrence of a needle and counts them; an empty needle has none. -/
def replaceAll (string : ByteString) (needle replacement : Bytes) : ByteString × Nat :=
  if nonempty : needle ≠ [] then
    let (bytes, count) := replaceFrom needle replacement nonempty
      (Bytes.fittingOffsets needle string.size) [] string.content
    (string.setBytes bytes, count)
  else (string, 0)

end ByteString

end Rtos
