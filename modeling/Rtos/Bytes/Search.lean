import Rtos.Bytes

/-!
# Searching byte sequences

Every search answers with an offset from the start of the sequence, or with nothing. A
needle is looked for only where it fits. `Bytes.find?_bounds` says where a match that was
found lies.
-/

namespace Rtos

namespace Bytes

/-- The first of so many offsets at which a needle occurs. -/
def occurrence? (needle : Bytes) : Nat → Bytes → Option Nat
  | 0, _ => none
  | offsets + 1, bytes =>
      if needle.isPrefixOf bytes then some 0
      else (occurrence? needle offsets bytes.tail).map (· + 1)

/-- The number of offsets at which a needle fits into so many bytes. -/
def fittingOffsets (needle : Bytes) (size : Nat) : Nat :=
  size + 1 - needle.length

/-- The offset of the first occurrence of a needle at or after a starting offset. -/
def find? (haystack needle : Bytes) (start : Nat) : Option Nat :=
  (occurrence? needle (fittingOffsets needle haystack.length - start)
    (haystack.drop start)).map (start + ·)

/-- The offset of the first occurrence of one byte at or after a starting offset. -/
def findByte? (haystack : Bytes) (byte : UInt8) (start : Nat) : Option Nat :=
  ((haystack.drop start).findIdx? (· == byte)).map (start + ·)

/-- The offset of the last occurrence of one byte. -/
def lastOccurrence? (byte : UInt8) : Bytes → Option Nat
  | [] => none
  | first :: rest =>
      match lastOccurrence? byte rest with
      | some offset => some (offset + 1)
      | none => if first == byte then some 0 else none

/-- The offset of the last occurrence of one byte at or before a limit, if there is one. -/
def findByteLast? (haystack : Bytes) (byte : UInt8) (limit : Option Nat) : Option Nat :=
  match limit with
  | none => lastOccurrence? byte haystack
  | some last => lastOccurrence? byte (haystack.take (last + 1))

/-- An occurrence that is found is at one of the offsets. -/
theorem occurrence?_lt {needle bytes : Bytes} {offsets offset : Nat}
    (found : occurrence? needle offsets bytes = some offset) : offset < offsets := by
  induction offsets generalizing bytes offset with
  | zero => cases found
  | succ offsets ih =>
    simp only [occurrence?] at found
    split at found
    · cases found
      exact Nat.succ_pos _
    · simp only [Option.map_eq_some_iff] at found
      obtain ⟨inner, innerFound, rfl⟩ := found
      exact Nat.succ_lt_succ (ih innerFound)

/-- A match that is found lies between the starting offset and the end. -/
theorem find?_bounds {haystack needle : Bytes} {start offset : Nat}
    (found : find? haystack needle start = some offset) :
    start ≤ offset ∧ offset + needle.length ≤ haystack.length := by
  simp only [find?, Option.map_eq_some_iff] at found
  obtain ⟨inner, innerFound, rfl⟩ := found
  have bounded := occurrence?_lt innerFound
  simp only [fittingOffsets] at bounded
  omega

end Bytes

end Rtos
