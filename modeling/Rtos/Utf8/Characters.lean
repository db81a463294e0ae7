import Rtos.Utf8.Decoder

/-!
# The characters of a byte sequence

A byte sequence read as characters by the streaming decoder. A malformed or
truncated character is read as one replacement character. A byte that cannot
continue the character before it is read again as the start of the next one, so
damage never spreads past the byte that shows it.
-/

namespace Rtos

namespace Utf8

/-- The character that a decoder completes, and the bytes after it. -/
def finishCharacter (decoder : Decoder) : Bytes → Char × Bytes
  | [] => (replacement, [])
  | byte :: rest =>
      let next := decoder.step byte
      match next.state with
      | .ready => (scalarOrReplacement next.accumulator.toNat, rest)
      | .failed => (replacement, if decoder.state = .ready then rest else byte :: rest)
      | _ => finishCharacter next rest

/-- Finishing a character leaves no more bytes than there were. -/
theorem finishCharacter_length_le (decoder : Decoder) (bytes : Bytes) :
    (finishCharacter decoder bytes).2.length ≤ bytes.length := by
  induction bytes generalizing decoder with
  | nil => simp [finishCharacter]
  | cons byte rest ih =>
    simp only [finishCharacter]
    split
    · simp
    · split <;> simp
    · exact Nat.le_succ_of_le (ih _)

/-- A character read from its start takes at least one byte. -/
theorem finishCharacter_length_lt (decoder : Decoder) (ready : decoder.state = .ready)
    (byte : UInt8) (rest : Bytes) :
    (finishCharacter decoder (byte :: rest)).2.length < (byte :: rest).length := by
  simp only [finishCharacter, List.length_cons]
  split
  · simp
  · simp [ready]
  · exact Nat.lt_succ_of_le (finishCharacter_length_le _ _)

def characters : Bytes → List Char
  | [] => []
  | byte :: rest =>
      let read := finishCharacter {} (byte :: rest)
      read.1 :: characters read.2
termination_by bytes => bytes.length
decreasing_by exact finishCharacter_length_lt {} rfl byte rest

/-- The number of characters of a byte sequence. -/
def length (bytes : Bytes) : Nat :=
  (characters bytes).length

end Utf8

end Rtos
