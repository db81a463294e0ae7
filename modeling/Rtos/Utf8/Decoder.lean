import Rtos.Utf8.Encoding

/-!
# Decoding byte by byte

A decoder that a caller feeds with bytes as they arrive. It remembers how many
continuation bytes are still to come and the bits collected so far. The first
byte of a character is classified by its high bits alone, so overlong forms,
surrogates and values past the last code point are decoded like the rest; it is
for the reader of the decoded value to judge them.
-/

namespace Rtos

namespace Utf8

inductive State where
  /-- A new character; after a completed one the accumulator holds its value. -/
  | ready
  /-- One more continuation byte. -/
  | oneLeft
  /-- Two more continuation bytes. -/
  | twoLeft
  /-- Three more continuation bytes. -/
  | threeLeft
  /-- Nothing: the input was malformed. -/
  | failed
  deriving DecidableEq

/-- A decoder between two bytes. -/
structure Decoder where
  state : State := .ready
  /-- The bits collected so far; those shifted out at the top are lost. -/
  accumulator : UInt32 := 0
  deriving DecidableEq

/-- Whether a byte may only continue a character. -/
def isContinuation (byte : UInt8) : Bool :=
  0x80 ≤ byte && byte < 0xC0

namespace Decoder

/-- The decoder after malformed input, which keeps its accumulator. -/
def fail (decoder : Decoder) : Decoder :=
  { decoder with state := .failed }

/-- The decoder after the first byte of a character. -/
def start (decoder : Decoder) (byte : UInt8) : Decoder :=
  if byte < 0x80 then ⟨.ready, byte.toUInt32⟩
  else if byte < 0xC0 then decoder.fail
  else if byte < 0xE0 then ⟨.oneLeft, (byte % 32).toUInt32⟩
  else if byte < 0xF0 then ⟨.twoLeft, (byte % 16).toUInt32⟩
  else if byte < 0xF8 then ⟨.threeLeft, (byte % 8).toUInt32⟩
  else decoder.fail

/-- The decoder after a byte that has to continue a character. -/
def extend (decoder : Decoder) (next : State) (byte : UInt8) : Decoder :=
  if isContinuation byte then ⟨next, decoder.accumulator * 64 + (byte % 64).toUInt32⟩
  else decoder.fail

def step (decoder : Decoder) (byte : UInt8) : Decoder :=
  match decoder.state with
  | .ready => decoder.start byte
  | .oneLeft => decoder.extend .ready byte
  | .twoLeft => decoder.extend .oneLeft byte
  | .threeLeft => decoder.extend .twoLeft byte
  | .failed => decoder

def run (decoder : Decoder) (bytes : Bytes) : Decoder :=
  bytes.foldl step decoder

/-- The decoders after each byte of a sequence. -/
def trace (decoder : Decoder) : Bytes → List Decoder
  | [] => []
  | byte :: rest => decoder.step byte :: (decoder.step byte).trace rest

end Decoder

end Utf8

end Rtos
