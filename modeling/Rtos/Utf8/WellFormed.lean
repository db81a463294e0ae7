import Rtos.Utf8.Encoding

/-!
# Well-formed sequences

Strict UTF-8: no overlong form, no surrogate, nothing past the last code point.
`split` reads the first character of a sequence, or the longest part of it that
begins a character but cannot be completed. Text made of arbitrary bytes has each
such part replaced by one replacement character.
-/

namespace Rtos

namespace Utf8

/-- What a non-empty byte sequence begins with. -/
inductive Head where
  | character (value : Char)
  /-- A malformed part of the given size. -/
  | malformed (size : Nat)
  /-- A character of which the end is missing. -/
  | truncated

/-- The bytes that may come second, by first byte, and the number of bytes after that. -/
def secondByte? (first : UInt8) : Option (UInt8 × UInt8 × Nat) :=
  if first < 0xC2 then none
  else if first < 0xE0 then some (0x80, 0xBF, 0)
  else if first = 0xE0 then some (0xA0, 0xBF, 1)
  else if first = 0xED then some (0x80, 0x9F, 1)
  else if first < 0xF0 then some (0x80, 0xBF, 1)
  else if first = 0xF0 then some (0x90, 0xBF, 2)
  else if first < 0xF4 then some (0x80, 0xBF, 2)
  else if first = 0xF4 then some (0x80, 0x8F, 2)
  else none

/-- The part of a character's value in its first byte, if so many bytes follow. -/
def leadingBits (first : UInt8) (following : Nat) : Nat :=
  first.toNat % Nat.pow 2 (6 - following)

/--
The rest of a character: so many more continuation bytes are due, the value so far
is known, and so are the bytes already read.
-/
def headTail (value read : Nat) : Nat → Bytes → Head
  | 0, _ => .character (scalarOrReplacement value)
  | _ + 1, [] => .truncated
  | due + 1, byte :: rest =>
      if 0x80 ≤ byte && byte ≤ 0xBF then
        headTail (value * 64 + byte.toNat % 64) (read + 1) due rest
      else .malformed read

/-- What a sequence begins with, by its first byte and the bytes after it. -/
def head (first : UInt8) (rest : Bytes) : Head :=
  if first < 0x80 then .character (scalarOrReplacement first.toNat)
  else
    match secondByte? first, rest with
    | none, _ => .malformed 1
    | some _, [] => .truncated
    | some (low, high, due), second :: rest =>
        if low ≤ second && second ≤ high then
          headTail (leadingBits first (due + 1) * 64 + second.toNat % 64) 2 due rest
        else .malformed 1

/--
The number of bytes that a head takes. One that is cut off takes all that are left, which
are at most three.
-/
def Head.size : Head → Nat
  | .character value => max 1 (encode value).length
  | .malformed size => max 1 size
  | .truncated => 3

theorem Head.size_pos (part : Head) : 0 < part.size := by
  cases part <;> simp only [Head.size] <;> omega

/-- Where and how a byte sequence fails to be well-formed. -/
inductive Malformation where
  /-- The bytes of the given size from the given offset begin no character. -/
  | invalid (size offset : Nat)
  /-- The character that begins at the given offset is cut off by the end. -/
  | incomplete (offset : Nat)
  deriving DecidableEq

namespace Malformation

def message : Malformation → String
  | invalid size offset =>
      s!"invalid utf-8 sequence of {size} bytes from index {offset}"
  | incomplete offset => s!"incomplete utf-8 byte sequence from index {offset}"

end Malformation

/-- The heads of a byte sequence one after the other, each with its offset. -/
def headsFrom (offset : Nat) : Bytes → List (Nat × Head)
  | [] => []
  | first :: rest =>
      let part := head first rest
      (offset, part) :: headsFrom (offset + part.size) ((first :: rest).drop part.size)
termination_by bytes => bytes.length
decreasing_by
  have := (head first rest).size_pos
  simp only [List.length_drop, List.length_cons]
  omega

/-- The heads of a byte sequence one after the other, each with its offset. -/
def heads (bytes : Bytes) : List (Nat × Head) :=
  headsFrom 0 bytes

/-- The malformation at one head, if there is one. -/
def Head.malformation? (offset : Nat) : Head → Option Malformation
  | .character _ => none
  | .malformed size => some (.invalid size offset)
  | .truncated => some (.incomplete offset)

/-- The character that a head shows in a text. -/
def Head.shown : Head → Char
  | .character value => value
  | .malformed _ => replacement
  | .truncated => replacement

def malformation? (bytes : Bytes) : Option Malformation :=
  (heads bytes).findSome? fun (offset, part) => part.malformation? offset

def isWellFormed (bytes : Bytes) : Bool :=
  (malformation? bytes).isNone

/-- The text of a byte sequence, with each malformed part replaced. -/
def lossyText (bytes : Bytes) : String :=
  String.ofList ((heads bytes).map fun (_, part) => part.shown)

/-- The text of a well-formed byte sequence, or what is wrong with it. -/
def text? (bytes : Bytes) : Except Malformation String :=
  match malformation? bytes with
  | some malformation => .error malformation
  | none => .ok (lossyText bytes)

end Utf8

end Rtos
