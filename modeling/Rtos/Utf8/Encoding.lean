import Rtos.Bytes

/-!
# Encoding characters

The UTF-8 encoding of a character: one byte below U+0080, two below U+0800, three
below U+10000 and four from there on. The first byte says how many follow; each of
those carries six bits.
-/

namespace Rtos

namespace Utf8

/-- The character that stands for what could not be decoded. -/
def replacement : Char := '\uFFFD'

/-- A byte that continues a character and carries the six lowest bits of a number. -/
def continuation (bits : Nat) : UInt8 :=
  UInt8.ofNat (0x80 + bits % 64)

def encode (character : Char) : Bytes :=
  let code := character.toNat
  if code < 0x80 then
    [UInt8.ofNat code]
  else if code < 0x800 then
    [UInt8.ofNat (0xC0 + code / 64), continuation code]
  else if code < 0x10000 then
    [UInt8.ofNat (0xE0 + code / 4096), continuation (code / 64), continuation code]
  else
    [UInt8.ofNat (0xF0 + code / 262144), continuation (code / 4096),
      continuation (code / 64), continuation code]

def encodeAll (characters : List Char) : Bytes :=
  characters.flatMap encode

/-- The character with the given code point, unless it is a surrogate or too large. -/
def scalar? (code : Nat) : Option Char :=
  if valid : code.isValidChar then some (Char.ofNatAux code valid) else none

/-- The character with the given code point, or the replacement character. -/
def scalarOrReplacement (code : Nat) : Char :=
  (scalar? code).getD replacement

end Utf8

end Rtos
