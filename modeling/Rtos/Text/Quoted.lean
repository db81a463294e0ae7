import Rtos.Text.Hidden

/-!
# Quoted text

A text between double quotes. Quotes, backslashes and the common controls are
escaped by a backslash, every other character that does not show by its code point
in hexadecimal.
-/

namespace Rtos

namespace Text

/-- The escape of a character by its code point. -/
def codePointEscape (character : Char) : List Char :=
  ['\\', 'u', '\x7b'] ++ Nat.toDigits 16 character.toNat ++ ['\x7d']

def escape (character : Char) : List Char :=
  if character = '\x00' then ['\\', '0']
  else if character = '\t' then ['\\', 't']
  else if character = '\r' then ['\\', 'r']
  else if character = '\n' then ['\\', 'n']
  else if character = '\\' then ['\\', '\\']
  else if character = '"' then ['\\', '"']
  else if isHidden character then codePointEscape character
  else [character]

def quoted (text : String) : String :=
  String.ofList (['"'] ++ text.toList.flatMap escape ++ ['"'])

end Text

end Rtos
