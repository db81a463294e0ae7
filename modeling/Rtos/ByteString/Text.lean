import Rtos.ByteString.Basic
import Rtos.Text.Aligned
import Rtos.Text.Quoted
import Rtos.Utf8.Characters
import Rtos.Utf8.WellFormed

/-!
# Byte strings as text

The character view of a byte string: decoding, appending a character, and showing
the content as text, in columns or quoted for a reader who debugs.
-/

namespace Rtos

namespace ByteString

def characters (string : ByteString) : List Char :=
  Utf8.characters string.content

def pushCharacter (string : ByteString) (character : Char) : ByteString :=
  string.pushBytes (Utf8.encode character)

/-- The content as text, if it is well-formed. -/
def text? (string : ByteString) : Except Utf8.Malformation String :=
  Utf8.text? string.content

/-- The content as text, with each malformed part replaced. -/
def text (string : ByteString) : String :=
  Utf8.lossyText string.content

/-- The content quoted, under the name that the type has in the program's output. -/
def debugText (string : ByteString) : String :=
  "FurryString(" ++ Text.quoted string.text ++ ")"

end ByteString

end Rtos
