import Rtos.ByteString.Basic
import Rtos.Format.Print

/-!
# Printing into byte strings

Formatted output that replaces the content of a string or is appended to it. If the
format cannot be applied the string stays as it is. The number of bytes written is
the answer.
-/

namespace Rtos

namespace ByteString

def print (string : ByteString) (format : Bytes) (arguments : List Format.Argument) :
    Except Format.Failure (ByteString × Nat) :=
  (Format.print format arguments).map fun output => (string.setBytes output, output.length)

def ofPrint (format : Bytes) (arguments : List Format.Argument) :
    Except Format.Failure ByteString :=
  (empty.print format arguments).map (·.1)

/-- Appends formatted output, which is first printed into a string of its own. -/
def appendPrint (string : ByteString) (format : Bytes) (arguments : List Format.Argument) :
    Except Format.Failure (ByteString × Nat) :=
  (empty.print format arguments).map fun (printed, written) =>
    (string.append printed, written)

end ByteString

end Rtos
