import Rtos.ByteString.Print
import Rtos.Utf8.WellFormed

/-!
# Describing records

The form in which log lines speak of a record and its holders. It is printed by the
format engine, so of a name with a NUL in it only the part before the NUL shows. A
plain mention of a name shows all of it.
-/

namespace Rtos

namespace Record

/-- The format of a description: the name in quotes and the number of holders. -/
def descriptionFormat : Bytes :=
  Bytes.ofString "\"%s\" (%zu holders)"

/-- The description of a record, or its bare name should the format not apply. -/
def describe (name : Bytes) (holders : Nat) : Bytes :=
  let arguments := [.bytes name, .unsigned (UInt64.ofNat holders)]
  match Format.print descriptionFormat arguments with
  | .ok output => output
  | .error _ => name

def descriptionText (name : Bytes) (holders : Nat) : String :=
  Utf8.lossyText (describe name holders)

def nameText (name : Bytes) : String :=
  Utf8.lossyText name

end Record

end Rtos
