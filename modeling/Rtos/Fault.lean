import Rtos.Record.Description
import Rtos.Thread.Id
import Rtos.Value

/-!
# Faults

Mistakes of the program that the core does not report as errors: it stops. Each fault
knows the message it stops with. Those that the core finds itself leave a line in the
log; those that its host finds do not.
-/

namespace Rtos

inductive FlagOwner where
  | event
  | thread
  deriving DecidableEq

/-- The name of a flag word's owner in messages. -/
def FlagOwner.name : FlagOwner → String
  | event => "FurryEventFlag"
  | thread => "Thread"

/-- A mistake of the program that stops it. -/
inductive Fault where
  /-- Bits outside the valid ones were named in a call on a flag word. -/
  | invalidFlagBits (owner : FlagOwner) (bits valid : UInt32)
  /-- A thread waits without limit for a mutex that it holds itself. -/
  | selfDeadlock (thread : ThreadId)
  /-- A mutex was destroyed while a thread held it. -/
  | heldMutexDestroyed (owner : ThreadId)
  /-- A semaphore was made with a maximum of zero or an initial count above it. -/
  | badCounts (initial maximum : Nat)
  | zeroCapacity
  /-- Room was asked for beyond the largest number of bytes. -/
  | capacityOverflow
  /-- A number of places or a column width beyond what can be rendered was asked for. -/
  | formatOutOfRange
  /-- A thread was to be started under a name with a NUL in it. -/
  | nulInThreadName (name : String)
  /-- A registry was called in interrupt context. -/
  | registryInInterrupt (operation : String) (name : Bytes)
  /-- A record was published although it already was. -/
  | publishedTwice (name : Bytes) (holders : Nat)
  /-- A record was opened as another type than the published one. -/
  | wrongType (name : Bytes) (wanted : ValueType)
  /-- The data of a record that is held was not there. -/
  | vanished (name : Bytes)
  /-- A record was closed although nobody held it. -/
  | closedTooOften (name : Bytes)
  /-- A delay was called in interrupt context. -/
  | delayInInterrupt (operation : String)
  deriving DecidableEq

namespace Fault

/-- A word in hexadecimal with eight digits. -/
def wordText (word : UInt32) : String :=
  "0x" ++ Utf8.lossyText (Number.zeroFilled 8 (Number.numeral 16 false word.toNat))

/-- Bytes as numbers between brackets. -/
def bytesText (bytes : Bytes) : String :=
  let numbers := bytes.map fun byte => Utf8.lossyText (Number.decimal byte.toNat)
  "[" ++ ", ".intercalate numbers ++ "]"

/-- The message with which a fault stops the program. -/
def message : Fault → String
  | invalidFlagBits owner bits valid =>
      s!"{owner.name}: flag bits {wordText bits} outside {wordText valid}"
  | selfDeadlock thread =>
      s!"FurryMutex: thread {thread.label} acquired a non-recursive mutex it already holds"
  | heldMutexDestroyed owner =>
      s!"FurryMutex: destroyed while held by thread {owner.label}"
  | badCounts initial maximum =>
      s!"FurrySemaphore: initial count {initial} with max count {maximum}"
  | zeroCapacity => "FurryQueue: capacity must be non-zero"
  | capacityOverflow => "capacity overflow"
  | formatOutOfRange => "Formatting argument out of range"
  | nulInThreadName name =>
      let bytes := Bytes.ofString name
      "thread name may not contain interior null bytes: " ++
        s!"NulError({(Bytes.untilNul bytes).length}, {bytesText bytes})"
  | registryInInterrupt operation name =>
      s!"Record: {operation} of {Record.nameText name} from interrupt context"
  | publishedTwice name holders =>
      s!"Record: {Record.descriptionText name holders} published twice"
  | wrongType name _ => s!"Record: {Record.nameText name} holds a different type"
  | vanished _ => "Record: held record lost its data"
  | closedTooOften name => s!"Record: {Record.nameText name} closed more often than opened"
  | delayInInterrupt operation => s!"Kernel: {operation} from interrupt context"

/-- The part of the core that finds a fault, as the log names it, and what it logs. -/
def report? : Fault → Option (String × String)
  | invalidFlagBits owner bits _ =>
      some ("furry_core::sync::flags", s!"{owner.name}: invalid flag bits {wordText bits}")
  | selfDeadlock thread =>
      some ("FurryMutex", s!"thread {thread.label} deadlocks on its own mutex")
  | heldMutexDestroyed owner =>
      some ("FurryMutex", s!"mutex destroyed while held by thread {owner.label}")
  | badCounts initial maximum =>
      some ("FurrySemaphore", s!"bad counts {initial}/{maximum}")
  | zeroCapacity => some ("FurryQueue", "zero capacity")
  | capacityOverflow => none
  | formatOutOfRange => none
  | nulInThreadName _ => none
  | registryInInterrupt operation name =>
      some ("Record", s!"{operation} {Record.nameText name} from interrupt context")
  | publishedTwice name holders =>
      some ("Record", s!"{Record.descriptionText name holders} already published")
  | wrongType name wanted =>
      some ("Record", s!"{Record.nameText name} opened as {wanted.name}")
  | vanished name => some ("Record", s!"{Record.nameText name} vanished while held")
  | closedTooOften name =>
      some ("Record", s!"close of {Record.nameText name} without a holder")
  | delayInInterrupt operation =>
      some ("Kernel", s!"{operation} called from interrupt context")

end Fault

end Rtos
