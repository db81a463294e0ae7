import Rtos.Timeout

/-!
# Configuration

The widths of the flag words and the values an application may choose when it
builds a kernel.
-/

namespace Rtos

/-- The number of usable bits of an event flag. -/
def eventFlagBits : Nat := 24

/-- The number of usable bits of a thread's flag word. -/
def threadFlagBits : Nat := 31

/-- The word with the given number of low bits set. -/
def lowBits (count : Nat) : UInt32 :=
  UInt32.ofNat (Nat.pow 2 count - 1)

/-- The bits an event flag accepts. -/
def eventFlagMask : UInt32 := lowBits eventFlagBits

/-- The bits a thread's flag word accepts. -/
def threadFlagMask : UInt32 := lowBits threadFlagBits

/-- What an application chooses about its kernel. -/
structure KernelConfig where
  /-- The application's name, which begins its kernel log lines. -/
  name : String := "furry"
  /-- How long an open may stay pending before a warning is logged. -/
  warnInterval : Duration := .ofMilliseconds 5000
  /-- The stack size in bytes of threads started through the kernel. -/
  stackSize : Nat := 64 * 1024
  deriving DecidableEq

end Rtos
