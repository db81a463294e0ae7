import Rtos.Config
import Rtos.Sync.Monitor

/-!
# Flag words

A word of bits that anyone may set and clear and that calls wait on. A wait names
some bits and asks for any or for all of them; once it is satisfied it may clear the
bits it named. Every set wakes every wait. Naming a bit outside the valid ones is a
fault.
-/

namespace Rtos

namespace Sync

/-- Whether a wait needs any or all of the bits it names. -/
inductive WaitMode where
  | any
  | all
  deriving DecidableEq

/-- Whether a word satisfies a wait for the bits of a mask; no bits are never any. -/
def WaitMode.isSatisfied (mode : WaitMode) (bits mask : UInt32) : Bool :=
  match mode with
  | any => bits &&& mask != 0
  | all => bits &&& mask == mask

/-- A word of flags. -/
structure FlagWord where
  /-- Whose word it is. -/
  owner : FlagOwner
  /-- The bits that may be used. -/
  valid : UInt32
  bits : UInt32 := 0
  deriving DecidableEq

namespace FlagWord

inductive Request where
  /-- Sets bits and answers the word afterwards. -/
  | set (mask : UInt32)
  /-- Clears bits and answers the word before. -/
  | clear (mask : UInt32)
  | get
  /-- Waits for bits and answers the word before any clearing. -/
  | wait (mask : UInt32) (mode : WaitMode) (clear : Bool) (timeout : Timeout)
  deriving DecidableEq

/-- The one condition of a flag word: that it has changed. -/
inductive Condition where
  | changed
  deriving DecidableEq

def Request.mask : Request → UInt32
  | set mask => mask
  | clear mask => mask
  | get => 0
  | wait mask _ _ _ => mask

/-- What a call with valid bits does while it holds the lock. -/
def passValid (word : FlagWord) : Request → Pass FlagWord Condition UInt32
  | .set mask =>
      .finish (.ok (word.bits ||| mask)) { word with bits := word.bits ||| mask } [.all .changed]
  | .clear mask => .finish (.ok word.bits) { word with bits := word.bits &&& ~~~mask } []
  | .get => .finish (.ok word.bits) word []
  | .wait mask mode clear timeout =>
      if mode.isSatisfied word.bits mask then
        .finish (.ok word.bits)
          (if clear then { word with bits := word.bits &&& ~~~mask } else word) []
      else .wait .changed timeout

/-- What a call does; invalid bits are a fault before anything else. -/
def pass (word : FlagWord) (request : Request) : Pass FlagWord Condition UInt32 :=
  if request.mask &&& ~~~word.valid = 0 then word.passValid request
  else .abort (.invalidFlagBits word.owner request.mask word.valid)

/-- An event flag with every bit clear. -/
def event : FlagWord :=
  { owner := .event, valid := eventFlagMask }

def thread : FlagWord :=
  { owner := .thread, valid := threadFlagMask }

/-- Why a call on an event flag is refused in interrupt context. -/
def Request.eventRefusal? : Request → Option Error
  | wait _ _ _ _ => some .wouldBlockInInterrupt
  | _ => none

/-- Why a call of a thread on its own flags is refused in interrupt context. -/
def Request.threadRefusal? : Request → Option Error
  | set _ => none
  | clear _ => some .invalidInInterrupt
  | get => some .invalidInInterrupt
  | wait _ _ _ _ => some .wouldBlockInInterrupt

end FlagWord

end Sync

end Rtos
