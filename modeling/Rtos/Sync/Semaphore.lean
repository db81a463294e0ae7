import Rtos.Sync.Monitor

/-!
# Semaphores

A count of tokens between zero and a maximum. Acquiring takes a token and waits for
one if there is none; releasing gives one back and fails at the maximum.
-/

namespace Rtos

namespace Sync

structure Semaphore where
  maximum : Nat
  count : Nat
  deriving DecidableEq

namespace Semaphore

/-- A new semaphore; a maximum of zero or a count above it is a fault. -/
def create (maximum initial : Nat) : Except Fault Semaphore :=
  if maximum = 0 ∨ maximum < initial then .error (.badCounts initial maximum)
  else .ok ⟨maximum, initial⟩

inductive Request where
  | acquire (timeout : Timeout)
  | release
  deriving DecidableEq

/-- The one condition of a semaphore: that there is a token. -/
inductive Condition where
  | available
  deriving DecidableEq

/-- What a call does while it holds the lock. -/
def pass (semaphore : Semaphore) : Request → Pass Semaphore Condition Unit
  | .acquire timeout =>
      if 0 < semaphore.count then
        .finish (.ok ()) { semaphore with count := semaphore.count - 1 } []
      else .wait .available timeout
  | .release =>
      if semaphore.maximum ≤ semaphore.count then .finish (.error .resource) semaphore []
      else
        .finish (.ok ()) { semaphore with count := semaphore.count + 1 } [.one .available]

/-- Why a call is refused in interrupt context: only polls are allowed there. -/
def Request.refusal? : Request → Option Error
  | acquire timeout => if timeout.isPoll then none else some .invalidInInterrupt
  | release => none

end Semaphore

end Sync

end Rtos
