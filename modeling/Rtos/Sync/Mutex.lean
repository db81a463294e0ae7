import Rtos.Sync.Monitor

/-!
# Mutexes

A mutex knows the thread that owns it and how often that thread has acquired it. A
recursive mutex lets its owner acquire it again; with a normal one the owner waits
for itself, which without a limit is a fault. Only the owner can release a mutex.
-/

namespace Rtos

namespace Sync

/-- Whether the owner may acquire a mutex again. -/
inductive MutexKind where
  | normal
  | recursive
  deriving DecidableEq

structure Mutex where
  kind : MutexKind
  owner : Option ThreadId := none
  /-- How often the owner has acquired it and not released it. -/
  depth : Nat := 0
  deriving DecidableEq

namespace Mutex

/-- A call on a mutex by a thread. -/
inductive Request where
  | acquire (caller : ThreadId) (timeout : Timeout)
  | release (caller : ThreadId)
  deriving DecidableEq

/-- The one condition of a mutex: that it is free. -/
inductive Condition where
  | released
  deriving DecidableEq

/-- What an acquire does while it holds the lock. -/
def passAcquire (mutex : Mutex) (caller : ThreadId) (timeout : Timeout) :
    Pass Mutex Condition Unit :=
  match mutex.owner with
  | none => .finish (.ok ()) { mutex with owner := some caller, depth := 1 } []
  | some owner =>
      if owner = caller then
        match mutex.kind, timeout with
        | .recursive, _ => .finish (.ok ()) { mutex with depth := mutex.depth + 1 } []
        | .normal, .forever => .abort (.selfDeadlock caller)
        | .normal, .within _ => .wait .released timeout
      else .wait .released timeout

/-- What a release does while it holds the lock. -/
def passRelease (mutex : Mutex) (caller : ThreadId) : Pass Mutex Condition Unit :=
  if mutex.owner = some caller then
    if mutex.depth ≤ 1 then
      .finish (.ok ()) { mutex with owner := none, depth := 0 } [.one .released]
    else .finish (.ok ()) { mutex with depth := mutex.depth - 1 } []
  else .finish (.error .notOwned) mutex []

/-- What a call does while it holds the lock. -/
def pass (mutex : Mutex) : Request → Pass Mutex Condition Unit
  | .acquire caller timeout => mutex.passAcquire caller timeout
  | .release caller => mutex.passRelease caller

/-- The fault of destroying a mutex, if it is held. -/
def destroyFault? (mutex : Mutex) : Option Fault :=
  mutex.owner.map .heldMutexDestroyed

end Mutex

end Sync

end Rtos
