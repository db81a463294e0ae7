import Rtos.Kernel
import Rtos.Sync.Mutex
import Rtos.Sync.Queue
import Rtos.Sync.Semaphore
import Rtos.Machine.Label
import Rtos.Thread.Table

/-!
# Calls

What an actor may ask of the core and of its host, what it is told, and which calls are
refused in interrupt context. A refused call has no other effect: the refusals are
decided before anything is looked at.
-/

namespace Rtos

namespace Machine

/-- An object that is to be made. -/
inductive Creation where
  | mutex (kind : Sync.MutexKind)
  | semaphore (maximum initial : Nat)
  | eventFlag
  | queue (type : ValueType) (capacity : Nat)
  | registry (interval : Duration)
  | kernel (config : KernelConfig)
  deriving DecidableEq

inductive MutexCall where
  | kind
  | owner
  | acquire (timeout : Timeout)
  /-- Acquires the mutex and keeps a guard that releases it. -/
  | lock (timeout : Timeout)
  | release
  deriving DecidableEq

inductive SemaphoreCall where
  | count
  | maximum
  | request (request : Sync.Semaphore.Request)
  deriving DecidableEq

inductive QueueCall where
  | size
  | counts
  | request (request : Sync.Queue.Request Value)
  deriving DecidableEq

inductive RegistryCall where
  | publish (name : Bytes) (data : Record.Data)
  | openRecord (name : Bytes) (wanted : ValueType) (patience : Record.Patience)
  | close (name : Bytes)
  | destroy (name : Bytes)
  | contains (name : Bytes)
  | holders (name : Bytes)
  | size
  | isEmpty
  | teardown
  deriving DecidableEq

inductive KernelCall where
  | bringUp
  | config
  | teardown
  deriving DecidableEq

/-- By what a thread is named whose flags are set. -/
inductive Address where
  /-- By its number, under which only a running thread is found. -/
  | number
  /-- By a handle, which outlives the thread. -/
  | handle
  deriving DecidableEq

inductive ThreadCall where
  /-- The caller's own thread, which may be remembered under a label. -/
  | current (remember : Option Label)
  | recall (thread : Label)
  /-- The running thread with the number of a remembered one. -/
  | find (thread : Label)
  | setFlags (thread : Label) (address : Address) (mask : UInt32)
  /-- A call on the caller's own flags. -/
  | ownFlags (request : Sync.FlagWord.Request)
  /-- Starts a thread through the core, perhaps with the defaults of a kernel. -/
  | start (actor : Label) (name : Option String) (stack : Option Nat) (kernel : Option Label)
  /-- Starts a thread that the core does not know. -/
  | startUnknown (actor : Label) (name : Option String)
  | giveWay
  | exit (ending : ThreadEnding)
  /-- Waits until a thread that was started by the core has ended. -/
  | join (thread : Label)
  deriving DecidableEq

/-- A call about the interrupt context of the caller. -/
inductive InterruptCall where
  | enter
  | leave
  | status
  deriving DecidableEq

inductive Call where
  | create (object : Label) (creation : Creation)
  | discard (object : Label)
  | mutex (object : Label) (call : MutexCall)
  | unlock
  | semaphore (object : Label) (call : SemaphoreCall)
  | eventFlag (object : Label) (request : Sync.FlagWord.Request)
  | queue (object : Label) (call : QueueCall)
  | registry (object : Label) (call : RegistryCall)
  | kernel (object : Label) (call : KernelCall)
  | delay (delay : Delay)
  | interrupt (call : InterruptCall)
  | thread (call : ThreadCall)
  /-- Waits for the next report of an open that still waits. -/
  | awaitReport
  deriving DecidableEq

structure ThreadReport where
  id : ThreadId
  name : Option String
  state : ThreadState
  description : String
  deriving DecidableEq

/-- What a call answers. -/
inductive Reply where
  | done
  | failed (error : Error)
  /-- The call was a mistake of the program. -/
  | broken (fault : Fault)
  | blocked
  /-- The label stands for nothing that the call could work on. -/
  | unknown
  | truth (value : Bool)
  | number (value : Nat)
  | word (bits : UInt32)
  | mutexKind (kind : Sync.MutexKind)
  | owner (thread : Option ThreadId)
  | item (value : Value)
  | queueSize (capacity itemSize : Nat)
  | queueCounts (count space : Nat)
  | opened (value : Value)
  | holders (count : Option Nat)
  | config (config : KernelConfig)
  /-- The tick counter has advanced by the delay. -/
  | advanced
  | interruptStatus (nesting entries : Nat)
  | started (thread : ThreadId) (name : Option String)
  | thread (report : Option ThreadReport)
  | exited
  | ended (ending : ThreadEnding)
  | report (text : String)
  deriving DecidableEq

/-- The fault of a reply, if it has one. -/
def Reply.fault? : Reply → Option Fault
  | broken fault => some fault
  | _ => none

/--
How a registry call is named in messages, with the name that it is about; the end of a
registry is not mentioned.
-/
def RegistryCall.mention? : RegistryCall → Option (String × Bytes)
  | publish name _ => some ("create", name)
  | openRecord name _ _ => some ("open", name)
  | close name => some ("close", name)
  | destroy name => some ("destroy", name)
  | contains name => some ("exists", name)
  | holders name => some ("holders", name)
  | size => some ("len", Bytes.ofString "registry")
  | isEmpty => some ("len", Bytes.ofString "registry")
  | teardown => none

/-- The reply to a mutex call in interrupt context, if it is refused there. -/
def MutexCall.refusal? : MutexCall → Option Reply
  | kind => none
  | owner => none
  | acquire _ => some (.failed .wouldBlockInInterrupt)
  | lock _ => some (.failed .wouldBlockInInterrupt)
  | release => some (.failed .invalidInInterrupt)

/-- The reply to a registry call in interrupt context, if it is refused there. -/
def RegistryCall.refusal? (call : RegistryCall) : Option Reply :=
  call.mention?.map fun (operation, name) => .broken (.registryInInterrupt operation name)

/-- The reply to a call in interrupt context, if it is refused there. -/
def Call.refusal? : Call → Option Reply
  | mutex _ call => call.refusal?
  | semaphore _ (.request request) => request.refusal?.map .failed
  | eventFlag _ request => request.eventRefusal?.map .failed
  | queue _ (.request request) => request.refusal?.map .failed
  | registry _ call => call.refusal?
  | delay way => some (.broken (.delayInInterrupt way.name))
  | thread (.ownFlags request) => request.threadRefusal?.map .failed
  | _ => none

end Machine

end Rtos
