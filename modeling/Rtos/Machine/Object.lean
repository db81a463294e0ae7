import Rtos.Machine.Call

/-!
# Objects

The objects that the actors of a machine share, each a monitor or a registry whose
parties are the labels of actors, and what a call on one of them does. A call passes at
once or waits; an impatient call that has to wait stays parked only until its time has
run out.
-/

namespace Rtos

namespace Machine

/-- A mutex and the calls that wait for it. -/
abbrev MutexMonitor :=
  Sync.Monitor Label Sync.Mutex Sync.Mutex.Request Sync.Mutex.Condition

/-- A semaphore and the calls that wait for it. -/
abbrev SemaphoreMonitor :=
  Sync.Monitor Label Sync.Semaphore Sync.Semaphore.Request Sync.Semaphore.Condition

/-- A flag word and the calls that wait for it. -/
abbrev FlagMonitor :=
  Sync.Monitor Label Sync.FlagWord Sync.FlagWord.Request Sync.FlagWord.Condition

/-- A queue and the calls that wait for it. -/
abbrev QueueMonitor :=
  Sync.Monitor Label (Sync.Queue Value) (Sync.Queue.Request Value) Sync.Queue.Condition

inductive Object where
  | mutex (monitor : MutexMonitor)
  | semaphore (monitor : SemaphoreMonitor)
  | eventFlag (monitor : FlagMonitor)
  | queue (type : ValueType) (monitor : QueueMonitor)
  | registry (registry : Registry Label)
  | kernel (kernel : Kernel Label)

/-- A call of an actor, and whether the actor is ready to wait for its end. -/
structure Attempt where
  actor : Label
  patient : Bool
  deriving DecidableEq

/-- The reply that tells how far a call has come. -/
def replyOf {Result : Type} (success : Result → Reply) : Sync.Progress Result → Reply
  | .finished (.ok result) => success result
  | .finished (.error error) => .failed error
  | .parked => .blocked
  | .aborted fault => .broken fault

namespace Attempt

variable {Monitored Request Condition Result : Type} [DecidableEq Condition]

def make (attempt : Attempt)
    (pass : Monitored → Request → Sync.Pass Monitored Condition Result)
    (success : Result → Reply) (monitor : Sync.Monitor Label Monitored Request Condition)
    (request : Request) : Sync.Monitor Label Monitored Request Condition × Reply :=
  let (next, progress) := monitor.call pass attempt.actor request none
  match progress, attempt.patient with
  | .parked, false =>
      match next.expire? pass attempt.actor none with
      | none => (next, .blocked)
      | some (_, last, progress) => (last, replyOf success progress)
  | progress, _ => (next, replyOf success progress)

/-- The reply that tells what a call on a record has answered. -/
def replyOfAnswer : Record.Slot.Answer → Reply
  | .done => .done
  | .removed decision => .truth decision
  | .opened value => .opened value
  | .pending => .blocked
  | .failed error => .failed error
  | .broken fault => .broken fault

/-- An open, which goes on until it has ended or waits. -/
def openRecord (attempt : Attempt) (registry : Registry Label) (name : Bytes)
    (wanted : ValueType) (patience : Record.Patience) : Registry.Reaction Label :=
  let begun := registry.step name (.hold attempt.actor wanted patience)
  let first := begun.registry.proceed name attempt.actor
  match first.answer, attempt.patient with
  | .pending, false =>
      let second := first.registry.step name (.expire attempt.actor)
      let third := second.registry.proceed name attempt.actor
      { third with events := first.events ++ second.events ++ third.events }
  | _, _ => first

end Attempt

namespace Object

def create : Creation → Except Fault Object
  | .mutex kind => .ok (.mutex ⟨{ kind }, []⟩)
  | .semaphore maximum initial =>
      (Sync.Semaphore.create maximum initial).map fun new => .semaphore ⟨new, []⟩
  | .eventFlag => .ok (.eventFlag ⟨.event, []⟩)
  | .queue type capacity =>
      (Sync.Queue.create Value type.size capacity).map fun new => .queue type ⟨new, []⟩
  | .registry interval => .ok (.registry { interval })
  | .kernel config => .ok (.kernel (.create Label config))

/-- The fault of discarding an object, if it is not to be discarded. -/
def discardFault? : Object → Option Fault
  | mutex monitor => monitor.object.destroyFault?
  | _ => none

/-- The registry that an object is or has. -/
def registryOf? : Object → Option (Registry Label)
  | registry records => some records
  | kernel context => some context.registry
  | _ => none

def putRegistry (next : Registry Label) : Object → Object
  | registry _ => registry next
  | kernel context => kernel { context with registry := next }
  | object => object

/-- The registry replies of the calls that ended. -/
def registryReplies (ended : List (Label × Record.Slot.Answer)) : Labelled Reply :=
  ended.map fun (actor, answer) => (actor, Attempt.replyOfAnswer answer)

/-- The replies of the calls that ended at a monitor. -/
def monitorReplies {Result : Type} (success : Result → Reply)
    (ended : List (Label × Sync.Progress Result)) : Labelled Reply :=
  ended.map fun (actor, progress) => (actor, replyOf success progress)

/-- What a successful call on a queue answers. -/
def queueReply : Sync.Queue.Result Value → Reply
  | .stored => .done
  | .item item => .item item
  | .dropped _ => .done

/-- The object at rest, the replies of the calls that ended, and what was reported. -/
def settle : Object → Object × Labelled Reply × List LogEvent
  | mutex monitor =>
      let (next, ended) := monitor.settle Sync.Mutex.pass
      (mutex next, monitorReplies (fun _ => .done) ended, [])
  | semaphore monitor =>
      let (next, ended) := monitor.settle Sync.Semaphore.pass
      (semaphore next, monitorReplies (fun _ => .done) ended, [])
  | eventFlag monitor =>
      let (next, ended) := monitor.settle Sync.FlagWord.pass
      (eventFlag next, monitorReplies .word ended, [])
  | queue type monitor =>
      let (next, ended) := monitor.settle Sync.Queue.pass
      (queue type next, monitorReplies queueReply ended, [])
  | registry records =>
      let (next, ended, events) := records.settle
      (registry next, registryReplies ended, events)
  | kernel context =>
      let (next, ended, events) := context.registry.settle
      (kernel { context with registry := next }, registryReplies ended, events)

/-- What can be seen of an object from outside. -/
inductive View where
  | mutex (owner : Option ThreadId)
  | semaphore (count : Nat)
  | eventFlag (bits : UInt32)
  | queue (count space : Nat)
  | registry (size : Nat)
  | kernel (size : Nat) (initialized : Bool)
  deriving DecidableEq

def view : Object → View
  | mutex monitor => .mutex monitor.object.owner
  | semaphore monitor => .semaphore monitor.object.count
  | eventFlag monitor => .eventFlag monitor.object.bits
  | queue _ monitor => .queue monitor.object.count monitor.object.space
  | registry records => .registry records.size
  | kernel context => .kernel context.registry.size context.initialized

end Object

end Machine

end Rtos
