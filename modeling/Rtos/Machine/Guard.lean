import Rtos.Machine.Basic

/-!
# Mutexes and guards

Calls on mutexes, which have to know the thread of the caller, and the guards that a lock
leaves behind. Dropping a guard releases its mutex. Nobody is there to be told that this
has failed, so a failure is only reported, and the guard is gone all the same.
-/

namespace Rtos

namespace Machine

/-- A request to a mutex by an actor's thread, which is registered if it is not known yet. -/
def requestMutex (machine : Machine) (attempt : Attempt) (id : ObjectId)
    (request : ThreadId → Sync.Mutex.Request) : Effect :=
  match machine.mutex? id with
  | none => { machine, reply := .unknown }
  | some monitor =>
      let (known, thread, events) := machine.current attempt.actor
      let (next, reply) :=
        attempt.make Sync.Mutex.pass (fun _ => .done) monitor (request thread)
      { machine := known.putObject id (.mutex next), reply, events }

/-- A call on a mutex. The guard of a lock is added when the lock has succeeded. -/
def callMutex (machine : Machine) (attempt : Attempt) (id : ObjectId) (call : MutexCall) :
    Effect :=
  match machine.mutex? id with
  | none => { machine, reply := .unknown }
  | some monitor =>
      match call with
      | .kind => { machine, reply := .mutexKind monitor.object.kind }
      | .owner => { machine, reply := .owner monitor.object.owner }
      | .acquire timeout => machine.requestMutex attempt id (.acquire · timeout)
      | .lock timeout => machine.requestMutex attempt id (.acquire · timeout)
      | .release => machine.requestMutex attempt id .release

/-- What happens to the mutex of a guard that an actor drops. -/
def releaseGuard (machine : Machine) (label : Label) (id : ObjectId) : Effect :=
  if machine.isInterrupted label then { machine, reply := .failed .invalidInInterrupt }
  else machine.requestMutex ⟨label, true⟩ id .release

/-- An actor drops its newest guard, which may be the last that has kept the mutex alive. -/
def dropGuard (machine : Machine) (label : Label) : Effect :=
  match (machine.actors.get? label).map (·.guards) with
  | some (id :: older) =>
      let lighter := machine.modifyActor label fun actor => { actor with guards := older }
      let effect := lighter.releaseGuard label id
      let reports := match effect.reply with
        | .failed error => [.guardReleaseFailed error]
        | _ => []
      { effect with
        reply := Reply.done.afterFault (effect.machine.endFault? id)
        events := effect.events ++ reports }
  | _ => { machine, reply := .unknown }

/--
An actor drops as many guards as are counted, the newest first. A fault does not stop it,
but only the first one is told of: who stops already does not stop again.
-/
def dropGuards (machine : Machine) (label : Label) : Nat → Effect
  | 0 => { machine, reply := .done }
  | count + 1 =>
      let first := machine.dropGuard label
      let rest := first.machine.dropGuards label count
      { machine := rest.machine
        reply := match first.reply with
          | .broken fault => .broken fault
          | _ => rest.reply
        events := first.events ++ rest.events }

/-- The number of guards that an actor holds. -/
def guardCount (machine : Machine) (label : Label) : Nat :=
  match machine.actors.get? label with
  | none => 0
  | some actor => actor.guards.length

end Machine

end Rtos
