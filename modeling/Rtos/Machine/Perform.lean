import Rtos.Machine.Records
import Rtos.Machine.Threads

/-!
# Performing calls

What a call of an actor does. In interrupt context a call may be refused, and then it
does nothing else; all other calls are performed. Afterwards the actor either waits for
the call or has its reply, and with a lock that has succeeded, a guard.
-/

namespace Rtos

namespace Machine

/-- Makes an object, which takes the label of any that had it. -/
def createObject (machine : Machine) (label : Label) (creation : Creation) : Effect :=
  match Object.create creation with
  | .ok object =>
      let (freed, fault) := machine.forget label
      { machine := { freed with store := freed.store.add label object }
        reply := Reply.done.afterFault fault }
  | .error fault => { machine, reply := .broken fault }

/-- Takes the label of an object away, with which the object ends if nothing else uses it. -/
def discardObject (machine : Machine) (label : Label) : Effect :=
  match machine.store.idOf? label with
  | none => { machine, reply := .unknown }
  | some _ =>
      let (freed, fault) := machine.forget label
      { machine := freed, reply := Reply.done.afterFault fault }

def callSemaphore (machine : Machine) (attempt : Attempt) (id : ObjectId)
    (call : SemaphoreCall) : Effect :=
  match machine.store.get? id with
  | some (.semaphore monitor) =>
      match call with
      | .count => { machine, reply := .number monitor.object.count }
      | .maximum => { machine, reply := .number monitor.object.maximum }
      | .request request =>
          let (next, reply) :=
            attempt.make Sync.Semaphore.pass (fun _ => .done) monitor request
          { machine := machine.putObject id (.semaphore next), reply }
  | _ => { machine, reply := .unknown }

def callEventFlag (machine : Machine) (attempt : Attempt) (id : ObjectId)
    (request : Sync.FlagWord.Request) : Effect :=
  match machine.store.get? id with
  | some (.eventFlag monitor) =>
      let (next, reply) := attempt.make Sync.FlagWord.pass .word monitor request
      { machine := machine.putObject id (.eventFlag next), reply }
  | _ => { machine, reply := .unknown }

/-- What is reported of a request to a queue. -/
def queueEvents (queue : Sync.Queue Value) : Sync.Queue.Request Value → List LogEvent
  | .reset => [.queueReset queue.count]
  | _ => []

def callQueue (machine : Machine) (attempt : Attempt) (id : ObjectId) (call : QueueCall) :
    Effect :=
  match machine.store.get? id with
  | some (.queue type monitor) =>
      match call with
      | .size => { machine, reply := .queueSize monitor.object.capacity type.size }
      | .counts =>
          { machine, reply := .queueCounts monitor.object.count monitor.object.space }
      | .request request =>
          let (next, reply) :=
            attempt.make Sync.Queue.pass Object.queueReply monitor request
          { machine := machine.putObject id (.queue type next), reply
            events := queueEvents monitor.object request }
  | _ => { machine, reply := .unknown }

/-- A call about the interrupt context of an actor. -/
def callInterrupt (machine : Machine) (label : Label) (call : InterruptCall) : Effect :=
  match call with
  | .enter =>
      let entered := machine.enterInterrupt label
      { machine := entered, reply := .number (entered.nesting label) }
  | .leave =>
      let left := machine.leaveInterrupt label
      { machine := left, reply := .number (left.nesting label) }
  | .status => { machine, reply := .interruptStatus (machine.nesting label) machine.entries }

/-- What a call does to the object under a label. -/
def onObject (machine : Machine) (label : Label) (perform : ObjectId → Effect) : Effect :=
  match machine.store.idOf? label with
  | none => { machine, reply := .unknown }
  | some id => perform id

/-- A call that is not refused. -/
def perform (machine : Machine) (attempt : Attempt) (call : Call) : Effect :=
  match call with
  | .create object creation => machine.createObject object creation
  | .discard object => machine.discardObject object
  | .mutex object call => machine.onObject object (machine.callMutex attempt · call)
  | .unlock => machine.dropGuard attempt.actor
  | .semaphore object call => machine.onObject object (machine.callSemaphore attempt · call)
  | .eventFlag object request =>
      machine.onObject object (machine.callEventFlag attempt · request)
  | .queue object call => machine.onObject object (machine.callQueue attempt · call)
  | .registry object call =>
      machine.onObject object (machine.callRegistry attempt object · call)
  | .kernel object call => machine.onObject object (machine.callKernel object · call)
  | .delay _ => { machine, reply := .advanced }
  | .interrupt call => machine.callInterrupt attempt.actor call
  | .thread call => machine.callThread attempt call
  | .awaitReport => machine.awaitReport

/-- The reply with which a call of an actor is refused, if it is. -/
def refusal? (machine : Machine) (label : Label) (call : Call) : Option Reply :=
  if machine.isInterrupted label then call.refusal? else none

def Call.object? : Call → Option Label
  | mutex object _ => some object
  | semaphore object _ => some object
  | eventFlag object _ => some object
  | queue object _ => some object
  | registry object _ => some object
  | _ => none

/-- Whether a call locks a mutex. -/
def Call.locks : Call → Bool
  | mutex _ (.lock _) => true
  | _ => false

/-- The label of the thread whose end a call waits for. -/
def Call.awaited? : Call → Option Label
  | thread (.join label) => some label
  | _ => none

/-- What a call uses until it has ended. -/
def errandOf (machine : Machine) (call : Call) : Errand :=
  { object := call.object?.bind machine.store.idOf?
    locks := call.locks
    awaited := call.awaited?.bind machine.joinable.get? }

/-- The guards that a call has left behind once it has its reply. -/
def Errand.guards (errand : Errand) : Reply → List ObjectId
  | .done => if errand.locks then errand.object.toList else []
  | _ => []

/--
The machine once an actor has the reply to a call of its own, and what the actor is told;
if the call was the last that has used its object, the object ends.
-/
def conclude (machine : Machine) (label : Label) (errand : Errand) (reply : Reply) :
    Machine × Reply :=
  match reply with
  | .blocked =>
      (machine.modifyActor label fun actor => { actor with waiting := some errand }, reply)
  | _ =>
      let next := machine.modifyActor label fun actor =>
        { actor with waiting := none, guards := errand.guards reply ++ actor.guards }
      (next, reply.afterFault (errand.object.bind next.endFault?))

def call (machine : Machine) (attempt : Attempt) (call : Call) : Effect :=
  match machine.refusal? attempt.actor call with
  | some reply => { machine, reply }
  | none =>
      let effect := machine.perform attempt call
      let (next, reply) :=
        effect.machine.conclude attempt.actor (machine.errandOf call) effect.reply
      { effect with machine := next, reply }

/-- A call of an actor, made in an interrupt of its own. -/
def callInInterrupt (machine : Machine) (attempt : Attempt) (call : Call) : Effect :=
  let effect := (machine.enterInterrupt attempt.actor).call attempt call
  { effect with machine := effect.machine.leaveInterrupt attempt.actor }

end Machine

end Rtos
