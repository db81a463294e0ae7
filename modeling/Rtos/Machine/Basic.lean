import Rtos.Machine.Store

/-!
# Machines

A machine is a number of actors that share objects. An actor is a thread of the host; the
core may know it as one of its threads or not. It may be in interrupt context, holds the
guards of the mutexes that it has locked, and waits while a call of its own waits.

An object lives as long as it has a label, a guard or a call that has not ended. A mutex
that is held must not come to its end.
-/

namespace Rtos

namespace Machine

/-- What a call uses until it has ended. -/
structure Errand where
  object : Option ObjectId := none
  /-- Whether it leaves a guard of the object when it succeeds. -/
  locks : Bool := false
  /-- The thread whose end it waits for. -/
  awaited : Option ThreadId := none

structure Actor where
  /-- The name of its thread in the host. -/
  hostName : Option String
  nesting : Nat := 0
  /-- The mutexes of its guards, the newest first. -/
  guards : List ObjectId := []
  waiting : Option Errand := none

/-- Whether an actor has a guard of an object or waits for a call on it. -/
def Actor.uses (actor : Actor) (id : ObjectId) : Bool :=
  actor.guards.contains id || decide (actor.waiting.bind (·.object) = some id)

end Machine

/-- Actors, the threads the core knows, and the objects they share. -/
structure Machine where
  actors : Machine.Labelled Machine.Actor
  table : ThreadTable Machine.Label := {}
  handles : Machine.Labelled ThreadId := []
  /-- The threads started by the core whose ends nobody has waited for yet. -/
  joinable : Machine.Labelled ThreadId := []
  store : Machine.Store := {}
  entries : Nat := 0

namespace Machine

/-- The label of the actor that is there from the start. -/
def mainLabel : Label := "main"

/-- The machine before anything has happened. -/
def initial : Machine :=
  { actors := [(mainLabel, { hostName := some mainLabel })] }

/-- The machine with another state of an actor. -/
def putActor (machine : Machine) (label : Label) (actor : Actor) : Machine :=
  { machine with actors := machine.actors.put label actor }

def eraseActor (machine : Machine) (label : Label) : Machine :=
  { machine with actors := machine.actors.erase label }

/-- The machine with a change made to an actor, if there is one of this label. -/
def modifyActor (machine : Machine) (label : Label) (change : Actor → Actor) : Machine :=
  match machine.actors.get? label with
  | none => machine
  | some actor => machine.putActor label (change actor)

/-- The machine with another state of an object. -/
def putObject (machine : Machine) (id : ObjectId) (object : Object) : Machine :=
  { machine with store := machine.store.put id object }

def isUsed (machine : Machine) (id : ObjectId) : Bool :=
  machine.store.isLabelled id || machine.actors.any fun (_, actor) => actor.uses id

/-- The fault of the end of an object, if it has come to its end and must not. -/
def endFault? (machine : Machine) (id : ObjectId) : Option Fault :=
  if machine.isUsed id then none else (machine.store.get? id).bind (·.discardFault?)

/-- The machine without a label, and the fault of the end of the object that had it. -/
def forget (machine : Machine) (label : Label) : Machine × Option Fault :=
  let next := { machine with store := machine.store.forget label }
  (next, (machine.store.idOf? label).bind next.endFault?)

def putTable (machine : Machine) (table : ThreadTable Label) : Machine :=
  { machine with table }

def mutex? (machine : Machine) (id : ObjectId) : Option MutexMonitor :=
  match machine.store.get? id with
  | some (.mutex monitor) => some monitor
  | _ => none

/-- The registry of a number, which may be that of a kernel. -/
def registryOf? (machine : Machine) (id : ObjectId) : Option (Registry Label) :=
  (machine.store.get? id).bind (·.registryOf?)

/-- The machine with another registry of a number. -/
def putRegistry (machine : Machine) (id : ObjectId) (registry : Registry Label) : Machine :=
  match machine.store.get? id with
  | none => machine
  | some object => machine.putObject id (object.putRegistry registry)

def handle? (machine : Machine) (label : Label) : Option (Thread Label) :=
  (machine.handles.get? label).bind machine.table.get?

/-- The machine with a thread remembered under a label. -/
def remember (machine : Machine) (label : Label) (thread : ThreadId) : Machine :=
  { machine with handles := machine.handles.put label thread }

def isInterrupted (machine : Machine) (label : Label) : Bool :=
  match machine.actors.get? label with
  | none => false
  | some actor => 0 < actor.nesting

def enterInterrupt (machine : Machine) (label : Label) : Machine :=
  { machine.modifyActor label fun actor => { actor with nesting := actor.nesting + 1 } with
    entries := machine.entries + 1 }

def leaveInterrupt (machine : Machine) (label : Label) : Machine :=
  machine.modifyActor label fun actor => { actor with nesting := actor.nesting - 1 }

/-- The depth of interrupts that an actor is in. -/
def nesting (machine : Machine) (label : Label) : Nat :=
  match machine.actors.get? label with
  | none => 0
  | some actor => actor.nesting

/-- The thread that an actor calls as, which is registered if it is not known yet. -/
def current (machine : Machine) (label : Label) : Machine × ThreadId × List LogEvent :=
  let name := (machine.actors.get? label).bind (·.hostName)
  let (table, id, events) := machine.table.current label name
  (machine.putTable table, id, events)

/-- The machine after a call, its reply, and what was reported. -/
structure Effect where
  machine : Machine
  reply : Reply
  events : List LogEvent := []

/-- The reply to a call at whose end a fault may have arisen. -/
def Reply.afterFault (reply : Reply) : Option Fault → Reply
  | none => reply
  | some fault => .broken fault

end Machine

end Rtos
