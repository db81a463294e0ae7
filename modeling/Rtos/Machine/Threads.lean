import Rtos.Machine.Guard

/-!
# Calls on threads

Threads are started by the core or by the host, looked up, signalled and waited for. A
thread that ends first drops its guards, in the interrupt context that it is in, then
leaves its interrupts, and last is no longer known to the core. Who has a handle of the
thread can still look at it; who has started it through the core can wait for its end.
-/

namespace Rtos

namespace Machine

def reportOf (thread : Thread Label) : ThreadReport :=
  { id := thread.id, name := thread.name, state := thread.state
    description := thread.description }

def Reply.ofThread (thread : Thread Label) : Reply :=
  .thread (some (reportOf thread))

/-- The host has no room for a stack of so many bytes. -/
def stackLimit : Nat := Nat.pow 2 60

/-- The stack size of a thread to be started, if it is not the host's default. -/
def stackSize? (machine : Machine) (stack : Option Nat) (kernel : Option Label) : Option Nat :=
  match stack, kernel.bind machine.store.named? with
  | some size, _ => some size
  | none, some (.kernel context) => some context.config.stackSize
  | none, _ => none

/-- The machine with a new actor, whose thread the core has started. -/
def addThread (machine : Machine) (label : Label) (id : ThreadId) (name : Option String) :
    Machine :=
  let remembering := (machine.putActor label { hostName := name }).remember label id
  { remembering with joinable := remembering.joinable.put label id }

/--
Starts a thread through the core. The host takes a name as a C string, which cannot hold
a NUL.
-/
def startThread (machine : Machine) (label : Label) (name : Option String)
    (stack : Option Nat) : Effect :=
  match name.filter (·.contains '\x00') with
  | some broken =>
      { machine := machine.putTable (machine.table.register name .starting).1
        reply := .broken (.nulInThreadName broken) }
  | none =>
      if stackLimit ≤ stack.getD 0 then
        let (table, events) := machine.table.failToStart name
        { machine := machine.putTable table, reply := .failed .outOfMemory, events }
      else
        let (table, id, events) := machine.table.start label name
        { machine := (machine.putTable table).addThread label id name
          reply := .started id name
          events }

/-- The caller's own thread. -/
def currentThread (machine : Machine) (label : Label) (remembered : Option Label) : Effect :=
  let (known, id, events) := machine.current label
  let machine := match remembered with
    | none => known
    | some handle => known.remember handle id
  { machine
    reply := match known.table.get? id with
      | none => .unknown
      | some thread => .ofThread thread
    events }

/-- A call on the flags of a thread. -/
def callFlags (machine : Machine) (attempt : Attempt) (id : ThreadId)
    (request : Sync.FlagWord.Request) : Effect :=
  match machine.table.get? id with
  | none => { machine, reply := .failed .invalidParameter }
  | some thread =>
      let (flags, reply) := attempt.make Sync.FlagWord.pass .word thread.flags request
      { machine := machine.putTable (machine.table.putFlags id flags), reply }

/-- Sets flags of a thread; by its number only if it runs. -/
def setFlags (machine : Machine) (attempt : Attempt) (id : ThreadId) (address : Address)
    (mask : UInt32) : Effect :=
  match address, machine.table.find? id with
  | .number, none => { machine, reply := .failed .invalidParameter }
  | _, _ => machine.callFlags attempt id (.set mask)

/-- How a thread has ended that would have ended otherwise but for a fault. -/
def endingAfter (ending : ThreadEnding) : Option Fault → ThreadEnding
  | none => ending
  | some fault => .panicked fault.message

/--
The thread of an actor ends, and the actor is no more. A fault that arises on the way is
reported, but it stops nothing except the thread that is about to end anyway.
-/
def exitThread (machine : Machine) (label : Label) (ending : ThreadEnding) : Effect :=
  let dropped := machine.dropGuards label (machine.guardCount label)
  let fault := dropped.reply.fault?
  let (table, events) := dropped.machine.table.exit label (endingAfter ending fault)
  { machine := (dropped.machine.putTable table).eraseActor label
    reply := .exited
    events := dropped.events ++ (fault.bind LogEvent.ofFault?).toList ++ events }

/-- How a thread has ended, if it has. -/
def ending? (machine : Machine) (id : ThreadId) : Option ThreadEnding :=
  (machine.table.get? id).bind (·.ending)

/-- Waits for the end of a thread, which can be done once. -/
def joinThread (machine : Machine) (label : Label) : Effect :=
  match machine.joinable.get? label with
  | none => { machine, reply := .unknown }
  | some id =>
      { machine := { machine with joinable := machine.joinable.erase label }
        reply := match machine.ending? id with
          | some ending => .ended ending
          | none => .blocked }

def callThread (machine : Machine) (attempt : Attempt) (call : ThreadCall) : Effect :=
  match call with
  | .current remembered => machine.currentThread attempt.actor remembered
  | .recall label =>
      match machine.handle? label with
      | none => { machine, reply := .unknown }
      | some thread => { machine, reply := .ofThread thread }
  | .find label =>
      match machine.handles.get? label with
      | none => { machine, reply := .unknown }
      | some id => { machine, reply := .thread ((machine.table.find? id).map reportOf) }
  | .setFlags label address mask =>
      match machine.handles.get? label with
      | none => { machine, reply := .unknown }
      | some id => machine.setFlags attempt id address mask
  | .ownFlags request =>
      let (known, id, events) := machine.current attempt.actor
      let effect := known.callFlags attempt id request
      { effect with events := events ++ effect.events }
  | .start label name stack kernel =>
      machine.startThread label name (machine.stackSize? stack kernel)
  | .startUnknown label name =>
      { machine := machine.putActor label { hostName := name }, reply := .done }
  | .giveWay => { machine, reply := .done }
  | .exit ending => machine.exitThread attempt.actor ending
  | .join label => machine.joinThread label

end Machine

end Rtos
