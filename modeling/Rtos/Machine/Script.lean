import Rtos.Machine.Rest

/-!
# Scripts

A script is a sequence of steps, each a call of one actor, between which the machine
comes to rest. Every step is answered by a line that tells the reply to its call, the
replies to the calls that it has woken, what can be seen of its object, and the log. A
fault ends the script.
-/

namespace Rtos

namespace Machine

structure Step where
  actor : Label
  call : Call
  /-- Whether the call may wait longer than the step. -/
  patient : Bool := false
  /-- Whether the call is made in an interrupt of its own. -/
  interrupt : Bool := false
  /-- The object that is looked at afterwards. -/
  object : Option Label := none
  /-- The record whose holders are looked at afterwards. -/
  record : Option Bytes := none
  deriving DecidableEq

/-- What can be seen of an object after a step. -/
structure Sight where
  view : Object.View
  /-- The holders of the record that is looked at, if one is. -/
  holders : Option (Option Nat)
  deriving DecidableEq

structure Line where
  reply : Reply
  woken : Labelled Reply
  sight : Option Sight
  /-- The lines of the log, in order of their characters. -/
  log : List String
  deriving DecidableEq

def Line.isFatal (line : Line) : Bool :=
  line.reply.fault?.isSome || line.woken.any (·.2.fault?.isSome)

/-- What can be seen of an object, and of one of its records. -/
def sight? (machine : Machine) (object : Label) (record : Option Bytes) : Option Sight :=
  (machine.store.named? object).map fun stored =>
    { view := stored.view
      holders := match record, stored.registryOf? with
        | some name, some registry => some (registry.holders? name)
        | _, _ => none }

/-- Whether an event stands in the log of a line; how often an open reports is up to time. -/
def isTimeless : LogEvent → Bool
  | .stillWaiting _ _ => false
  | _ => true

/-- The lines of some events in order. -/
def logLines (events : List LogEvent) : List String :=
  ((events.filter isTimeless).map (·.line)).mergeSort fun first second =>
    decide (first ≤ second)

/-- The machine after a step, and the line that answers it. -/
def runStep (machine : Machine) (step : Step) : Machine × Line :=
  let attempt : Attempt := ⟨step.actor, step.patient⟩
  let effect :=
    if step.interrupt then machine.callInInterrupt attempt step.call
    else machine.call attempt step.call
  let (rested, woken, events) := effect.machine.settle
  let faults := (effect.reply :: woken.map (·.2)).filterMap (·.fault?)
  (rested,
    { reply := effect.reply
      woken
      sight := step.object.bind fun object => rested.sight? object step.record
      log := logLines (effect.events ++ events ++ faults.filterMap LogEvent.ofFault?) })

/-- The lines of a script, up to the first that tells of a fault. -/
def run (machine : Machine) : List Step → List Line
  | [] => []
  | step :: steps =>
      let (next, line) := machine.runStep step
      if line.isFatal then [line] else line :: next.run steps

/-- The lines of a script that begins with an untouched machine. -/
def runScript (steps : List Step) : List Line :=
  initial.run steps

end Machine

end Rtos
