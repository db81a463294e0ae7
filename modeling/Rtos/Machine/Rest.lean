import Rtos.Machine.Perform

/-!
# Coming to rest

After a call every actor that it has woken runs until it has its reply or waits again.
Nothing that a woken call does wakes a call at another object, so each object and each
thread comes to rest by itself.
-/

namespace Rtos

namespace Machine

/-- Some objects at rest, the replies of the calls that ended, and what was reported. -/
def settleObjects : List Object → List Object × Labelled Reply × List LogEvent
  | [] => ([], [], [])
  | object :: objects =>
      let (next, ended, events) := object.settle
      let (rest, others, reports) := settleObjects objects
      (next :: rest, ended ++ others, events ++ reports)

/-- Some threads at rest and the replies of the waits for their flags that ended. -/
def settleThreads : List (Thread Label) → List (Thread Label) × Labelled Reply
  | [] => ([], [])
  | thread :: threads =>
      let (flags, ended) := thread.flags.settle Sync.FlagWord.pass
      let (rest, others) := settleThreads threads
      ({ thread with flags } :: rest, Object.monitorReplies .word ended ++ others)

/-- The reply to an actor that waits for a thread that has ended. -/
def joinReply? (machine : Machine) (actor : Actor) : Option Reply :=
  ((actor.waiting.bind (·.awaited)).bind machine.ending?).map .ended

/-- The replies to the actors that wait for threads that have ended. -/
def joinReplies (machine : Machine) : Labelled Reply :=
  machine.actors.filterMap fun (label, actor) =>
    (machine.joinReply? actor).map fun reply => (label, reply)

/-- The machine once the call that an actor waits for has its reply, and what it is told. -/
def wake (machine : Machine) (label : Label) (reply : Reply) : Machine × Reply :=
  match (machine.actors.get? label).bind (·.waiting) with
  | none => (machine, reply)
  | some errand => machine.conclude label errand reply

/-- The machine once some calls have their replies, and what their actors are told. -/
def wakeAll (machine : Machine) : Labelled Reply → Machine × Labelled Reply
  | [] => (machine, [])
  | (label, reply) :: replies =>
      let (next, told) := machine.wake label reply
      let (rest, others) := next.wakeAll replies
      (rest, (label, told) :: others)

/-- The machine at rest, the replies of the calls that ended, and what was reported. -/
def settle (machine : Machine) : Machine × Labelled Reply × List LogEvent :=
  let (objects, ended, events) := settleObjects machine.store.objects
  let (threads, flagged) := settleThreads machine.table.threads
  let rested :=
    { machine with
      store := { machine.store with objects }
      table := { machine.table with threads } }
  let (next, replies) := rested.wakeAll (ended ++ flagged ++ machine.joinReplies)
  (next, replies, events)

end Machine

end Rtos
