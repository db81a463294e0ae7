import Rtos.Log
import Rtos.Sync.FlagWord
import Rtos.Text.Quoted

/-!
# The thread table

The threads known to the core. A thread that is started by the core is registered first and
begins to run afterwards; any other thread is registered by the first of its own calls that
has to know who calls. It has a flag word that anyone may set and that only the thread
itself clears and waits on.

Three things are kept of threads: a record of each, the numbers under which they are found,
and for each party the number of the thread that it calls as. A thread that has ended, or
could not be started, is not found by its number any more; but who remembers it can still
look at its record and set its flags. Numbers are counted up and never given twice.
-/

namespace Rtos

inductive ThreadState where
  /-- Registered, but its body has not begun. -/
  | starting
  | running
  | stopped
  deriving DecidableEq

def ThreadState.name : ThreadState → String
  | starting => "Starting"
  | running => "Running"
  | stopped => "Stopped"

inductive ThreadEnding where
  | returned (value : Int)
  | panicked (text : String)
  deriving DecidableEq

/-- The flag word of a thread and the calls that wait for it. -/
abbrev ThreadFlags (Party : Type) :=
  Sync.Monitor Party Sync.FlagWord Sync.FlagWord.Request Sync.FlagWord.Condition

structure Thread (Party : Type) where
  id : ThreadId
  name : Option String
  state : ThreadState
  /-- How it has ended, if it has run at all. -/
  ending : Option ThreadEnding := none
  flags : ThreadFlags Party := ⟨.thread, []⟩

namespace Thread

variable {Party : Type}

def nameText : Option String → String
  | none => "None"
  | some name => s!"Some({Text.quoted name})"

/-- The description of a thread in one line. -/
def description (thread : Thread Party) : String :=
  let fields := s!"id: ThreadId({thread.id.number}), name: {nameText thread.name}, " ++
    s!"state: {thread.state.name}"
  "Thread \x7b " ++ fields ++ " \x7d"

end Thread

structure ThreadTable (Party : Type) where
  /-- The number that is given next. -/
  next : Nat := 1
  /-- The records of all threads there ever were, in the order of their numbers. -/
  threads : List (Thread Party) := []
  /-- The numbers under which threads are found. -/
  known : List ThreadId := []
  /-- The threads as which parties call. -/
  slots : List (Party × ThreadId) := []

namespace ThreadTable

variable {Party : Type}

/-- The record of a thread, known or not. -/
def get? (table : ThreadTable Party) (id : ThreadId) : Option (Thread Party) :=
  table.threads.find? (·.id = id)

/-- The record of a thread that is found by its number. -/
def find? (table : ThreadTable Party) (id : ThreadId) : Option (Thread Party) :=
  if id ∈ table.known then table.get? id else none

/-- The table with one more thread, and its number. -/
def register (table : ThreadTable Party) (name : Option String) (state : ThreadState) :
    ThreadTable Party × ThreadId :=
  let id : ThreadId := ⟨table.next⟩
  ({ table with
      next := table.next + 1
      threads := table.threads ++ [{ id, name, state }]
      known := table.known ++ [id] }, id)

/-- The table with a change made to the record of a thread. -/
def modify (table : ThreadTable Party) (id : ThreadId)
    (change : Thread Party → Thread Party) : ThreadTable Party :=
  { table with threads := Sync.modifyFirst (·.id = id) change table.threads }

/-- The table with another state of a thread. -/
def putState (table : ThreadTable Party) (id : ThreadId) (state : ThreadState) :
    ThreadTable Party :=
  table.modify id fun thread => { thread with state }

/-- The table with other flags of a thread. -/
def putFlags (table : ThreadTable Party) (id : ThreadId) (flags : ThreadFlags Party) :
    ThreadTable Party :=
  table.modify id fun thread => { thread with flags }

/-- The table after a thread has ended or could not be started. -/
def unregister (table : ThreadTable Party) (id : ThreadId) : ThreadTable Party :=
  let stopped := table.putState id .stopped
  { stopped with known := stopped.known.filter (· ≠ id) }

/-- The table after a thread has ended that has run. -/
def finish (table : ThreadTable Party) (id : ThreadId) (ending : ThreadEnding) :
    ThreadTable Party :=
  (table.modify id fun thread => { thread with ending := some ending }).unregister id

variable [DecidableEq Party]

/-- The thread as which a party calls. -/
def slot? (table : ThreadTable Party) (party : Party) : Option ThreadId :=
  table.slots.lookup party

/-- The table with a thread as which a party calls, which has called as none. -/
def occupy (table : ThreadTable Party) (party : Party) (id : ThreadId) : ThreadTable Party :=
  { table with slots := (party, id) :: table.slots }

/-- The table without the thread as which a party has called. -/
def vacate (table : ThreadTable Party) (party : Party) : ThreadTable Party :=
  { table with slots := table.slots.filter (·.1 ≠ party) }

/-- The table once the body of a registered thread has begun, which a party runs. -/
def adopt (table : ThreadTable Party) (party : Party) (id : ThreadId) : ThreadTable Party :=
  (table.putState id .running).occupy party id

/--
The thread that a party calls as, which is registered if it is not known yet; the events
say so.
-/
def current (table : ThreadTable Party) (party : Party) (name : Option String) :
    ThreadTable Party × ThreadId × List LogEvent :=
  match table.slot? party with
  | some id => (table, id, [])
  | none =>
      let (next, id) := table.register name .running
      (next.occupy party id, id, [.adopted id])

/-- The table after a party has ended, with what was reported. -/
def exit (table : ThreadTable Party) (party : Party) (ending : ThreadEnding) :
    ThreadTable Party × List LogEvent :=
  match table.slot? party with
  | none => (table, [])
  | some id => ((table.finish id ending).vacate party, [.exited id])

/-- Starts a thread, which runs at once. -/
def start (table : ThreadTable Party) (party : Party) (name : Option String) :
    ThreadTable Party × ThreadId × List LogEvent :=
  let (next, id) := table.register name .starting
  (next.adopt party id, id, [.started id])

/-- Fails to start a thread, whose number is used up. -/
def failToStart (table : ThreadTable Party) (name : Option String) :
    ThreadTable Party × List LogEvent :=
  let (next, id) := table.register name .starting
  (next.unregister id, [.spawnFailed id])

end ThreadTable

end Rtos
