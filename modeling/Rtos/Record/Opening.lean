import Rtos.Record.Slot

/-!
# Opening records

An open takes a hold on its record and then goes on by itself, one step after another:
it looks at the flag of the record and parks until the flag is raised, and once it has
seen the flag raised it fetches the data under the lock of the registry. An open with a
limit gives its hold back when the limit has run out. An open without one reports that
it still waits and looks again.

What happens to a slot is a sequence of events, and nothing decides their order.
-/

namespace Rtos

namespace Record

namespace Opening

variable {Party : Type}

/-- How long an open waits before it gives up or reports. -/
def timeout (interval : Duration) (opening : Opening Party) : Timeout :=
  match opening.patience with
  | .unlimited => .within interval
  | .limited timeout => timeout

/-- What an open reports once it has seen the flag raised; one with a limit is silent. -/
def successEvents (name : Bytes) (opening : Opening Party) : List LogEvent :=
  match opening.patience with
  | .unlimited => [.opened name]
  | .limited _ => []

end Opening

namespace Slot

variable {Party : Type} [DecidableEq Party]

def opening? (slot : Slot Party) (party : Party) : Option (Opening Party) :=
  slot.openings.find? (·.party = party)

/-- The slot with the open of a party at another stage. -/
def moveTo (slot : Slot Party) (party : Party) (stage : Stage) : Slot Party :=
  { slot with
    openings := slot.openings.map fun opening =>
      if opening.party = party then { opening with stage } else opening }

/-- The slot without the open of a party. -/
def leave (slot : Slot Party) (party : Party) : Slot Party :=
  { slot with openings := slot.openings.filter (·.party ≠ party) }

/--
An open looks at its flag. If the flag is not raised, the open parks, unless it must not
wait or its time has run out.
-/
def look (slot : Slot Party) (name : Bytes) (interval : Duration)
    (opening : Opening Party) (expired : Bool) : Reaction Party :=
  if slot.isRaised opening.flag then
    { slot := slot.moveTo opening.party .ready, answer := .pending }
  else if (opening.timeout interval).isPoll || expired then
    match opening.patience with
    | .unlimited =>
        { slot := slot.moveTo opening.party .looking
          answer := .pending
          events := [.stillWaiting name interval] }
    | .limited timeout =>
        { slot := slot.moveTo opening.party (.failed timeout.expiredError)
          answer := .pending }
  else { slot := slot.moveTo opening.party .parked, answer := .pending }

def fetch (slot : Slot Party) (name : Bytes) (wanted : ValueType) : Except Fault Value :=
  match slot.record.bind (·.data) with
  | none => .error (.vanished name)
  | some data =>
      if data.type = wanted then .ok data.value else .error (.wrongType name wanted)

/-- An open that has seen the flag raised ends; it keeps its hold. -/
def conclude (slot : Slot Party) (name : Bytes) (opening : Opening Party) : Reaction Party :=
  { slot := slot.leave opening.party
    answer :=
      match slot.fetch name opening.wanted with
      | .ok value => .opened value
      | .error fault => .broken fault
    events := opening.successEvents name }

/-- An open that has given up ends and gives its hold back. -/
def withdraw (slot : Slot Party) (name : Bytes) (opening : Opening Party) (error : Error) :
    Reaction Party :=
  match slot.giveBack name with
  | .ok next => { slot := next.leave opening.party, answer := .failed error }
  | .error fault => { slot := slot.leave opening.party, answer := .broken fault }

/-- The open of a party takes its next step; one that is parked takes none. -/
def advance (slot : Slot Party) (name : Bytes) (interval : Duration) (party : Party) :
    Reaction Party :=
  match slot.opening? party with
  | none => { slot, answer := .pending }
  | some opening =>
      match opening.stage with
      | .looking => slot.look name interval opening false
      | .parked => { slot, answer := .pending }
      | .ready => slot.conclude name opening
      | .failed error => slot.withdraw name opening error

/-- The time of a parked open runs out, if it has a limit or an interval. -/
def expire (slot : Slot Party) (name : Bytes) (interval : Duration) (party : Party) :
    Reaction Party :=
  match slot.opening? party with
  | none => { slot, answer := .pending }
  | some opening =>
      if opening.stage = .parked ∧ !(opening.timeout interval).isForever then
        slot.look name interval opening true
      else { slot, answer := .pending }

inductive Event (Party : Type) where
  /-- Data is published. -/
  | publish (data : Data)
  /-- An open takes its hold. -/
  | hold (party : Party) (wanted : ValueType) (patience : Patience)
  /-- The open of a party takes its next step. -/
  | advance (party : Party)
  /-- The time of the open of a party runs out. -/
  | expire (party : Party)
  /-- The record is closed. -/
  | close
  /-- Somebody tries to remove the record. -/
  | destroy
  deriving DecidableEq

/--
What an event does to the slot of a name. A party whose open is in progress begins no
other.
-/
def step (slot : Slot Party) (name : Bytes) (interval : Duration) :
    Event Party → Reaction Party
  | .publish data => slot.publish name data
  | .hold party wanted patience =>
      if (slot.opening? party).isSome then { slot, answer := .pending }
      else { slot := slot.hold party wanted patience, answer := .pending }
  | .advance party => slot.advance name interval party
  | .expire party => slot.expire name interval party
  | .close => slot.close name
  | .destroy => slot.destroy name

/--
The open of a party goes on until it has ended or waits. Two steps suffice: a look at
the flag, and what follows from it.
-/
def proceed (slot : Slot Party) (name : Bytes) (interval : Duration) (party : Party) :
    Reaction Party :=
  let first := slot.advance name interval party
  match first.answer with
  | .pending =>
      let second := first.slot.advance name interval party
      { second with events := first.events ++ second.events }
  | _ => first

/-- The opens of some parties go on; those that ended are listed with their answers. -/
def proceedAll (slot : Slot Party) (name : Bytes) (interval : Duration) :
    List Party → Slot Party × List (Party × Answer) × List LogEvent
  | [] => (slot, [], [])
  | party :: parties =>
      let reaction := slot.proceed name interval party
      let (rest, ended, events) := reaction.slot.proceedAll name interval parties
      match reaction.answer with
      | .pending => (rest, ended, reaction.events ++ events)
      | answer => (rest, (party, answer) :: ended, reaction.events ++ events)

/-- Every open of a slot goes on until it has ended or waits. -/
def settle (slot : Slot Party) (name : Bytes) (interval : Duration) :
    Slot Party × List (Party × Answer) × List LogEvent :=
  slot.proceedAll name interval (slot.openings.map (·.party))

end Slot

end Record

end Rtos
