import Rtos.Log
import Rtos.Sync.FlagWord

/-!
# Record slots

The slot of a name holds the record that has this name, if there is one. A record is made
by whoever names it first, is pending until its data is published, and is ready from then
on. Those who open it hold it until they close it, and a record that is held is not
removed.

Whether a record is ready is told by a flag of its own. The slot keeps the flags of all
records that it has ever held: an open keeps to the flag it found, also if its record is
removed and the slot used again.

Each operation of this module is one step under the lock of the registry. An open takes
several steps; the module on openings has those that follow the first.
-/

namespace Rtos

namespace Record

/-- The data of a record: a value and the type it was published as. -/
structure Data where
  type : ValueType
  value : Value
  deriving DecidableEq

inductive Patience where
  /-- It waits until the record is ready and reports every interval that passes. -/
  | unlimited
  /-- It gives up once the timeout has run out. -/
  | limited (timeout : Timeout)
  deriving DecidableEq

/-- How far an open has come. -/
inductive Stage where
  /-- It is about to look at the flag. -/
  | looking
  /-- It waits for the flag. -/
  | parked
  /-- It has seen the flag raised. -/
  | ready
  /-- It has given up and still holds the record. -/
  | failed (error : Error)
  deriving DecidableEq

/-- An open that holds its record and has not ended. -/
structure Opening (Party : Type) where
  party : Party
  /-- The type that it opens the record as. -/
  wanted : ValueType
  /-- The number of the flag that it found. -/
  flag : Nat
  patience : Patience
  stage : Stage := .looking
  deriving DecidableEq

/-- An open after the flag of a number was raised: if it waits for that flag, it is woken. -/
def Opening.wakeFor {Party : Type} (number : Nat) (opening : Opening Party) : Opening Party :=
  if opening.stage = .parked ∧ opening.flag = number then { opening with stage := .looking }
  else opening

end Record

/-- A record; it is pending until it has data. -/
structure Record where
  /-- The number of the flag that tells whether the record is ready. -/
  flag : Nat
  data : Option Record.Data := none
  holders : Nat := 0
  deriving DecidableEq

namespace Record

/-- The place of a name: its record, and the flags and opens of its records so far. -/
structure Slot (Party : Type) where
  record : Option Record := none
  /-- The flags of all records so far, by number. -/
  flags : List Sync.FlagWord := []
  openings : List (Opening Party) := []
  deriving DecidableEq

namespace Slot

variable {Party : Type}

/-- What a call on a record answers. -/
inductive Answer where
  /-- The call has done what it was made for. -/
  | done
  /-- Whether the record was removed. -/
  | removed (decision : Bool)
  /-- The data of the record that was opened. -/
  | opened (value : Value)
  /-- The open goes on. -/
  | pending
  /-- The open has failed. -/
  | failed (error : Error)
  /-- The call was a mistake of the program. -/
  | broken (fault : Fault)
  deriving DecidableEq

/-- The slot after a step, the answer, and what was reported. -/
structure Reaction (Party : Type) where
  slot : Slot Party
  answer : Answer
  events : List LogEvent := []

/-- The bit of a flag that says that the record is ready. -/
def readyBit : UInt32 := 1

def flag (slot : Slot Party) (number : Nat) : Sync.FlagWord :=
  slot.flags[number]?.getD .event

/-- Whether the flag of a number is raised. -/
def isRaised (slot : Slot Party) (number : Nat) : Bool :=
  Sync.WaitMode.any.isSatisfied (slot.flag number).bits readyBit

def put (slot : Slot Party) (record : Record) : Slot Party :=
  { slot with record := some record }

/-- The record of a slot, which is made pending if there is none. -/
def ensure (slot : Slot Party) : Slot Party × Record :=
  match slot.record with
  | some record => (slot, record)
  | none =>
      let record : Record := { flag := slot.flags.length }
      ({ slot with record := some record, flags := slot.flags ++ [Sync.FlagWord.event] }, record)

/-- A flag word with the bit set that says that the record is ready. -/
def raised (word : Sync.FlagWord) : Sync.FlagWord :=
  { word with bits := word.bits ||| readyBit }

/-- The slot with a flag raised and every open woken that waits for it. -/
def raise (slot : Slot Party) (number : Nat) : Slot Party :=
  { slot with
    flags := slot.flags.modify number raised
    openings := slot.openings.map (Opening.wakeFor number) }

/-- Publishes data under the name of the slot. -/
def publish (slot : Slot Party) (name : Bytes) (data : Data) : Reaction Party :=
  let (made, record) := slot.ensure
  match record.data with
  | some _ => { slot := made, answer := .broken (.publishedTwice name record.holders) }
  | none =>
      { slot := (made.put { record with data := some data }).raise record.flag
        answer := .done
        events := [.created name record.holders] }

/-- Takes the hold with which an open begins. -/
def hold (slot : Slot Party) (party : Party) (wanted : ValueType) (patience : Patience) :
    Slot Party :=
  let (made, record) := slot.ensure
  let opening : Opening Party := { party, wanted, flag := record.flag, patience }
  { made.put { record with holders := record.holders + 1 } with
    openings := made.openings ++ [opening] }

/-- Gives a hold back; that nobody holds the record is a fault. -/
def giveBack (slot : Slot Party) (name : Bytes) : Except Fault (Slot Party) :=
  match slot.record with
  | none => .error (.closedTooOften name)
  | some record =>
      if record.holders = 0 then .error (.closedTooOften name)
      else .ok (slot.put { record with holders := record.holders - 1 })

def close (slot : Slot Party) (name : Bytes) : Reaction Party :=
  match slot.giveBack name with
  | .ok next => { slot := next, answer := .done, events := [.closed name] }
  | .error fault => { slot, answer := .broken fault }

/-- Removes the record, if there is one and nobody holds it. -/
def destroy (slot : Slot Party) (name : Bytes) : Reaction Party :=
  match slot.record with
  | none => { slot, answer := .removed false }
  | some record =>
      if record.holders = 0 then
        { slot := { slot with record := none }
          answer := .removed true
          events := [.destroyed name] }
      else { slot, answer := .removed false, events := [.destroyRefused name record.holders] }

end Slot

end Record

end Rtos
