import Rtos.Record.Directory
import Rtos.Record.Opening

/-!
# The record registry

A registry lets the parts of an application find each other by name: it has a slot for
every name. Whatever happens to a registry happens to the slot of one name, so names do
not get in each other's way.
-/

namespace Rtos

/-- Slots under names. -/
structure Registry (Party : Type) where
  slots : Record.Directory (Record.Slot Party) := .empty
  /-- How long an open without a limit waits between two reports. -/
  interval : Duration

namespace Registry

variable {Party : Type} [DecidableEq Party]

def slot (registry : Registry Party) (name : Bytes) : Record.Slot Party :=
  (registry.slots.get? name).getD {}

/-- The registry with another slot for a name. -/
def put (registry : Registry Party) (name : Bytes) (slot : Record.Slot Party) :
    Registry Party :=
  { registry with slots := registry.slots.put name slot }

omit [DecidableEq Party] in
@[simp]
theorem slot_put (registry : Registry Party) (name wanted : Bytes)
    (slot : Record.Slot Party) :
    (registry.put name slot).slot wanted =
      if wanted = name then slot else registry.slot wanted := by
  simp only [Registry.slot, put, Record.Directory.get?_put]
  split <;> rfl

def records (registry : Registry Party) : List (Bytes × Record) :=
  registry.slots.listing.filterMap fun (name, slot) =>
    slot.record.map fun record => (name, record)

def size (registry : Registry Party) : Nat :=
  registry.records.length

/-- Whether there is a record of a name. -/
def contains (registry : Registry Party) (name : Bytes) : Bool :=
  (registry.slot name).record.isSome

/-- The number of holders of the record of a name, if there is one. -/
def holders? (registry : Registry Party) (name : Bytes) : Option Nat :=
  (registry.slot name).record.map (·.holders)

/-- The registry after a step, the answer, and what was reported. -/
structure Reaction (Party : Type) where
  registry : Registry Party
  answer : Record.Slot.Answer
  events : List LogEvent := []

/-- The registry's part in what has happened to the slot of a name. -/
def react (registry : Registry Party) (name : Bytes) (reaction : Record.Slot.Reaction Party) :
    Reaction Party :=
  { registry := registry.put name reaction.slot
    answer := reaction.answer
    events := reaction.events }

/-- What an event does that happens to the slot of a name. -/
def step (registry : Registry Party) (name : Bytes) (event : Record.Slot.Event Party) :
    Reaction Party :=
  registry.react name ((registry.slot name).step name registry.interval event)

/-- The open of a party goes on until it has ended or waits. -/
def proceed (registry : Registry Party) (name : Bytes) (party : Party) : Reaction Party :=
  registry.react name ((registry.slot name).proceed name registry.interval party)

/-- Some slots at rest, the answers to the opens that ended, and what was reported. -/
def settleNames (registry : Registry Party) :
    List Bytes → Registry Party × List (Party × Record.Slot.Answer) × List LogEvent
  | [] => (registry, [], [])
  | name :: names =>
      let (slot, ended, events) := (registry.slot name).settle name registry.interval
      let (rest, others, reports) := (registry.put name slot).settleNames names
      (rest, ended ++ others, events ++ reports)

/-- The names of the slots at which opens are in progress. -/
def busyNames (registry : Registry Party) : List Bytes :=
  registry.slots.listing.filterMap fun (name, slot) =>
    if slot.openings.isEmpty then none else some name

/-- The registry at rest: every open goes on until it has ended or waits. -/
def settle (registry : Registry Party) :
    Registry Party × List (Party × Record.Slot.Answer) × List LogEvent :=
  registry.settleNames registry.busyNames

/--
The end of a registry. Records that are still held are reported and make it an error,
but do not keep the registry alive.
-/
def teardown (registry : Registry Party) : Except Error Unit × List LogEvent :=
  let held := registry.records.filter fun entry => 0 < entry.2.holders
  if held.isEmpty then (.ok (), [.released registry.size])
  else
    (.error .inUse, held.map fun entry => .heldAtTeardown entry.1 entry.2.holders)

end Registry

end Rtos
