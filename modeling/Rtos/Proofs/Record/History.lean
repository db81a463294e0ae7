import Mathlib.Data.List.DropRight
import Rtos.Record.Registry

/-!
# Histories of names

What the calls on a name have come to so far, told only from the events and their
answers: who has taken a hold, whose open has returned, failed or ended in a fault, what
was closed, published and removed. A history says nothing of the slot itself, so that the
slot can be checked against it.

A registry is reached with the histories of its names from the empty one, by events on
any names in any order. The one thing asked of the callers is that a close is for an open
that has returned and was not closed before. Closes do not say which open they are for,
so that there has to be one is a matter of counting.
-/

namespace Rtos

namespace Record

/-- What an event came to. -/
inductive Note (Party : Type) where
  /-- The open of a party has taken its hold. -/
  | took (party : Party)
  /-- The open of a party has returned a value. -/
  | returned (party : Party) (value : Value)
  /-- The open of a party has failed and given its hold back. -/
  | gaveBack (party : Party) (error : Error)
  /-- The open of a party has ended in a fault, with its hold. -/
  | aborted (party : Party) (fault : Fault)
  | closed
  | published (data : Data)
  | removed
  deriving DecidableEq

namespace Note

variable {Party : Type}

@[simp]
def isTook : Note Party → Bool
  | took _ => true
  | _ => false

@[simp]
def isReturned : Note Party → Bool
  | returned _ _ => true
  | _ => false

@[simp]
def isGaveBack : Note Party → Bool
  | gaveBack _ _ => true
  | _ => false

@[simp]
def isAborted : Note Party → Bool
  | aborted _ _ => true
  | _ => false

@[simp]
def isClosed : Note Party → Bool
  | closed => true
  | _ => false

@[simp]
def isRemoved : Note Party → Bool
  | removed => true
  | _ => false

@[simp]
def published? : Note Party → Option Data
  | published data => some data
  | _ => none

end Note

/-- What has happened under a name, the oldest first. -/
abbrev History (Party : Type) := List (Note Party)

namespace History

variable {Party : Type}

/-- What has happened since the last record of the name was removed. -/
def lifetime (history : History Party) : History Party :=
  history.rtakeWhile (!·.isRemoved)

/-- What was published since then. -/
def published (history : History Party) : List Data :=
  history.lifetime.filterMap Note.published?

/-- The history with what an event came to, if that is of note. -/
def after (history : History Party) (note? : Option (Note Party)) : History Party :=
  history ++ note?.toList

@[simp]
theorem after_none (history : History Party) : history.after none = history := by
  simp [after]

@[simp]
theorem countP_after (history : History Party) (note : Note Party) (kind : Note Party → Bool) :
    (history.after (some note)).countP kind =
      history.countP kind + if kind note then 1 else 0 := by
  simp [after, List.countP_append, List.countP_singleton]

@[simp]
theorem lifetime_after (history : History Party) (note : Note Party) :
    (history.after (some note)).lifetime =
      if note.isRemoved then [] else history.lifetime ++ [note] := by
  cases note <;> simp [after, lifetime]

@[simp]
theorem published_after (history : History Party) (note : Note Party) :
    (history.after (some note)).published =
      if note.isRemoved then [] else history.published ++ note.published?.toList := by
  unfold published
  cases note <;> simp

/-- A close needs an open that has returned and was not closed yet. -/
def Permits (history : History Party) (event : Slot.Event Party) : Prop :=
  event = .close → history.countP Note.isClosed < history.countP Note.isReturned

end History

namespace Slot

variable {Party : Type} [DecidableEq Party]

/-- What an event came to with an answer, if that is of note. -/
def note? (slot : Slot Party) : Event Party → Answer → Option (Note Party)
  | .publish data, .done => some (.published data)
  | .hold party _ _, _ => if (slot.opening? party).isSome then none else some (.took party)
  | .advance party, .opened value => some (.returned party value)
  | .advance party, .failed error => some (.gaveBack party error)
  | .advance party, .broken fault => some (.aborted party fault)
  | .close, .done => some .closed
  | .destroy, .removed true => some .removed
  | _, _ => none

end Slot

end Record

namespace Registry

variable {Party : Type} [DecidableEq Party]

@[simp]
theorem slot_step (registry : Registry Party) (name wanted : Bytes)
    (event : Record.Slot.Event Party) :
    (registry.step name event).registry.slot wanted =
      if wanted = name then ((registry.slot name).step name registry.interval event).slot
      else registry.slot wanted :=
  registry.slot_put name wanted _

@[simp]
theorem answer_step (registry : Registry Party) (name : Bytes)
    (event : Record.Slot.Event Party) :
    (registry.step name event).answer =
      ((registry.slot name).step name registry.interval event).answer := rfl

/-- What an event on a name came to, if that is of note. -/
def note? (registry : Registry Party) (name : Bytes) (event : Record.Slot.Event Party) :
    Option (Record.Note Party) :=
  (registry.slot name).note? event (registry.step name event).answer

/-- The registries that events can lead to, with the histories of all names. -/
inductive Reached : Registry Party → (Bytes → Record.History Party) → Prop where
  | start (interval : Duration) : Reached { interval } fun _ => []
  | step {registry : Registry Party} {histories : Bytes → Record.History Party}
      (reached : Reached registry histories) (name : Bytes) (event : Record.Slot.Event Party)
      (permitted : (histories name).Permits event) :
      Reached (registry.step name event).registry
        (Function.update histories name
          ((histories name).after (registry.note? name event)))

end Registry

end Rtos
