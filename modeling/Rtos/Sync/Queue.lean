import Rtos.Sync.Monitor

/-!
# Message queues

A first-in, first-out queue of bounded capacity. Putting waits for room and getting
waits for an item; a reset drops every item and makes room for all who wait for it.
-/

namespace Rtos

namespace Sync

/-- A queue of items, the oldest first. -/
structure Queue (Item : Type) where
  capacity : Nat
  items : List Item := []
  deriving DecidableEq

namespace Queue

variable {Item : Type}

/--
A new queue for items of a size. It sets room aside for all that it may hold. No capacity
is a fault, and so is one for which there can be no room.
-/
def create (Item : Type) (itemSize capacity : Nat) : Except Fault (Queue Item) :=
  if capacity = 0 then .error .zeroCapacity
  else if Bytes.roomLimit < capacity * itemSize then .error .capacityOverflow
  else .ok { capacity }

def count (queue : Queue Item) : Nat :=
  queue.items.length

/-- The number of items for which there is room. -/
def space (queue : Queue Item) : Nat :=
  queue.capacity - queue.count

inductive Request (Item : Type) where
  | put (item : Item) (timeout : Timeout)
  | get (timeout : Timeout)
  | reset
  deriving DecidableEq

/-- What a call on a queue waits for. -/
inductive Condition where
  | notEmpty
  | notFull
  deriving DecidableEq

inductive Result (Item : Type) where
  | stored
  | item (item : Item)
  /-- The queue was emptied of so many items. -/
  | dropped (count : Nat)
  deriving DecidableEq

/-- What a call does while it holds the lock. -/
def pass (queue : Queue Item) : Request Item → Pass (Queue Item) Condition (Result Item)
  | .put item timeout =>
      if queue.count < queue.capacity then
        .finish (.ok .stored) { queue with items := queue.items ++ [item] } [.one .notEmpty]
      else .wait .notFull timeout
  | .get timeout =>
      match queue.items with
      | item :: rest => .finish (.ok (.item item)) { queue with items := rest } [.one .notFull]
      | [] => .wait .notEmpty timeout
  | .reset =>
      .finish (.ok (.dropped queue.count)) { queue with items := [] } [.all .notFull]

/-- Why a call is refused in interrupt context: only polls are allowed there. -/
def Request.refusal? : Request Item → Option Error
  | put _ timeout => if timeout.isPoll then none else some .invalidInInterrupt
  | get timeout => if timeout.isPoll then none else some .invalidInInterrupt
  | reset => some .invalidInInterrupt

end Queue

end Sync

end Rtos
