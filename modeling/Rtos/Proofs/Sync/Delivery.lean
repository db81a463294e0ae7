import Mathlib.Data.List.Forall2
import Rtos.Proofs.Sync.Calls
import Rtos.Proofs.Sync.Run

/-!
# Delivery by queues

Items leave a queue in the order in which their puts completed. The account is kept on the
calls that have finished: what they have put is what they have removed, followed by what
the queue holds. A call that waits has no part in it before it finishes, and then its place
is the one at which it finishes.
-/

namespace Rtos

namespace Sync

namespace Queue

variable {Party Item : Type}

/-- The item that a finished call has put. -/
def stored? (outcome : Outcome Party (Request Item) (Result Item)) : Option Item :=
  match outcome.request, outcome.result with
  | .put item _, .ok _ => some item
  | _, _ => none

def got? (outcome : Outcome Party (Request Item) (Result Item)) : Option Item :=
  match outcome.request, outcome.result with
  | .get _, .ok (.item item) => some item
  | _, _ => none

/-- Whether a finished call is a get or a reset that has succeeded. -/
def removes (outcome : Outcome Party (Request Item) (Result Item)) : Bool :=
  match outcome.request, outcome.result with
  | .get _, .ok _ => true
  | .reset, .ok _ => true
  | _, _ => false

inductive Removal (Item : Type) where
  | delivered (item : Item)
  | discarded (items : List Item)

namespace Removal

def items : Removal Item → List Item
  | delivered item => [item]
  | discarded items => items

/-- The finished call by which the items have left: a get returns its item, and a reset
tells how many it has dropped. -/
inductive By : Removal Item → Outcome Party (Request Item) (Result Item) → Prop where
  | get (party : Party) (timeout : Timeout) (item : Item) :
      By (delivered item) ⟨party, .get timeout, .ok (.item item)⟩
  | reset (party : Party) (items : List Item) :
      By (discarded items) ⟨party, .reset, .ok (.dropped items.length)⟩

end Removal

section Failures

variable (party : Party) (request : Request Item) (error : Error)

@[simp]
theorem stored?_error : stored? ⟨party, request, .error error⟩ = none := by
  cases request <;> rfl

@[simp]
theorem removes_error : removes ⟨party, request, .error error⟩ = false := by
  cases request <;> rfl

end Failures

theorem filterMap_got?_filter_removes
    (finished : List (Outcome Party (Request Item) (Result Item))) :
    (finished.filter removes).filterMap got? = finished.filterMap got? := by
  rw [List.filterMap_filter]
  congr
  funext ⟨party, request, result⟩
  rcases result with error | result
  · cases request <;> rfl
  · cases request <;> rfl

theorem got_sublist_items {removals : List (Removal Item)}
    {outcomes : List (Outcome Party (Request Item) (Result Item))}
    (removed : List.Forall₂ Removal.By removals outcomes) :
    (outcomes.filterMap got?).Sublist (removals.flatMap Removal.items) := by
  induction removed with
  | nil => exact .slnil
  | cons caused removed ih =>
      rw [List.flatMap_cons]
      cases caused with
      | get party timeout item => exact ih.cons_cons item
      | reset party items => exact ih.trans (List.sublist_append_right items _)

/-- What finished calls have put is what they have removed, followed by the contents. -/
def Accounts (finished : List (Outcome Party (Request Item) (Result Item)))
    (items : List Item) : Prop :=
  ∃ removals : List (Removal Item),
    List.Forall₂ Removal.By removals (finished.filter removes) ∧
      finished.filterMap stored? = removals.flatMap Removal.items ++ items

namespace Accounts

variable {finished : List (Outcome Party (Request Item) (Result Item))} {items : List Item}

theorem start : Accounts ([] : List (Outcome Party (Request Item) (Result Item))) [] :=
  ⟨[], .nil, rfl⟩

theorem failed (accounts : Accounts finished items) (party : Party) (request : Request Item)
    (error : Error) : Accounts (finished ++ [⟨party, request, .error error⟩]) items := by
  rcases accounts with ⟨removals, removed, stored⟩
  refine ⟨removals, ?_, ?_⟩
  · simpa using removed
  · simpa using stored

theorem stored (accounts : Accounts finished items) (party : Party) (item : Item)
    (timeout : Timeout) :
    Accounts (finished ++ [⟨party, .put item timeout, .ok .stored⟩]) (items ++ [item]) := by
  rcases accounts with ⟨removals, removed, stored⟩
  refine ⟨removals, ?_, ?_⟩
  · simpa [removes] using removed
  · simp [stored?, stored]

/-- A call that removes the first items of the contents is the last removal so far. -/
theorem removed {removal : Removal Item}
    {outcome : Outcome Party (Request Item) (Result Item)}
    (accounts : Accounts finished (removal.items ++ items)) (caused : removal.By outcome) :
    Accounts (finished ++ [outcome]) items := by
  rcases accounts with ⟨removals, removed, stored⟩
  have part : removes outcome = true ∧ stored? outcome = none := by
    cases caused <;> exact ⟨rfl, rfl⟩
  refine ⟨removals ++ [removal], ?_, ?_⟩
  · rw [List.filter_append, List.filter_singleton, part.1]
    exact List.rel_append removed (.cons caused .nil)
  · simp [part.2, stored]

theorem finish {queue next : Queue Item} {request : Request Item}
    {result : Except Error (Result Item)} {signals : List (Signal Condition)}
    (accounts : Accounts finished queue.items) (party : Party)
    (passed : queue.pass request = .finish result next signals) :
    Accounts (finished ++ [⟨party, request, result⟩]) next.items := by
  have done := queue.does request
  rw [passed] at done
  cases done with
  | stored item timeout room => exact accounts.stored party item timeout
  | taken item rest timeout front =>
      rw [front] at accounts
      exact accounts.removed (.get party timeout item)
  | reset =>
      have whole : Accounts finished ((Removal.discarded queue.items).items ++ []) := by
        simpa [Removal.items] using accounts
      exact whole.removed (.reset party queue.items)

theorem got_sublist (accounts : Accounts finished items) :
    (finished.filterMap got?).Sublist (finished.filterMap stored?) := by
  rcases accounts with ⟨removals, removed, stored⟩
  rw [← filterMap_got?_filter_removes, stored]
  exact (got_sublist_items removed).trans (List.sublist_append_left _ _)

end Accounts

section Runs

variable [DecidableEq Party]
  {run later : Run Party (Queue Item) (Request Item) Condition (Result Item)}

/-- A run whose queue keeps its capacity and holds what has been put and not yet removed. -/
structure Keeps (capacity : Nat)
    (run : Run Party (Queue Item) (Request Item) Condition (Result Item)) : Prop where
  capacity_eq : run.monitor.object.capacity = capacity
  count_le : run.monitor.object.count ≤ capacity
  accounts : Accounts run.finished run.monitor.object.items

omit [DecidableEq Party] in
theorem Keeps.start (capacity : Nat) :
    Keeps capacity
      (Run.start { capacity } : Run Party (Queue Item) (Request Item) Condition (Result Item)) :=
  ⟨rfl, Nat.zero_le _, .start⟩

omit [DecidableEq Party] in
theorem Keeps.refuse {capacity : Nat} (keeps : Keeps capacity run) (party : Party)
    (request : Request Item) (error : Error) : Keeps capacity (run.refuse party request error) :=
  ⟨keeps.capacity_eq, keeps.count_le, keeps.accounts.failed party request error⟩

theorem Keeps.step {capacity : Nat} {event : Event Party (Request Item)}
    (keeps : Keeps capacity run) (moved : run.Step pass event later) : Keeps capacity later := by
  cases moved with
  | idle => exact keeps
  | moved party request expired others next progress admitted passed =>
      cases passed with
      | gaveUp condition timeout passed spent =>
          exact ⟨keeps.capacity_eq, keeps.count_le, keeps.accounts.failed _ _ _⟩
      | parked condition timeout passed patient =>
          refine ⟨keeps.capacity_eq, keeps.count_le, ?_⟩
          simpa [Progress.outcome?] using keeps.accounts
      | aborted fault passed =>
          refine ⟨keeps.capacity_eq, keeps.count_le, ?_⟩
          simpa [Progress.outcome?] using keeps.accounts
      | finished result next signals favourite passed =>
          have capacity_eq := (capacity_of_finish passed).trans keeps.capacity_eq
          have bounded : run.monitor.object.count ≤ run.monitor.object.capacity :=
            keeps.capacity_eq ▸ keeps.count_le
          refine ⟨capacity_eq, ?_, keeps.accounts.finish party passed⟩
          exact capacity_eq ▸ count_le_of_finish bounded passed

/-- What has been put is what has been removed, followed by what the queue holds: whatever
the parties do, in threads or in interrupt context, items leave the queue in the order in
which they were put, each of them once. -/
theorem stored_eq_removed_append_items (capacity : Nat)
    (actions : List (Action Party (Request Item))) :
    let run := (Run.start { capacity } :
      Run Party (Queue Item) (Request Item) Condition (Result Item)).afterActions pass
        Request.refusal? actions
    let queue := run.monitor.object
    queue.capacity = capacity ∧ queue.count ≤ capacity ∧
      queue.space + queue.count = capacity ∧
      (∃ removals : List (Removal Item),
        List.Forall₂ Removal.By removals (run.finished.filter removes) ∧
          run.finished.filterMap stored? =
            removals.flatMap Removal.items ++ queue.items) ∧
      (run.finished.filterMap got?).Sublist (run.finished.filterMap stored?) := by
  intro run queue
  have keeps : Keeps capacity run := by
    apply Run.Tracked.actions_induction (Keeps capacity) _ _ (.start _) (.start capacity)
    · intro run event later keeps moved
      exact keeps.step moved
    · intro run party request error keeps
      exact keeps.refuse party request error
  refine ⟨keeps.capacity_eq, keeps.count_le, ?_, keeps.accounts, keeps.accounts.got_sublist⟩
  rw [space, keeps.capacity_eq]
  exact Nat.sub_add_cancel keeps.count_le

/-- A put that waits for room comes after one that did not, and a refused one is not put. -/
example :
    ((Run.start ⟨1, []⟩ : Run Nat (Queue Nat) (Request Nat) Condition (Result Nat)).afterActions
      pass Request.refusal?
      [.event (.call 0 (.put 7 .forever) none), .event (.call 1 (.put 8 .forever) none),
        .interrupt 2 (.put 9 .poll) none, .event (.call 3 (.get .forever) none),
        .event (.resume 1 none)]).finished.filterMap stored? = [7, 8] := by
  decide

end Runs

end Queue

end Sync

end Rtos
