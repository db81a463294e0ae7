import Rtos.Fault
import Rtos.Timeout

/-!
# Monitors

An object behind a lock, with conditions on which calls wait. A call passes through
the lock: it either finishes, and may then wake calls that wait, or finds that it
has to wait on a condition. A call that has to wait gives up if it is a poll or its
time has run out; otherwise it parks, and the lock is free again. A woken call
passes through the lock once more and may find that another call was faster.

Nothing here decides who runs next. A run of a monitor is a sequence of events: a
call arrives, a woken call resumes, or the time of a parked call runs out. A signal
that wakes one call may wake any of those that wait; the event names the one it
would like. `Monitor.settle` is one particular continuation of a run, in which every
woken call resumes until none is left.
-/

namespace Rtos

namespace Sync

/-- A wake-up that a finished call sends while it holds the lock. -/
inductive Signal (Condition : Type) where
  /-- Wakes one call that waits on the condition, if there is one. -/
  | one (condition : Condition)
  /-- Wakes every call that waits on the condition. -/
  | all (condition : Condition)
  deriving DecidableEq

/-- What a call does while it holds the lock of an object. -/
inductive Pass (Object Condition Result : Type) where
  /-- It finishes with a result, leaves the object changed, and sends signals. -/
  | finish (result : Except Error Result) (object : Object) (signals : List (Signal Condition))
  /-- It cannot finish before the condition is signalled. -/
  | wait (condition : Condition) (timeout : Timeout)
  /-- It is a mistake of the program. -/
  | abort (fault : Fault)

/-- How far a call has come. -/
inductive Progress (Result : Type) where
  | finished (result : Except Error Result)
  | parked
  /-- It was a mistake of the program. -/
  | aborted (fault : Fault)

structure Waiter (Party Request Condition : Type) where
  party : Party
  request : Request
  condition : Condition
  timeout : Timeout
  /-- Whether it has been woken and is about to resume. -/
  woken : Bool := false
  deriving DecidableEq

namespace Waiter

variable {Party Request Condition : Type}

/-- Whether a call is parked on a condition. -/
def isParkedOn [DecidableEq Condition] (condition : Condition)
    (waiter : Waiter Party Request Condition) : Bool :=
  !waiter.woken && waiter.condition = condition

def wake (waiter : Waiter Party Request Condition) : Waiter Party Request Condition :=
  { waiter with woken := true }

end Waiter

/-- The list with a change made to the first element that satisfies a test. -/
def modifyFirst {α : Type} (test : α → Bool) (change : α → α) : List α → List α
  | [] => []
  | head :: tail =>
      if test head then change head :: tail else head :: modifyFirst test change tail

/-- The first element that satisfies a test, and the list without it. -/
def extractFirst? {α : Type} (test : α → Bool) : List α → Option (α × List α)
  | [] => none
  | head :: tail =>
      if test head then some (head, tail)
      else (extractFirst? test tail).map fun (found, rest) => (found, head :: rest)

namespace Signal

variable {Party Request Condition : Type} [DecidableEq Party] [DecidableEq Condition]

/-- The waiting calls after a signal; `favourite` is woken if the choice is free. -/
def deliver (favourite : Option Party) (waiters : List (Waiter Party Request Condition)) :
    Signal Condition → List (Waiter Party Request Condition)
  | one condition =>
      let isFavourite (waiter : Waiter Party Request Condition) : Bool :=
        waiter.isParkedOn condition && decide (some waiter.party = favourite)
      if waiters.any isFavourite then modifyFirst isFavourite Waiter.wake waiters
      else modifyFirst (Waiter.isParkedOn condition) Waiter.wake waiters
  | all condition =>
      waiters.map fun waiter => if waiter.isParkedOn condition then waiter.wake else waiter

def deliverAll (favourite : Option Party) (signals : List (Signal Condition))
    (waiters : List (Waiter Party Request Condition)) :
    List (Waiter Party Request Condition) :=
  signals.foldl (deliver favourite) waiters

end Signal

/-- An object and the calls that wait for it. -/
structure Monitor (Party Object Request Condition : Type) where
  object : Object
  waiters : List (Waiter Party Request Condition) := []
  deriving DecidableEq

inductive Event (Party Request : Type) where
  | call (party : Party) (request : Request) (favourite : Option Party)
  | resume (party : Party) (favourite : Option Party)
  /-- The time of a parked call runs out. -/
  | expire (party : Party) (favourite : Option Party)
  deriving DecidableEq

namespace Monitor

variable {Party Object Request Condition Result : Type}
variable [DecidableEq Party] [DecidableEq Condition]

/--
A call passes through the lock. `expired` says that its time has run out, so that it
must not park again.
-/
def attempt (pass : Object → Request → Pass Object Condition Result)
    (monitor : Monitor Party Object Request Condition) (party : Party) (request : Request)
    (expired : Bool) (favourite : Option Party) :
    Monitor Party Object Request Condition × Progress Result :=
  match pass monitor.object request with
  | .finish result object signals =>
      (⟨object, Signal.deliverAll favourite signals monitor.waiters⟩, .finished result)
  | .wait condition timeout =>
      if timeout.isPoll || expired then (monitor, .finished (.error timeout.expiredError))
      else
        (⟨monitor.object, monitor.waiters ++ [{ party, request, condition, timeout }]⟩, .parked)
  | .abort fault => (monitor, .aborted fault)

/-- A call that arrives passes through the lock for the first time. -/
def call (pass : Object → Request → Pass Object Condition Result)
    (monitor : Monitor Party Object Request Condition) (party : Party) (request : Request)
    (favourite : Option Party) :
    Monitor Party Object Request Condition × Progress Result :=
  monitor.attempt pass party request false favourite

/-- The first waiting call that satisfies a test leaves the waiting calls and passes again. -/
def passAgain? (pass : Object → Request → Pass Object Condition Result)
    (monitor : Monitor Party Object Request Condition)
    (test : Waiter Party Request Condition → Bool) (expired : Bool)
    (favourite : Option Party) :
    Option (Party × Monitor Party Object Request Condition × Progress Result) :=
  (extractFirst? test monitor.waiters).map fun (waiter, others) =>
    (waiter.party,
      attempt pass ⟨monitor.object, others⟩ waiter.party waiter.request expired favourite)

/-- A woken call of a party resumes. -/
def resume? (pass : Object → Request → Pass Object Condition Result)
    (monitor : Monitor Party Object Request Condition) (party : Party)
    (favourite : Option Party) :
    Option (Party × Monitor Party Object Request Condition × Progress Result) :=
  monitor.passAgain? pass (fun waiter => waiter.woken && decide (waiter.party = party)) false
    favourite

/-- The time of a parked call of a party runs out. -/
def expire? (pass : Object → Request → Pass Object Condition Result)
    (monitor : Monitor Party Object Request Condition) (party : Party)
    (favourite : Option Party) :
    Option (Party × Monitor Party Object Request Condition × Progress Result) :=
  monitor.passAgain? pass
    (fun waiter => !waiter.woken && !waiter.timeout.isForever && decide (waiter.party = party))
    true favourite

/-- Whether a party has a call that waits. -/
def isWaiting (monitor : Monitor Party Object Request Condition) (party : Party) : Bool :=
  monitor.waiters.any fun waiter => decide (waiter.party = party)

/--
The monitor after an event, and how far the call it concerns has come. An event that
cannot happen leaves everything as it is: a party that waits makes no further call,
only a woken call resumes, and only a parked call with a limit runs out of time.
-/
def step (pass : Object → Request → Pass Object Condition Result)
    (monitor : Monitor Party Object Request Condition) (event : Event Party Request) :
    Monitor Party Object Request Condition × Option (Party × Progress Result) :=
  match event with
  | .call party request favourite =>
      if monitor.isWaiting party then (monitor, none)
      else
        let (next, progress) := monitor.call pass party request favourite
        (next, some (party, progress))
  | .resume party favourite =>
      match monitor.resume? pass party favourite with
      | none => (monitor, none)
      | some (party, next, progress) => (next, some (party, progress))
  | .expire party favourite =>
      match monitor.expire? pass party favourite with
      | none => (monitor, none)
      | some (party, next, progress) => (next, some (party, progress))

/-! ## Coming to rest -/

def wokenCount (monitor : Monitor Party Object Request Condition) : Nat :=
  monitor.waiters.countP (·.woken)

theorem length_modifyFirst {α : Type} (test : α → Bool) (change : α → α) (list : List α) :
    (modifyFirst test change list).length = list.length := by
  induction list with
  | nil => rfl
  | cons head tail ih =>
    simp only [modifyFirst]
    split <;> simp [ih]

theorem length_deliver (favourite : Option Party)
    (waiters : List (Waiter Party Request Condition)) (signal : Signal Condition) :
    (signal.deliver favourite waiters).length = waiters.length := by
  cases signal with
  | one condition =>
    simp only [Signal.deliver]
    split <;> exact length_modifyFirst _ _ _
  | all condition => simp [Signal.deliver]

theorem length_deliverAll (favourite : Option Party) (signals : List (Signal Condition))
    (waiters : List (Waiter Party Request Condition)) :
    (Signal.deliverAll favourite signals waiters).length = waiters.length := by
  induction signals generalizing waiters with
  | nil => rfl
  | cons signal signals ih =>
    simp only [Signal.deliverAll, List.foldl_cons] at ih ⊢
    rw [ih, length_deliver]

theorem length_of_extractFirst? {α : Type} {test : α → Bool} {list rest : List α} {found : α}
    (extracted : extractFirst? test list = some (found, rest)) :
    list.length = rest.length + 1 := by
  induction list generalizing rest with
  | nil => cases extracted
  | cons head tail ih =>
    simp only [extractFirst?] at extracted
    split at extracted
    · cases extracted
      rfl
    · simp only [Option.map_eq_some_iff, Prod.mk.injEq] at extracted
      obtain ⟨⟨inner, others⟩, innerExtracted, rfl, rfl⟩ := extracted
      simp [ih innerExtracted]

theorem countP_of_extractFirst? {α : Type} {test : α → Bool} {list rest : List α} {found : α}
    (extracted : extractFirst? test list = some (found, rest)) :
    list.countP test = rest.countP test + 1 := by
  induction list generalizing rest with
  | nil => cases extracted
  | cons head tail ih =>
    simp only [extractFirst?] at extracted
    split at extracted
    case isTrue holds =>
      cases extracted
      simp [holds]
    case isFalse fails =>
      simp only [Option.map_eq_some_iff, Prod.mk.injEq] at extracted
      obtain ⟨⟨inner, others⟩, innerExtracted, rfl, rfl⟩ := extracted
      simp [fails, ih innerExtracted]

/--
A woken call that passes again brings the monitor closer to rest: either fewer calls
wait, or as many wait and fewer of them are woken.
-/
theorem passAgain_woken_decreases (pass : Object → Request → Pass Object Condition Result)
    (monitor : Monitor Party Object Request Condition) (favourite : Option Party)
    {party : Party} {next : Monitor Party Object Request Condition}
    {progress : Progress Result}
    (retried : monitor.passAgain? pass (·.woken) false favourite = some (party, next, progress)) :
    next.waiters.length < monitor.waiters.length ∨
      next.waiters.length = monitor.waiters.length ∧ next.wokenCount < monitor.wokenCount := by
  simp only [passAgain?, Option.map_eq_some_iff, Prod.mk.injEq] at retried
  obtain ⟨⟨waiter, others⟩, extracted, _, attempted⟩ := retried
  have lengths := length_of_extractFirst? extracted
  have counts := countP_of_extractFirst? extracted
  simp only [attempt] at attempted
  split at attempted
  case h_1 =>
    cases attempted
    left
    simp only [length_deliverAll]
    omega
  case h_2 =>
    split at attempted
    · cases attempted
      left
      simp only
      omega
    · cases attempted
      right
      simp only [wokenCount, List.length_append, List.length_singleton, List.countP_append,
        List.countP_singleton]
      simp only [Bool.false_eq_true, if_false]
      omega
  case h_3 =>
    cases attempted
    left
    simp only
    omega

/--
How far a monitor is from rest. A call that ends counts for more than any number of
calls that it wakes.
-/
def unrest (monitor : Monitor Party Object Request Condition) : Nat :=
  monitor.waiters.length * (monitor.waiters.length + 1) + monitor.wokenCount

omit [DecidableEq Party] [DecidableEq Condition] in
theorem unrest_lt_of_fewer {next monitor : Monitor Party Object Request Condition}
    (fewer : next.waiters.length < monitor.waiters.length) : next.unrest < monitor.unrest := by
  have woken : next.wokenCount ≤ next.waiters.length := List.countP_le_length
  have left : next.waiters.length * (next.waiters.length + 1) ≤
      next.waiters.length * monitor.waiters.length := Nat.mul_le_mul_left _ fewer
  have right : (next.waiters.length + 1) * monitor.waiters.length ≤
      monitor.waiters.length * monitor.waiters.length := Nat.mul_le_mul_right _ fewer
  simp only [unrest, Nat.mul_add, Nat.add_mul] at left right ⊢
  omega

/-- A woken call that passes again brings the monitor closer to rest. -/
theorem unrest_passAgain_lt (pass : Object → Request → Pass Object Condition Result)
    (monitor : Monitor Party Object Request Condition) (favourite : Option Party)
    {party : Party} {next : Monitor Party Object Request Condition}
    {progress : Progress Result}
    (passed : monitor.passAgain? pass (·.woken) false favourite = some (party, next, progress)) :
    next.unrest < monitor.unrest := by
  rcases passAgain_woken_decreases pass monitor favourite passed with fewer | ⟨same, fewer⟩
  · exact unrest_lt_of_fewer fewer
  · simp only [unrest, same]
    omega

/--
Every woken call resumes, the one that waits longest first, until none is left. The
calls that ended on the way are listed in the order in which they ended.
-/
def settle (pass : Object → Request → Pass Object Condition Result)
    (monitor : Monitor Party Object Request Condition) :
    Monitor Party Object Request Condition × List (Party × Progress Result) :=
  match _ : monitor.passAgain? pass (·.woken) false none with
  | none => (monitor, [])
  | some (party, next, progress) =>
      let (rest, ended) := settle pass next
      match progress with
      | .parked => (rest, ended)
      | .finished result => (rest, (party, .finished result) :: ended)
      | .aborted fault => (rest, (party, .aborted fault) :: ended)
termination_by monitor.unrest
decreasing_by exact unrest_passAgain_lt pass monitor none (by assumption)

end Monitor

end Sync

end Rtos
