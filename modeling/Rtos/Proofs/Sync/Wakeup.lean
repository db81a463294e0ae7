import Rtos.Proofs.Sync.Calls
import Rtos.Proofs.Sync.Run

/-!
# No lost wake-ups

Once no woken call is left, no call is parked that could complete, whatever the order of
calls, resumptions and expiries, and whomever the signals have woken.

The signals of mutexes, semaphores and queues wake one call each. There, as long as some
call is parked on a condition, at least as many calls have been woken from it and have not
resumed as there are units to be had: a signal is sent for each unit that is added, and a
woken call that comes back either takes a unit or has found that there is none. Every
change of a flag word that can satisfy a wait wakes all of them, so that a parked wait is
never satisfied.
-/

namespace Rtos

namespace Sync

section Monitors

variable {Party Object Request Condition Result : Type}

/-- The units for which the calls on an object wait. -/
structure Supply (Object Request Condition : Type) where
  /-- The condition on which a call may have to wait. -/
  awaited? : Request → Option Condition
  /-- How many units there are for the calls that wait on a condition. -/
  available : Object → Condition → Nat

namespace Supply

/-- How many units of those that a condition announces a call takes when it finishes. -/
def taken [DecidableEq Condition] (supply : Supply Object Request Condition)
    (request : Request) (condition : Condition) : Nat :=
  if supply.awaited? request = some condition then 1 else 0

/-- A call waits for a unit only if there is none, and each unit added is announced. -/
structure Governs [DecidableEq Condition] (supply : Supply Object Request Condition)
    (pass : Object → Request → Pass Object Condition Result) : Prop where
  waits : ∀ {object request condition timeout},
    pass object request = .wait condition timeout →
      supply.awaited? request = some condition ∧ supply.available object condition = 0
  finishes : ∀ {object request result next signals},
    pass object request = .finish result next signals →
      ∀ condition, .all condition ∉ signals →
        supply.available next condition ≤ supply.available object condition +
          signals.count (.one condition) - supply.taken request condition
  aborts : ∀ {object request fault}, pass object request = .abort fault →
    ∀ condition, supply.awaited? request = some condition →
      supply.available object condition = 0

/-- While calls are parked, there is a woken call for each unit that there is. -/
structure Covers [DecidableEq Condition] (supply : Supply Object Request Condition)
    (monitor : Monitor Party Object Request Condition) : Prop where
  awaits : ∀ waiter ∈ monitor.waiters, supply.awaited? waiter.request = some waiter.condition
  covered : ∀ condition, 0 < parkedOn condition monitor.waiters →
    supply.available monitor.object condition ≤ wokenFrom condition monitor.waiters

variable [DecidableEq Condition] {supply : Supply Object Request Condition}
  {pass : Object → Request → Pass Object Condition Result}
  {monitor next : Monitor Party Object Request Condition} {event : Event Party Request}
  {party : Party} {request : Request} {expired : Bool}
  {others : List (Waiter Party Request Condition)}

theorem Covers.start (object : Object) :
    supply.Covers ({ object } : Monitor Party Object Request Condition) := by
  constructor <;> simp [parkedOn]

/-- A call that is let through the lock was parked, or woken from the condition it awaits. -/
theorem Covers.counts (covers : supply.Covers monitor)
    (admitted : monitor.Admits event party request expired others) (condition : Condition) :
    (0 < parkedOn condition others → 0 < parkedOn condition monitor.waiters) ∧
      wokenFrom condition monitor.waiters ≤
        wokenFrom condition others + supply.taken request condition := by
  cases admitted with
  | call party request favourite free => exact ⟨id, Nat.le_add_right _ _⟩
  | resume waiter others favourite woken split =>
      have awaits := covers.awaits waiter (split.mem_iff.mpr List.mem_cons_self)
      simp only [parkedOn, wokenFrom, split.countP_eq, List.countP_cons, taken, awaits]
      refine ⟨by omega, ?_⟩
      simp [Waiter.isWokenFrom, woken]
  | expire waiter others favourite parked bounded split =>
      simp only [parkedOn, wokenFrom, split.countP_eq, List.countP_cons]
      refine ⟨by omega, ?_⟩
      simp [Waiter.isWokenFrom, parked]

/-- A call that is let through the lock and takes no unit leaves a woken call for each. -/
theorem Covers.covered_others (covers : supply.Covers monitor)
    (admitted : monitor.Admits event party request expired others)
    (none : ∀ condition, supply.awaited? request = some condition →
      supply.available monitor.object condition = 0)
    {condition : Condition} (parked : 0 < parkedOn condition others) :
    supply.available monitor.object condition ≤ wokenFrom condition others := by
  rcases covers.counts admitted condition with ⟨parkedBefore, woken⟩
  have covered := covers.covered condition (parkedBefore parked)
  by_cases awaits : supply.awaited? request = some condition
  · rw [none condition awaits]
    exact Nat.zero_le _
  · rw [taken, if_neg awaits] at woken
    exact Nat.le_trans covered woken

theorem Governs.none_of_waits (governs : supply.Governs pass) {object : Object}
    {own : Condition} {timeout : Timeout} (waits : pass object request = .wait own timeout)
    (condition : Condition) (awaits : supply.awaited? request = some condition) :
    supply.available object condition = 0 := by
  rcases governs.waits waits with ⟨awaitsOwn, none⟩
  rw [awaitsOwn, Option.some.injEq] at awaits
  exact awaits ▸ none

variable [DecidableEq Party]

/-- A call that passes through the lock leaves a woken call for each unit behind. -/
theorem Covers.transition (governs : supply.Governs pass)
    {answer : Option (Party × Progress Result)} (covers : supply.Covers monitor)
    (moved : monitor.Transition pass event next answer) : supply.Covers next := by
  cases moved with
  | idle => exact covers
  | @moved party request expired others next progress admitted passed =>
  constructor
  · intro waiter present
    rcases passed.of_mem present with
      ⟨earlier, waited, same⟩ | ⟨condition, timeout, waits, rfl⟩
    · have awaits := covers.awaits earlier (admitted.mem_waiters waited)
      rcases same with rfl | rfl
      · exact awaits
      · exact awaits
    · exact (governs.waits waits).1
  · intro condition parked
    cases passed with
    | finished result object signals favourite passed =>
        -- Each unit that is added has woken a call; what the call itself takes pays for its own
        -- wake-up.
        rcases woken_of_stillParked favourite parked with ⟨parkedOthers, unannounced, woken⟩
        rcases covers.counts admitted condition with ⟨parkedBefore, left⟩
        have covered := covers.covered condition (parkedBefore parkedOthers)
        have finishes := governs.finishes passed condition unannounced
        simp only
        omega
    | gaveUp own timeout passed spent =>
        exact covers.covered_others admitted (governs.none_of_waits passed) parked
    | parked own timeout passed patient =>
        -- The call parks because there is no unit; on other conditions it changes nothing.
        by_cases same : own = condition
        · subst same
          rw [(governs.waits passed).2]
          exact Nat.zero_le _
        · have parkedOthers : 0 < parkedOn condition others := by
            simpa [parkedOn, List.countP_append, Waiter.isParkedOn, same] using parked
          have covered :=
            covers.covered_others admitted (governs.none_of_waits passed) parkedOthers
          simp only [wokenFrom, List.countP_append] at covered ⊢
          omega
    | aborted fault passed =>
        exact covers.covered_others admitted (governs.aborts passed) parked

omit [DecidableEq Party] in
theorem Covers.none_left (covers : supply.Covers monitor) (rest : monitor.AtRest)
    {waiter : Waiter Party Request Condition} (present : waiter ∈ monitor.waiters) :
    supply.awaited? waiter.request = some waiter.condition ∧
      supply.available monitor.object waiter.condition = 0 := by
  refine ⟨covers.awaits waiter present, ?_⟩
  have parked : 0 < parkedOn waiter.condition monitor.waiters :=
    parkedOn_pos.mpr ⟨waiter, present, rest waiter present, rfl⟩
  have covered := covers.covered waiter.condition parked
  rw [wokenFrom_eq_zero waiter.condition rest] at covered
  exact Nat.le_zero.mp covered

theorem Governs.none_left_after (governs : supply.Governs pass) (object : Object)
    (events : List (Event Party Request))
    (rest : ((Run.start object).after pass events).monitor.AtRest)
    {waiter : Waiter Party Request Condition}
    (present : waiter ∈ ((Run.start object).after pass events).monitor.waiters) :
    supply.awaited? waiter.request = some waiter.condition ∧
      supply.available ((Run.start object).after pass events).monitor.object
        waiter.condition = 0 := by
  have covers : supply.Covers ((Run.start object).after pass events).monitor := by
    apply Run.after_monitor supply.Covers _ (Covers.start object)
    intro monitor event later answer covers moved
    exact covers.transition governs moved
  exact covers.none_left rest present

end Supply

/-- Whatever could let a call complete that waits on a condition wakes all that wait on it. -/
def Broadcasts (pass : Object → Request → Pass Object Condition Result) : Prop :=
  ∀ {object request result next signals waiting condition timeout},
    pass object request = .finish result next signals →
    pass object waiting = .wait condition timeout →
      .all condition ∈ signals ∨ pass next waiting = .wait condition timeout

def Unsatisfied (pass : Object → Request → Pass Object Condition Result)
    (monitor : Monitor Party Object Request Condition) : Prop :=
  ∀ waiter ∈ monitor.waiters, waiter.woken = false →
    pass monitor.object waiter.request = .wait waiter.condition waiter.timeout

theorem Unsatisfied.transition [DecidableEq Party] [DecidableEq Condition]
    {pass : Object → Request → Pass Object Condition Result}
    {monitor later : Monitor Party Object Request Condition} {event : Event Party Request}
    {answer : Option (Party × Progress Result)} (broadcasts : Broadcasts pass)
    (unsatisfied : Unsatisfied pass monitor)
    (moved : monitor.Transition pass event later answer) : Unsatisfied pass later := by
  cases moved with
  | idle => exact unsatisfied
  | @moved party request expired others later progress admitted passed =>
  intro waiter present parked
  cases passed with
  | finished result next signals favourite passed =>
      have waited := (awakened_deliverAll favourite signals others).mem_of_parked present parked
      have waits := unsatisfied waiter (admitted.mem_waiters waited) parked
      -- It is parked after the signals, so none of them was for all calls on its condition.
      have stillParked : 0 < parkedOn waiter.condition
          (Signal.deliverAll favourite signals others) :=
        parkedOn_pos.mpr ⟨waiter, present, parked, rfl⟩
      exact (broadcasts passed waits).resolve_left (woken_of_stillParked favourite stillParked).2.1
  | gaveUp condition timeout passed spent =>
      exact unsatisfied waiter (admitted.mem_waiters present) parked
  | parked condition timeout passed patient =>
      rcases List.mem_append.mp present with waited | arrived
      · exact unsatisfied waiter (admitted.mem_waiters waited) parked
      · rw [List.mem_singleton] at arrived
        subst arrived
        exact passed
  | aborted fault passed =>
      exact unsatisfied waiter (admitted.mem_waiters present) parked

theorem Broadcasts.waits_after [DecidableEq Party] [DecidableEq Condition]
    {pass : Object → Request → Pass Object Condition Result} (broadcasts : Broadcasts pass)
    (object : Object) (events : List (Event Party Request)) :
    Unsatisfied pass ((Run.start object).after pass events).monitor := by
  apply Run.after_monitor (Unsatisfied pass)
  · intro monitor event later answer unsatisfied moved
    exact unsatisfied.transition broadcasts moved
  · simp [Unsatisfied, Run.start]

end Monitors

namespace Mutex

/-- Whether a call has to wait: an acquire, while the mutex has an owner. -/
def Blocks (mutex : Mutex) : Request → Prop
  | .acquire _ _ => mutex.owner.isSome
  | .release _ => False

def supply : Supply Mutex Request Condition where
  awaited?
    | .acquire _ _ => some .released
    | .release _ => none
  available mutex _ := if mutex.owner.isSome then 0 else 1

theorem supply_governs : supply.Governs pass where
  waits {mutex request condition timeout} passed := by
    have done := mutex.does request
    rw [passed] at done
    cases done with
    | waits caller owner _ owned own => simp [supply, owned]
  finishes {mutex request result next signals} passed condition unannounced := by
    have done := mutex.does request
    rw [passed] at done
    cases done with
    | acquired caller timeout free => simp [supply]
    | nested caller timeout own kind => simp [supply, own]
    | freed caller own last => simp [supply, Supply.taken]
    | unnested caller own deep => simp [supply, own]
    | refused caller other => simp [supply, Supply.taken]
  aborts {mutex request fault} passed condition awaits := by
    have done := mutex.does request
    rw [passed] at done
    cases done with
    | deadlocked caller own kind => simp [supply, own]

theorem blocks_of_none {mutex : Mutex} {request : Request} {condition : Condition}
    (awaits : supply.awaited? request = some condition)
    (none : supply.available mutex condition = 0) : mutex.Blocks request := by
  cases request with
  | acquire caller timeout => simpa [supply, Blocks, Option.isSome_iff_ne_none] using none
  | release caller => simp [supply] at awaits

end Mutex

namespace Semaphore

/-- Whether a call has to wait: an acquire, while there is no token. -/
def Blocks (semaphore : Semaphore) : Request → Prop
  | .acquire _ => semaphore.count = 0
  | .release => False

def supply : Supply Semaphore Request Condition where
  awaited?
    | .acquire _ => some .available
    | .release => none
  available semaphore _ := semaphore.count

theorem supply_governs : supply.Governs pass where
  waits {semaphore request condition timeout} passed := by
    have done := semaphore.does request
    rw [passed] at done
    cases done with
    | waits _ none => simp [supply, none]
  finishes {semaphore request result next signals} passed condition unannounced := by
    have done := semaphore.does request
    rw [passed] at done
    cases done with
    | acquired timeout token => simp [supply, Supply.taken]
    | released room => simp [supply, Supply.taken]
    | refused full => simp [supply, Supply.taken]
  aborts {semaphore request fault} passed := by
    have done := semaphore.does request
    rw [passed] at done
    cases done

theorem blocks_of_none {semaphore : Semaphore} {request : Request} {condition : Condition}
    (awaits : supply.awaited? request = some condition)
    (none : supply.available semaphore condition = 0) : semaphore.Blocks request := by
  cases request with
  | acquire timeout => exact none
  | release => simp [supply] at awaits

end Semaphore

namespace Queue

variable {Item : Type}

/-- Whether a call has to wait: a put on a full queue, and a get on an empty one. -/
def Blocks (queue : Queue Item) : Request Item → Prop
  | .put _ _ => queue.count = queue.capacity
  | .get _ => queue.count = 0
  | .reset => False

/-- The units are the items for gets and the free places for puts. -/
def supply : Supply (Queue Item) (Request Item) Condition where
  awaited?
    | .put _ _ => some .notFull
    | .get _ => some .notEmpty
    | .reset => none
  available queue
    | .notEmpty => queue.count
    | .notFull => queue.space

theorem supply_governs :
    (supply : Supply (Queue Item) (Request Item) Condition).Governs pass where
  waits {queue request condition timeout} passed := by
    have done := queue.does request
    rw [passed] at done
    cases done with
    | full item _ full => simp [supply, space, full]
    | empty _ empty => simp [supply, count, empty]
  finishes {queue request result next signals} passed condition unannounced := by
    have done := queue.does request
    rw [passed] at done
    cases done with
    | stored item timeout room =>
        cases condition with
        | notEmpty => simp [supply, Supply.taken, count]
        | notFull =>
            simp only [supply, Supply.taken, space, count, List.length_append]
            simp
            omega
    | taken item rest timeout front =>
        cases condition with
        | notEmpty => simp [supply, Supply.taken, count, front]
        | notFull =>
            simp only [supply, Supply.taken, space, count, front, List.length_cons]
            simp
            omega
    | reset =>
        cases condition with
        | notEmpty => simp [supply, count]
        | notFull => simp at unannounced
  aborts {queue request fault} passed := by
    have done := queue.does request
    rw [passed] at done
    cases done

theorem blocks_of_none {queue : Queue Item} {request : Request Item} {condition : Condition}
    (bounded : queue.count ≤ queue.capacity)
    (awaits : supply.awaited? request = some condition)
    (none : supply.available queue condition = 0) : queue.Blocks request := by
  cases request with
  | put item timeout =>
      cases awaits
      exact Nat.le_antisymm bounded (Nat.sub_eq_zero_iff_le.mp none)
  | get timeout =>
      cases awaits
      exact none
  | reset => simp [supply] at awaits

end Queue

namespace FlagWord

/-- Whether a call has to wait: a wait, while the word does not satisfy it. -/
def Blocks (word : FlagWord) : Request → Prop
  | .wait mask mode _ _ => mode.isSatisfied word.bits mask = false
  | _ => False

theorem isSatisfied_of_and {mode : WaitMode} {bits kept mask : UInt32}
    (satisfied : mode.isSatisfied (bits &&& kept) mask) : mode.isSatisfied bits mask := by
  have fewer : bits &&& kept &&& mask = bits &&& mask &&& kept := by
    rw [UInt32.and_assoc, UInt32.and_comm kept mask, ← UInt32.and_assoc]
  cases mode with
  | any =>
      simp only [WaitMode.isSatisfied, bne_iff_ne, ne_eq, fewer] at satisfied ⊢
      intro none
      simp [none] at satisfied
  | all =>
      simp only [WaitMode.isSatisfied, beq_iff_eq] at satisfied ⊢
      rw [← satisfied, ← UInt32.and_assoc, ← UInt32.and_assoc, UInt32.and_self]

theorem pass_broadcasts : Broadcasts pass := by
  intro word request result next signals waiting condition timeout passed waits
  have done := word.does request
  have waited := word.does waiting
  rw [passed] at done
  rw [waits] at waited
  cases waited with
  | waits mask mode clear _ valid unsatisfied =>
  have still : ∀ kept : UInt32, mode.isSatisfied (word.bits &&& kept) mask = false := by
    intro kept
    apply eq_false_of_ne_true
    intro satisfied
    simp [isSatisfied_of_and satisfied] at unsatisfied
  cases done with
  | set mask valid => exact .inl List.mem_cons_self
  | cleared other _ =>
      right
      simp [pass, passValid, Request.mask, valid, still]
  | got => exact .inr waits
  | kept other otherMode limit _ satisfied => exact .inr waits
  | consumed other otherMode limit _ satisfied =>
      right
      simp [pass, passValid, Request.mask, valid, still]

theorem blocks_of_wait {word : FlagWord} {request : Request} {condition : Condition}
    {timeout : Timeout} (waits : word.pass request = .wait condition timeout) :
    word.Blocks request := by
  have done := word.does request
  rw [waits] at done
  cases done with
  | waits mask mode clear _ valid unsatisfied => exact unsatisfied

end FlagWord

/--
When every woken call has resumed, each call that is still parked has to wait: for an owned
mutex, for a token of a semaphore that has none, for room in a full queue, for an item of
an empty one, or for bits that a flag word does not show.
-/
theorem blocks_of_atRest {Party Item : Type} [DecidableEq Party] :
    (∀ (mutex : Mutex) (events : List (Event Party Mutex.Request)),
      let monitor := ((Run.start mutex).after Mutex.pass events).monitor
      monitor.AtRest → ∀ waiter ∈ monitor.waiters, monitor.object.Blocks waiter.request) ∧
    (∀ (semaphore : Semaphore) (events : List (Event Party Semaphore.Request)),
      let monitor := ((Run.start semaphore).after Semaphore.pass events).monitor
      monitor.AtRest → ∀ waiter ∈ monitor.waiters, monitor.object.Blocks waiter.request) ∧
    (∀ (capacity : Nat) (events : List (Event Party (Queue.Request Item))),
      let monitor := ((Run.start { capacity }).after Queue.pass events).monitor
      monitor.AtRest → ∀ waiter ∈ monitor.waiters, monitor.object.Blocks waiter.request) ∧
    (∀ (word : FlagWord) (events : List (Event Party FlagWord.Request)),
      let monitor := ((Run.start word).after FlagWord.pass events).monitor
      monitor.AtRest → ∀ waiter ∈ monitor.waiters, monitor.object.Blocks waiter.request) := by
  refine ⟨?_, ?_, ?_, ?_⟩
  · intro mutex events monitor rest waiter present
    rcases Mutex.supply_governs.none_left_after mutex events rest present with ⟨awaits, none⟩
    exact Mutex.blocks_of_none awaits none
  · intro semaphore events monitor rest waiter present
    rcases Semaphore.supply_governs.none_left_after semaphore events rest present with
      ⟨awaits, none⟩
    exact Semaphore.blocks_of_none awaits none
  · intro capacity events monitor rest waiter present
    have bounded : monitor.object.count ≤ monitor.object.capacity := by
      apply Run.after_object fun queue : Queue Item => queue.count ≤ queue.capacity
      · intro queue request result next signals bounded passed
        exact Queue.count_le_of_finish bounded passed
      · exact Nat.zero_le _
    rcases Queue.supply_governs.none_left_after _ events rest present with ⟨awaits, none⟩
    exact Queue.blocks_of_none bounded awaits none
  · intro word events monitor rest waiter present
    have waits := FlagWord.pass_broadcasts.waits_after word events waiter present
      (rest waiter present)
    exact FlagWord.blocks_of_wait waits

/-- In each of these runs a woken call finds that another one was faster, and parks again. -/
theorem blocks_of_atRest_barging :
    let mutex := ((Run.start { kind := .normal }).after Mutex.pass
      [.call 0 (.acquire ⟨0⟩ .forever) none, .call 1 (.acquire ⟨1⟩ .forever) none,
        .call 0 (.release ⟨0⟩) none, .call 2 (.acquire ⟨2⟩ .forever) none,
        .resume 1 none]).monitor
    let semaphore := ((Run.start ⟨1, 0⟩).after Semaphore.pass
      [.call 1 (.acquire .forever) none, .call 0 .release none,
        .call 2 (.acquire .forever) none, .resume 1 none]).monitor
    let queue := ((Run.start { capacity := 1 }).after Queue.pass
      [.call 0 (.put 7 .forever) none, .call 1 (.put 8 .forever) none,
        .call 2 (.get .forever) none, .call 3 (.put 9 .poll) none, .resume 1 none]).monitor
    let word := ((Run.start .event).after FlagWord.pass
      [.call 1 (.wait 1 .any true .forever) none, .call 0 (.set 1) none,
        .call 2 (.wait 1 .all true .poll) none, .resume 1 none]).monitor
    (mutex.AtRest ∧ mutex.waiters.map (·.party) = [1] ∧
      ∀ waiter ∈ mutex.waiters, mutex.object.Blocks waiter.request) ∧
    (semaphore.AtRest ∧ semaphore.waiters.map (·.party) = [1] ∧
      ∀ waiter ∈ semaphore.waiters, semaphore.object.Blocks waiter.request) ∧
    (queue.AtRest ∧ queue.waiters.map (·.party) = [1] ∧
      ∀ waiter ∈ queue.waiters, queue.object.Blocks waiter.request) ∧
    (word.AtRest ∧ word.waiters.map (·.party) = [1] ∧
      ∀ waiter ∈ word.waiters, word.object.Blocks waiter.request) := by
  intro mutex semaphore queue word
  rcases @blocks_of_atRest Nat Nat _ with ⟨ofMutex, ofSemaphore, ofQueue, ofWord⟩
  have mutexRests : mutex.AtRest := by unfold Monitor.AtRest; decide
  have semaphoreRests : semaphore.AtRest := by unfold Monitor.AtRest; decide
  have queueRests : queue.AtRest := by unfold Monitor.AtRest; decide
  have wordRests : word.AtRest := by unfold Monitor.AtRest; decide
  exact ⟨⟨mutexRests, by decide, ofMutex _ _ mutexRests⟩,
    ⟨semaphoreRests, by decide, ofSemaphore _ _ semaphoreRests⟩,
    ⟨queueRests, by decide, ofQueue _ _ queueRests⟩,
    ⟨wordRests, by decide, ofWord _ _ wordRests⟩⟩

end Sync

end Rtos
