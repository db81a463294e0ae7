import Rtos.Proofs.Sync.Bits
import Rtos.Proofs.Sync.Ownership
import Rtos.Proofs.Sync.Wakeup

/-!
# Calls that give up

A call that gives up says so truthfully. It was let through the lock at that very moment,
also if its time had run out long before, and what it asked for could not be had; so a call
whose time has run out and that finds what it asked for completes. A poll reports that the
resource is not there, a bounded wait that its time has run out, and a wait without limit
gives up never. Nothing is left behind: the object is as it was, and so are the other calls
that wait.

This holds of every object whose calls with a timeout wait exactly if what they ask for is
withheld and otherwise succeed (`Timed`).
-/

namespace Rtos

namespace Sync

section Runs

variable {Party Object Request Condition Result : Type}

/-- How the calls with a timeout pass through the lock of an object. -/
structure Timed (pass : Object → Request → Pass Object Condition Result)
    (refusal? : Request → Option Error) (timeout? : Request → Option Timeout)
    (withheld : Object → Request → Prop) : Prop where
  waits : ∀ {object request condition timeout}, pass object request = .wait condition timeout →
    timeout? request = some timeout ∧ withheld object request
  finishes : ∀ {object request timeout result next signals}, timeout? request = some timeout →
    pass object request = .finish result next signals → ∃ value, result = .ok value
  /-- What a bounded wait asks for does not become a mistake while it waits. -/
  lasts : ∀ {object request timeout other result next signals},
    timeout? request = some timeout → timeout.isForever = false →
    (∀ fault, pass object request ≠ .abort fault) →
    pass object other = .finish result next signals →
      ∀ fault, pass next request ≠ .abort fault
  refuses : ∀ {request error}, refusal? request = some error →
    error ≠ .resource ∧ error ≠ .timeout

/-- A call that waits has the timeout it came with, which is not zero. -/
structure Patient (pass : Object → Request → Pass Object Condition Result)
    (timeout? : Request → Option Timeout) (object : Object)
    (waiter : Waiter Party Request Condition) : Prop where
  timed : timeout? waiter.request = some waiter.timeout
  nonzero : waiter.timeout.isPoll = false
  sound : waiter.timeout.isForever = false →
    ∀ fault, pass object waiter.request ≠ .abort fault

variable [DecidableEq Party] [DecidableEq Condition]
  {pass : Object → Request → Pass Object Condition Result} {refusal? : Request → Option Error}
  {timeout? : Request → Option Timeout} {withheld : Object → Request → Prop}
  {run later : Run Party Object Request Condition Result}

/-- What a run tells of an action in which a call gives up, and of calls whose time runs out. -/
structure Honest (pass : Object → Request → Pass Object Condition Result)
    (refusal? : Request → Option Error) (timeout? : Request → Option Timeout)
    (withheld : Object → Request → Prop) (run : Run Party Object Request Condition Result) :
    Prop where
  /-- A call that fails for want of a resource or of time could not complete, and the action
  in which it fails changes neither the object nor the other calls that wait. -/
  gaveUp : ∀ (action : Action Party Request) (party : Party) (request : Request)
      (timeout : Timeout) (error : Error), timeout? request = some timeout →
    error = .resource ∨ error = .timeout →
    (run.act pass refusal? action).finished =
        run.finished ++ [⟨party, request, .error error⟩] →
      withheld run.monitor.object request ∧
        (run.act pass refusal? action).monitor.object = run.monitor.object ∧
        (∀ waiter : Waiter Party Request Condition, waiter.party ≠ party →
          (waiter ∈ (run.act pass refusal? action).monitor.waiters ↔
            waiter ∈ run.monitor.waiters)) ∧
        (error = .resource ∧ timeout.isPoll = true ∨
          error = .timeout ∧ timeout.isPoll = false ∧ timeout.isForever = false)
  /-- A call with a zero timeout is not among those that wait. -/
  nonzero : ∀ waiter ∈ run.monitor.waiters,
    ∃ timeout, timeout? waiter.request = some timeout ∧ timeout.isPoll = false
  /-- A call whose time runs out once it can complete succeeds. -/
  inTime : ∀ (party : Party) (request : Request) (favourite : Option Party)
      (progress : Progress Result), run.asked party = some request →
    ¬ withheld run.monitor.object request →
    run.answer? pass refusal? (.event (.expire party favourite)) = some (party, progress) →
      ∃ value, progress = .finished (.ok value)

/-! ## The calls that wait -/

omit [DecidableEq Party] [DecidableEq Condition] in
theorem Patient.of_finish (timed : Timed pass refusal? timeout? withheld) {object next : Object}
    {other : Request} {result : Except Error Result} {signals : List (Signal Condition)}
    {waiter : Waiter Party Request Condition} (patient : Patient pass timeout? object waiter)
    (passed : pass object other = .finish result next signals) :
    Patient pass timeout? next waiter where
  timed := patient.timed
  nonzero := patient.nonzero
  sound bounded := timed.lasts patient.timed bounded (patient.sound bounded) passed

theorem Timed.patient_step (timed : Timed pass refusal? timeout? withheld)
    {event : Event Party Request} (moved : run.Step pass event later)
    (patient : ∀ waiter ∈ run.monitor.waiters,
      Patient pass timeout? run.monitor.object waiter) :
    ∀ waiter ∈ later.monitor.waiters, Patient pass timeout? later.monitor.object waiter := by
  cases moved with
  | idle => exact patient
  | moved party request expired others next progress admitted passed =>
  intro waiter present
  cases passed with
  | finished result object signals favourite passed =>
      rcases (awakened_deliverAll favourite signals others).exists_of_mem present with
        ⟨earlier, waited, same⟩
      have before := (patient earlier (admitted.mem_waiters waited)).of_finish timed passed
      rcases same with rfl | rfl
      · exact before
      · exact ⟨before.timed, before.nonzero, before.sound⟩
  | gaveUp condition timeout passed spent =>
      exact patient waiter (admitted.mem_waiters present)
  | parked condition timeout passed lasting =>
      rcases List.mem_append.mp present with waited | arrived
      · exact patient waiter (admitted.mem_waiters waited)
      · rw [List.mem_singleton] at arrived
        subst arrived
        refine ⟨(timed.waits passed).1, lasting.1, ?_⟩
        simp [passed]
  | aborted fault passed => exact patient waiter (admitted.mem_waiters present)

theorem Timed.patient_after (timed : Timed pass refusal? timeout? withheld) (object : Object)
    (actions : List (Action Party Request)) :
    let run := (Run.start object).afterActions pass refusal? actions
    ∀ waiter ∈ run.monitor.waiters, Patient pass timeout? run.monitor.object waiter := by
  apply Run.Tracked.actions_induction
    (fun run => ∀ waiter ∈ run.monitor.waiters, Patient pass timeout? run.monitor.object waiter)
  · intro run event later patient moved
    exact timed.patient_step moved patient
  · intro run party request error patient
    exact patient
  · exact Run.Tracked.start object
  · simp [Run.start]

/-! ## The calls that give up -/

variable (pass refusal?) in
/-- An action leaves a run as it is, refuses a call, or is an event. -/
theorem Run.Tracked.act_cases (tracked : run.Tracked) (action : Action Party Request) :
    run.act pass refusal? action = run ∨
      (∃ party request error, refusal? request = some error ∧
        run.act pass refusal? action = run.refuse party request error) ∨
      ∃ event, run.Step pass event (run.act pass refusal? action) := by
  cases action with
  | event event => exact .inr (.inr ⟨event, tracked.next_step event⟩)
  | interrupt party request favourite =>
      simp only [Run.act]
      split
      · rename_i error refusal
        split
        · exact .inl rfl
        · exact .inr (.inl ⟨party, request, error, refusal, rfl⟩)
      · exact .inr (.inr ⟨_, tracked.next_step (.call party request favourite)⟩)

omit [DecidableEq Party] [DecidableEq Condition] in
/-- Besides the party of a call that is let through the lock, the same parties wait. -/
theorem Monitor.Admits.mem_iff {monitor : Monitor Party Object Request Condition}
    {event : Event Party Request} {party : Party} {request : Request} {expired : Bool}
    {others : List (Waiter Party Request Condition)}
    (admitted : monitor.Admits event party request expired others)
    {waiter : Waiter Party Request Condition} (other : waiter.party ≠ party) :
    waiter ∈ others ↔ waiter ∈ monitor.waiters := by
  refine ⟨admitted.mem_waiters, ?_⟩
  intro present
  cases admitted with
  | call party request favourite free => exact present
  | resume own others favourite woken split =>
      rcases List.mem_cons.mp (split.mem_iff.mp present) with rfl | waits
      · exact absurd rfl other
      · exact waits
  | expire own others favourite parked bounded split =>
      rcases List.mem_cons.mp (split.mem_iff.mp present) with rfl | waits
      · exact absurd rfl other
      · exact waits

omit [DecidableEq Party] [DecidableEq Condition] in
/-- A call whose time has run out came with a bounded timeout. -/
theorem Monitor.Admits.bounded {monitor : Monitor Party Object Request Condition}
    {event : Event Party Request} {party : Party} {request : Request}
    {others : List (Waiter Party Request Condition)} {timeout : Timeout}
    (admitted : monitor.Admits event party request true others)
    (patient : ∀ waiter ∈ monitor.waiters, Patient pass timeout? monitor.object waiter)
    (own : timeout? request = some timeout) :
    timeout.isPoll = false ∧ timeout.isForever = false := by
  cases admitted with
  | expire waiter others favourite parked bounded split =>
      have waited := patient waiter (split.mem_iff.mpr List.mem_cons_self)
      rw [waited.timed, Option.some.injEq] at own
      subst own
      exact ⟨waited.nonzero, bounded⟩

theorem Timed.honest (timed : Timed pass refusal? timeout? withheld) (tracked : run.Tracked)
    (patient : ∀ waiter ∈ run.monitor.waiters,
      Patient pass timeout? run.monitor.object waiter) :
    Honest pass refusal? timeout? withheld run where
  gaveUp := by
    intro action party request timeout error own want finished
    rcases tracked.act_cases pass refusal? action with
      idle | ⟨refusedParty, refusedRequest, refusal, refused, acted⟩ | ⟨event, moved⟩
    · simp [idle] at finished
    · simp only [acted, Run.refuse, List.append_cancel_left_eq, List.cons.injEq,
        Outcome.mk.injEq, Except.error.injEq] at finished
      rcases finished.1 with ⟨rfl, rfl, rfl⟩
      rcases timed.refuses refused with ⟨notResource, notTimeout⟩
      rcases want with rfl | rfl
      · exact absurd rfl notResource
      · exact absurd rfl notTimeout
    generalize run.act pass refusal? action = later at finished moved
    cases moved with
    | idle => simp at finished
    | moved party' request' expired others next progress admitted passed =>
    cases passed with
    | parked condition timeout passed lasting => simp [Progress.outcome?] at finished
    | aborted fault passed => simp [Progress.outcome?] at finished
    | finished result object signals favourite passed =>
        simp only [Progress.outcome?, Option.toList_some, List.append_cancel_left_eq,
          List.cons.injEq, Outcome.mk.injEq] at finished
        rcases finished.1 with ⟨rfl, rfl, rfl⟩
        rcases timed.finishes own passed with ⟨value, success⟩
        cases success
    | gaveUp condition timeout' passed spent =>
        simp only [Progress.outcome?, Option.toList_some, List.append_cancel_left_eq,
          List.cons.injEq, Outcome.mk.injEq, Except.error.injEq] at finished
        rcases finished.1 with ⟨rfl, rfl, rfl⟩
        rcases timed.waits passed with ⟨asked, unavailable⟩
        rw [own, Option.some.injEq] at asked
        subst asked
        refine ⟨unavailable, rfl, fun waiter other => admitted.mem_iff other, ?_⟩
        rcases spent with poll | rfl
        · exact .inl ⟨by simp [Timeout.expiredError, poll], poll⟩
        · have bounded := admitted.bounded patient own
          exact .inr ⟨by simp [Timeout.expiredError, bounded.1], bounded⟩
  nonzero := by
    intro waiter present
    have waits := patient waiter present
    exact ⟨waiter.timeout, waits.timed, waits.nonzero⟩
  inTime := by
    intro party request favourite progress asked available answered
    have moved := run.monitor.step_transition pass (.expire party favourite)
    simp only [Run.answer?] at answered
    rw [answered] at moved
    generalize (run.monitor.step pass (.expire party favourite)).1 = next at moved
    cases moved with
    | moved admitted passed =>
    cases admitted with
    | expire waiter others favourite parked bounded split =>
    have present := split.mem_iff.mpr List.mem_cons_self
    have waits := patient waiter present
    have same := tracked.asked waiter present
    rw [asked, Option.some.injEq] at same
    subst same
    cases passed with
    | finished result object signals favourite passed =>
        rcases timed.finishes waits.timed passed with ⟨value, rfl⟩
        exact ⟨value, rfl⟩
    | gaveUp condition timeout passed spent => exact absurd (timed.waits passed).2 available
    | parked condition timeout passed lasting => exact absurd (timed.waits passed).2 available
    | aborted fault passed => exact absurd passed (waits.sound bounded fault)

theorem Timed.honest_after (timed : Timed pass refusal? timeout? withheld) (object : Object)
    (actions : List (Action Party Request)) :
    Honest pass refusal? timeout? withheld
      ((Run.start object).afterActions pass refusal? actions) :=
  timed.honest ((Run.Tracked.start object).afterActions actions)
    (timed.patient_after object actions)

end Runs

/-! ## The four primitives -/

namespace Mutex

/-- The timeout of an acquire. -/
def Request.timeout? : Request → Option Timeout
  | acquire _ timeout => some timeout
  | release _ => none

/-- Whether a mutex cannot be had: it has an owner, and not one that may acquire it again. -/
def Withheld (mutex : Mutex) : Request → Prop
  | .acquire caller _ =>
      ∃ owner, mutex.owner = some owner ∧ (owner = caller → mutex.kind = .normal)
  | .release _ => False

theorem timed : Timed pass Request.refusal? Request.timeout? Withheld where
  waits {mutex request condition timeout} passed := by
    have done := mutex.does request
    rw [passed] at done
    cases done with
    | waits caller owner _ owned own => exact ⟨rfl, owner, owned, fun same => (own same).1⟩
  finishes {mutex request timeout result next signals} own passed := by
    have done := mutex.does request
    rw [passed] at done
    cases done with
    | acquired caller _ free => exact ⟨(), rfl⟩
    | nested caller _ own kind => exact ⟨(), rfl⟩
    | freed caller own last => exact ⟨(), rfl⟩
    | unnested caller own deep => exact ⟨(), rfl⟩
    | refused caller other => cases own
  lasts {mutex request timeout other result next signals} own bounded sound passed fault abort := by
    have done := next.does request
    rw [abort] at done
    cases done with
    | deadlocked caller owned kind =>
        cases own
        cases bounded
  refuses {request error} refused := by
    cases request <;> cases refused <;> simp

end Mutex

namespace Semaphore

/-- The timeout of an acquire. -/
def Request.timeout? : Request → Option Timeout
  | acquire timeout => some timeout
  | release => none

theorem timed : Timed pass Request.refusal? Request.timeout? Blocks where
  waits {semaphore request condition timeout} passed := by
    have done := semaphore.does request
    rw [passed] at done
    cases done with
    | waits _ none => exact ⟨rfl, none⟩
  finishes {semaphore request timeout result next signals} own passed := by
    have done := semaphore.does request
    rw [passed] at done
    cases done with
    | acquired _ token => exact ⟨(), rfl⟩
    | released room => exact ⟨(), rfl⟩
    | refused full => cases own
  lasts {semaphore request timeout other result next signals} own bounded sound passed fault
      abort := by
    have done := next.does request
    rw [abort] at done
    cases done
  refuses {request error} refused := by
    cases request with
    | acquire timeout =>
        simp only [Request.refusal?] at refused
        split at refused <;> cases refused
        simp
    | release => cases refused

end Semaphore

namespace Queue

variable {Item : Type}

/-- The timeout of a put or a get. -/
def Request.timeout? : Request Item → Option Timeout
  | put _ timeout => some timeout
  | get timeout => some timeout
  | reset => none

/-- Whether there is no room for an item, or no item. -/
def Withheld (queue : Queue Item) : Request Item → Prop
  | .put _ _ => queue.space = 0
  | .get _ => queue.count = 0
  | .reset => False

theorem timed : @Timed (Queue Item) (Request Item) Condition (Result Item) pass
    Request.refusal? Request.timeout? Withheld where
  waits {queue request condition timeout} passed := by
    have done := queue.does request
    rw [passed] at done
    cases done with
    | full item _ full => exact ⟨rfl, Nat.sub_eq_zero_of_le full⟩
    | empty _ empty => exact ⟨rfl, by simp [Withheld, count, empty]⟩
  finishes {queue request timeout result next signals} own passed := by
    have done := queue.does request
    rw [passed] at done
    cases done with
    | stored item _ room => exact ⟨_, rfl⟩
    | taken item rest _ front => exact ⟨_, rfl⟩
    | reset => cases own
  lasts {queue request timeout other result next signals} own bounded sound passed fault
      abort := by
    have done := next.does request
    rw [abort] at done
    cases done
  refuses {request error} refused := by
    cases request with
    | put item timeout =>
        simp only [Request.refusal?] at refused
        split at refused <;> cases refused
        simp
    | get timeout =>
        simp only [Request.refusal?] at refused
        split at refused <;> cases refused
        simp
    | reset =>
        cases refused
        simp

end Queue

namespace FlagWord

/-- The timeout of a wait. -/
def Request.timeout? : Request → Option Timeout
  | wait _ _ _ timeout => some timeout
  | _ => none

theorem timed (owner : FlagOwner) : Timed pass (refusal? owner) Request.timeout? Blocks where
  waits {word request condition timeout} passed := by
    have done := word.does request
    rw [passed] at done
    cases done with
    | waits mask mode clear _ valid unsatisfied => exact ⟨rfl, unsatisfied⟩
  finishes {word request timeout result next signals} own passed := by
    have done := word.does request
    rw [passed] at done
    cases done <;> exact ⟨_, rfl⟩
  lasts {word request timeout other result next signals} own bounded sound passed fault
      abort := by
    have done := next.does request
    rw [abort] at done
    cases done with
    | invalid _ invalid =>
        rw [valid_of_finish passed] at invalid
        exact sound _ (if_neg invalid)
  refuses {request error} refused := by
    cases owner <;> cases request <;> cases refused <;> simp

end FlagWord

/--
Whatever has happened to a mutex, a semaphore, a queue or a flag word: a call gives up only
if it cannot complete at that moment, with the error that belongs to its timeout, and it
leaves everything as it was; no poll waits; and a call that can complete when its time runs
out does so.
-/
theorem honest_after_actions {Party Item : Type} [DecidableEq Party] :
    (∀ (mutex : Mutex) (actions : List (Action Party Mutex.Request)),
      Honest Mutex.pass Mutex.Request.refusal? Mutex.Request.timeout? Mutex.Withheld
        ((Run.start mutex).afterActions Mutex.pass Mutex.Request.refusal? actions)) ∧
    (∀ (semaphore : Semaphore) (actions : List (Action Party Semaphore.Request)),
      Honest Semaphore.pass Semaphore.Request.refusal? Semaphore.Request.timeout?
        Semaphore.Blocks
        ((Run.start semaphore).afterActions Semaphore.pass Semaphore.Request.refusal?
          actions)) ∧
    (∀ (queue : Queue Item) (actions : List (Action Party (Queue.Request Item))),
      Honest Queue.pass Queue.Request.refusal? Queue.Request.timeout? Queue.Withheld
        ((Run.start queue).afterActions Queue.pass Queue.Request.refusal? actions)) ∧
    ∀ (owner : FlagOwner) (word : FlagWord) (actions : List (Action Party FlagWord.Request)),
      Honest FlagWord.pass (FlagWord.refusal? owner) FlagWord.Request.timeout? FlagWord.Blocks
        ((Run.start word).afterActions FlagWord.pass (FlagWord.refusal? owner) actions) := by
  refine ⟨?_, ?_, ?_, ?_⟩
  · intro mutex actions
    exact Mutex.timed.honest_after mutex actions
  · intro semaphore actions
    exact Semaphore.timed.honest_after semaphore actions
  · intro queue actions
    exact Queue.timed.honest_after queue actions
  · intro owner word actions
    exact (FlagWord.timed owner).honest_after word actions

/-- The second of two calls takes the token that was given back to the first one as its time
runs out; the first one comes too late, and its own time runs out. -/
theorem honest_after_contention :
    let request : Semaphore.Request := .acquire (.ofMilliseconds 5)
    let began : List (Action Nat Semaphore.Request) := [.event (.call 1 request none),
      .event (.call 2 request none), .event (.call 3 .release none)]
    let after := (Run.start (Semaphore.mk 1 0)).afterActions Semaphore.pass
      Semaphore.Request.refusal?
    let run := after began
    let later := after (began ++ [.event (.expire 2 none), .event (.resume 1 none)])
    let last := later.act Semaphore.pass Semaphore.Request.refusal? (.event (.expire 1 none))
    (∃ value, run.answer? Semaphore.pass Semaphore.Request.refusal? (.event (.expire 2 none)) =
        some (2, .finished (.ok value))) ∧
      last.finished = later.finished ++ [⟨1, request, .error .timeout⟩] ∧
      later.monitor.object.Blocks request ∧ last.monitor.object = later.monitor.object := by
  intro request began after run later last
  rcases @honest_after_actions Nat Nat _ with ⟨_, ofSemaphore, _⟩
  have honest : Honest Semaphore.pass Semaphore.Request.refusal? Semaphore.Request.timeout?
      Semaphore.Blocks run := ofSemaphore ⟨1, 0⟩ began
  have honestLater : Honest Semaphore.pass Semaphore.Request.refusal?
      Semaphore.Request.timeout? Semaphore.Blocks later := ofSemaphore ⟨1, 0⟩ _
  have answered : run.answer? Semaphore.pass Semaphore.Request.refusal?
      (.event (.expire 2 none)) = some (2, .finished (.ok ())) := rfl
  have token : run.monitor.object.count = 1 := rfl
  have available : ¬ run.monitor.object.Blocks request := by
    simp [Semaphore.Blocks, request, token]
  have gaveUp : last.finished = later.finished ++ [⟨1, request, .error .timeout⟩] := rfl
  rcases honest.inTime 2 request none _ rfl available answered with ⟨value, same⟩
  rcases honestLater.gaveUp (.event (.expire 1 none)) 1 request (.ofMilliseconds 5) .timeout rfl
    (.inr rfl) gaveUp with ⟨blocked, unchanged, _⟩
  exact ⟨⟨value, same ▸ answered⟩, gaveUp, blocked, unchanged⟩

end Sync

end Rtos
