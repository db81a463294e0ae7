import Mathlib.Logic.Function.Basic
import Rtos.Proofs.Sync.Waiters

/-!
# Runs of monitors

All that an event can do to a monitor: which call it lets through the lock, and what comes
of that call there. What is said about events is proved from these cases, so that the
operations of monitors are taken apart here and nowhere else.

A run also keeps what an observer knows who sees only the events and their answers: what
each party has asked for last, and the calls that have finished, in the order in which
they did.
-/

namespace Rtos

namespace Sync

variable {Party Object Request Condition Result : Type}

namespace Monitor

/--
The call that an event lets through the lock, whether its time has run out, and the calls
that wait besides it.
-/
inductive Admits (monitor : Monitor Party Object Request Condition) :
    Event Party Request → Party → Request → Bool →
      List (Waiter Party Request Condition) → Prop where
  | call (party : Party) (request : Request) (favourite : Option Party)
      (free : party ∉ monitor.waiters.map (·.party)) :
      Admits monitor (.call party request favourite) party request false monitor.waiters
  | resume (waiter : Waiter Party Request Condition)
      (others : List (Waiter Party Request Condition)) (favourite : Option Party)
      (woken : waiter.woken = true) (split : monitor.waiters.Perm (waiter :: others)) :
      Admits monitor (.resume waiter.party favourite) waiter.party waiter.request false others
  | expire (waiter : Waiter Party Request Condition)
      (others : List (Waiter Party Request Condition)) (favourite : Option Party)
      (parked : waiter.woken = false) (bounded : waiter.timeout.isForever = false)
      (split : monitor.waiters.Perm (waiter :: others)) :
      Admits monitor (.expire waiter.party favourite) waiter.party waiter.request true others

theorem Admits.mem_waiters {monitor : Monitor Party Object Request Condition}
    {event : Event Party Request} {party : Party} {request : Request} {expired : Bool}
    {others : List (Waiter Party Request Condition)}
    (admitted : monitor.Admits event party request expired others)
    {waiter : Waiter Party Request Condition} (waits : waiter ∈ others) :
    waiter ∈ monitor.waiters := by
  cases admitted with
  | call party request favourite free => exact waits
  | resume waiter others favourite woken split =>
      exact split.mem_iff.mpr (List.mem_cons_of_mem _ waits)
  | expire waiter others favourite parked bounded split =>
      exact split.mem_iff.mpr (List.mem_cons_of_mem _ waits)

variable [DecidableEq Party] [DecidableEq Condition]

/-- What comes of a call that passes through the lock of an object while others wait. -/
inductive Passes (pass : Object → Request → Pass Object Condition Result) (object : Object)
    (others : List (Waiter Party Request Condition)) (party : Party) (request : Request)
    (expired : Bool) : Monitor Party Object Request Condition → Progress Result → Prop where
  | finished (result : Except Error Result) (next : Object) (signals : List (Signal Condition))
      (favourite : Option Party) (passed : pass object request = .finish result next signals) :
      Passes pass object others party request expired
        ⟨next, Signal.deliverAll favourite signals others⟩ (.finished result)
  | gaveUp (condition : Condition) (timeout : Timeout)
      (passed : pass object request = .wait condition timeout)
      (spent : timeout.isPoll = true ∨ expired = true) :
      Passes pass object others party request expired ⟨object, others⟩
        (.finished (.error timeout.expiredError))
  | parked (condition : Condition) (timeout : Timeout)
      (passed : pass object request = .wait condition timeout)
      (patient : timeout.isPoll = false ∧ expired = false) :
      Passes pass object others party request expired
        ⟨object, others ++ [⟨party, request, condition, timeout, false⟩]⟩ .parked
  | aborted (fault : Fault) (passed : pass object request = .abort fault) :
      Passes pass object others party request expired ⟨object, others⟩ (.aborted fault)

/-- What an event does to a monitor, and the answer. -/
inductive Transition (pass : Object → Request → Pass Object Condition Result)
    (monitor : Monitor Party Object Request Condition) (event : Event Party Request) :
    Monitor Party Object Request Condition → Option (Party × Progress Result) → Prop where
  | idle : Transition pass monitor event monitor none
  | moved {party : Party} {request : Request} {expired : Bool}
      {others : List (Waiter Party Request Condition)}
      {next : Monitor Party Object Request Condition} {progress : Progress Result}
      (admitted : monitor.Admits event party request expired others)
      (passed : Passes pass monitor.object others party request expired next progress) :
      Transition pass monitor event next (some (party, progress))

variable (pass : Object → Request → Pass Object Condition Result)

theorem attempt_passes (object : Object) (others : List (Waiter Party Request Condition))
    (party : Party) (request : Request) (expired : Bool) (favourite : Option Party) :
    Passes pass object others party request expired
      (attempt pass ⟨object, others⟩ party request expired favourite).1
      (attempt pass ⟨object, others⟩ party request expired favourite).2 := by
  unfold attempt
  split
  · rename_i result next signals passed
    exact .finished result next signals favourite passed
  · rename_i condition timeout passed
    split
    · rename_i spent
      exact .gaveUp condition timeout passed (by simpa using spent)
    · rename_i patient
      exact .parked condition timeout passed (by simpa using patient)
  · rename_i fault passed
    exact .aborted fault passed

variable (monitor : Monitor Party Object Request Condition)

omit [DecidableEq Condition] in
theorem not_mem_of_not_isWaiting {party : Party} (idle : ¬monitor.isWaiting party = true) :
    party ∉ monitor.waiters.map (·.party) := by
  simpa [isWaiting] using idle

/-- Nothing can be done to a monitor but by a call that an event lets through the lock. -/
theorem step_transition (event : Event Party Request) :
    monitor.Transition pass event (monitor.step pass event).1 (monitor.step pass event).2 := by
  cases event with
  | call party request favourite =>
      simp only [step]
      split
      · exact .idle
      · rename_i idle
        exact .moved (.call party request favourite (monitor.not_mem_of_not_isWaiting idle))
          (attempt_passes pass _ _ _ _ _ favourite)
  | resume party favourite =>
      simp only [step, resume?, passAgain?]
      cases extracted : extractFirst?
          (fun waiter => waiter.woken && decide (waiter.party = party)) monitor.waiters with
      | none => exact .idle
      | some part =>
          rcases part with ⟨waiter, others⟩
          have own := test_of_extractFirst? extracted
          simp only [Bool.and_eq_true, decide_eq_true_eq] at own
          rcases own with ⟨woken, rfl⟩
          exact .moved (.resume waiter others favourite woken (perm_of_extractFirst? extracted))
            (attempt_passes pass _ _ _ _ _ favourite)
  | expire party favourite =>
      simp only [step, expire?, passAgain?]
      cases extracted : extractFirst?
          (fun waiter => !waiter.woken && !waiter.timeout.isForever &&
            decide (waiter.party = party)) monitor.waiters with
      | none => exact .idle
      | some part =>
          rcases part with ⟨waiter, others⟩
          have own := test_of_extractFirst? extracted
          simp only [Bool.and_eq_true, Bool.not_eq_true', decide_eq_true_eq] at own
          rcases own with ⟨⟨parked, bounded⟩, rfl⟩
          exact .moved
            (.expire waiter others favourite parked bounded (perm_of_extractFirst? extracted))
            (attempt_passes pass _ _ _ _ _ favourite)

/-- No woken call is about to resume. -/
def AtRest {Party Object Request Condition : Type}
    (monitor : Monitor Party Object Request Condition) : Prop :=
  ∀ waiter ∈ monitor.waiters, waiter.woken = false

end Monitor

/-- A call that has finished. -/
structure Outcome (Party Request Result : Type) where
  party : Party
  request : Request
  result : Except Error Result

def Progress.outcome? (party : Party) (request : Request) :
    Progress Result → Option (Outcome Party Request Result)
  | .finished result => some { party, request, result }
  | _ => none

/-- A monitor with what its parties have asked for last and the calls that have finished. -/
structure Run (Party Object Request Condition Result : Type) where
  monitor : Monitor Party Object Request Condition
  asked : Party → Option Request := fun _ => none
  /-- The calls that have finished, the earliest first. -/
  finished : List (Outcome Party Request Result) := []

namespace Run

def start (object : Object) : Run Party Object Request Condition Result :=
  { monitor := { object } }

variable [DecidableEq Party] [DecidableEq Condition]

/-- What the parties have asked for last, once an event has had an answer. -/
def askedAfter (asked : Party → Option Request) :
    Event Party Request → Option (Party × Progress Result) → Party → Option Request
  | .call party request _, some _ => Function.update asked party (some request)
  | _, _ => asked

def outcome? (asked : Party → Option Request) :
    Option (Party × Progress Result) → Option (Outcome Party Request Result)
  | some (party, progress) => (asked party).bind fun request => progress.outcome? party request
  | none => none

def next (pass : Object → Request → Pass Object Condition Result)
    (run : Run Party Object Request Condition Result) (event : Event Party Request) :
    Run Party Object Request Condition Result :=
  let (monitor, answer) := run.monitor.step pass event
  let asked := askedAfter run.asked event answer
  { monitor, asked, finished := run.finished ++ (outcome? asked answer).toList }

def after (pass : Object → Request → Pass Object Condition Result)
    (run : Run Party Object Request Condition Result) (events : List (Event Party Request)) :
    Run Party Object Request Condition Result :=
  events.foldl (next pass) run

variable {pass : Object → Request → Pass Object Condition Result}
  {run : Run Party Object Request Condition Result}

theorem after_induction (Holds : Run Party Object Request Condition Result → Prop)
    (kept : ∀ run event, Holds run → Holds (run.next pass event)) (holds : Holds run)
    (events : List (Event Party Request)) : Holds (run.after pass events) := by
  induction events generalizing run with
  | nil => exact holds
  | cons event events ih => exact ih (kept run event holds)

theorem after_monitor (Holds : Monitor Party Object Request Condition → Prop)
    (kept : ∀ monitor event later answer, Holds monitor →
      Monitor.Transition pass monitor event later answer → Holds later)
    (holds : Holds run.monitor) (events : List (Event Party Request)) :
    Holds (run.after pass events).monitor := by
  apply after_induction (fun run => Holds run.monitor) _ holds
  intro run event holds
  exact kept run.monitor event _ _ holds (run.monitor.step_transition pass event)

theorem after_object (Holds : Object → Prop)
    (kept : ∀ object request result next signals, Holds object →
      pass object request = .finish result next signals → Holds next)
    (holds : Holds run.monitor.object) (events : List (Event Party Request)) :
    Holds (run.after pass events).monitor.object := by
  apply after_monitor (fun monitor => Holds monitor.object) _ holds
  intro monitor event later answer holds moved
  cases moved with
  | idle => exact holds
  | moved admitted passed =>
      cases passed with
      | finished result next signals favourite passed =>
          exact kept _ _ result next signals holds passed
      | gaveUp condition timeout passed spent => exact holds
      | parked condition timeout passed patient => exact holds
      | aborted fault passed => exact holds

/-- The calls that wait are what their parties have asked for last. -/
structure Tracked (run : Run Party Object Request Condition Result) : Prop where
  asked : ∀ waiter ∈ run.monitor.waiters, run.asked waiter.party = some waiter.request
  distinct : (run.monitor.waiters.map (·.party)).Nodup

/-- What an event does to a run. -/
inductive Step (pass : Object → Request → Pass Object Condition Result)
    (run : Run Party Object Request Condition Result) (event : Event Party Request) :
    Run Party Object Request Condition Result → Prop where
  | idle : Step pass run event run
  | moved (party : Party) (request : Request) (expired : Bool)
      (others : List (Waiter Party Request Condition))
      (next : Monitor Party Object Request Condition) (progress : Progress Result)
      (admitted : run.monitor.Admits event party request expired others)
      (passed : Monitor.Passes pass run.monitor.object others party request expired next
        progress) :
      Step pass run event
        { monitor := next
          asked := Function.update run.asked party (some request)
          finished := run.finished ++ (progress.outcome? party request).toList }

omit [DecidableEq Condition] in
theorem Tracked.askedAfter_eq (tracked : run.Tracked) {event : Event Party Request}
    {party : Party} {request : Request} {expired : Bool}
    {others : List (Waiter Party Request Condition)}
    (admitted : run.monitor.Admits event party request expired others)
    (progress : Progress Result) :
    askedAfter run.asked event (some (party, progress)) =
      Function.update run.asked party (some request) := by
  cases admitted with
  | call party request favourite free => rfl
  | resume waiter others favourite woken split =>
      have own := tracked.asked waiter (split.mem_iff.mpr List.mem_cons_self)
      simp [askedAfter, ← own]
  | expire waiter others favourite parked bounded split =>
      have own := tracked.asked waiter (split.mem_iff.mpr List.mem_cons_self)
      simp [askedAfter, ← own]

theorem Tracked.next_step (tracked : run.Tracked) (event : Event Party Request) :
    run.Step pass event (run.next pass event) := by
  have moved := run.monitor.step_transition pass event
  unfold next
  generalize run.monitor.step pass event = answered at moved
  rcases answered with ⟨monitor, answer⟩
  cases moved with
  | idle =>
      have same : askedAfter run.asked event (none : Option (Party × Progress Result)) =
          run.asked := by cases event <;> rfl
      simp only [same, outcome?, Option.toList_none, List.append_nil]
      exact .idle
  | moved admitted passed =>
      simp only [tracked.askedAfter_eq admitted, outcome?, Function.update_self,
        Option.bind_some]
      exact .moved _ _ _ _ _ _ admitted passed

omit [DecidableEq Party] [DecidableEq Condition] in
/-- The party of a call that is let through the lock has no other call that waits. -/
theorem Tracked.distinct_others (tracked : run.Tracked) {event : Event Party Request}
    {party : Party} {request : Request} {expired : Bool}
    {others : List (Waiter Party Request Condition)}
    (admitted : run.monitor.Admits event party request expired others) :
    (party :: others.map (·.party)).Nodup := by
  cases admitted with
  | call party request favourite free => exact List.nodup_cons.mpr ⟨free, tracked.distinct⟩
  | resume waiter others favourite woken split =>
      exact (split.map _).nodup_iff.mp tracked.distinct
  | expire waiter others favourite parked bounded split =>
      exact (split.map _).nodup_iff.mp tracked.distinct

end Run

namespace Monitor.Passes

variable [DecidableEq Party] [DecidableEq Condition]
  {pass : Object → Request → Pass Object Condition Result} {object : Object}
  {others : List (Waiter Party Request Condition)} {party : Party} {request : Request}
  {expired : Bool} {next : Monitor Party Object Request Condition} {progress : Progress Result}
  (passed : Passes pass object others party request expired next progress)

include passed

/-- Nobody waits afterwards but those who waited before and the call, if it has to. -/
theorem of_mem {waiter : Waiter Party Request Condition} (present : waiter ∈ next.waiters) :
    (∃ earlier ∈ others, waiter = earlier ∨ waiter = earlier.wake) ∨
      ∃ condition timeout, pass object request = .wait condition timeout ∧
        waiter = ⟨party, request, condition, timeout, false⟩ := by
  cases passed with
  | finished result next signals favourite passed =>
      exact .inl ((awakened_deliverAll favourite signals others).exists_of_mem present)
  | gaveUp condition timeout passed spent => exact .inl ⟨waiter, present, .inl rfl⟩
  | parked condition timeout passed patient =>
      rcases List.mem_append.mp present with waited | arrived
      · exact .inl ⟨waiter, waited, .inl rfl⟩
      · exact .inr ⟨condition, timeout, passed, List.mem_singleton.mp arrived⟩
  | aborted fault passed => exact .inl ⟨waiter, present, .inl rfl⟩

theorem distinct (distinct : (party :: others.map (·.party)).Nodup) :
    (next.waiters.map (·.party)).Nodup := by
  have alone := (List.nodup_cons.mp distinct).2
  cases passed with
  | finished result next signals favourite passed =>
      rw [(awakened_deliverAll favourite signals others).parties]
      exact alone
  | gaveUp condition timeout passed spent => exact alone
  | parked condition timeout passed patient =>
      rw [List.map_append]
      exact (List.perm_append_singleton party _).nodup_iff.mpr distinct
  | aborted fault passed => exact alone

end Monitor.Passes

namespace Run

variable [DecidableEq Party] [DecidableEq Condition]
  {pass : Object → Request → Pass Object Condition Result}
  {run : Run Party Object Request Condition Result}

omit [DecidableEq Party] [DecidableEq Condition] in
theorem Tracked.start (object : Object) :
    (start object : Run Party Object Request Condition Result).Tracked := by
  constructor <;> simp [Run.start]

theorem Tracked.next (tracked : run.Tracked) (event : Event Party Request) :
    (run.next pass event).Tracked := by
  have moved : run.Step pass event (run.next pass event) := tracked.next_step event
  generalize run.next pass event = later at moved ⊢
  cases moved with
  | idle => exact tracked
  | moved party request expired others next progress admitted passed =>
      have distinct := tracked.distinct_others admitted
      refine ⟨?_, passed.distinct distinct⟩
      intro waiter present
      change Function.update run.asked party (some request) waiter.party = _
      rcases passed.of_mem present with
        ⟨earlier, waited, same⟩ | ⟨condition, timeout, _, rfl⟩
      · -- A call that waited before belongs to another party, which has asked for nothing since.
        have unchanged : waiter.party = earlier.party ∧ waiter.request = earlier.request := by
          rcases same with rfl | rfl <;> simp [Waiter.wake]
        have other : earlier.party ≠ party := by
          intro own
          exact (List.nodup_cons.mp distinct).1 (own ▸ List.mem_map_of_mem waited)
        rw [unchanged.1, unchanged.2, Function.update_of_ne other]
        exact tracked.asked earlier (admitted.mem_waiters waited)
      · exact Function.update_self ..

end Run

/-! ## Calls in interrupt context -/

/-- What happens to a monitor: an event, or a call that a party makes in interrupt context. -/
inductive Action (Party Request : Type) where
  | event (event : Event Party Request)
  | interrupt (party : Party) (request : Request) (favourite : Option Party)

namespace Run

variable [DecidableEq Party] [DecidableEq Condition]
  {pass : Object → Request → Pass Object Condition Result} {refusal? : Request → Option Error}
  {run : Run Party Object Request Condition Result}

/-- The run once a call has been refused before it reached the lock. -/
def refuse (run : Run Party Object Request Condition Result) (party : Party)
    (request : Request) (error : Error) : Run Party Object Request Condition Result :=
  { run with finished := run.finished ++ [⟨party, request, .error error⟩] }

/-- A call in interrupt context is refused, or it arrives as any other call does. -/
def act (pass : Object → Request → Pass Object Condition Result)
    (refusal? : Request → Option Error) (run : Run Party Object Request Condition Result) :
    Action Party Request → Run Party Object Request Condition Result
  | .event event => run.next pass event
  | .interrupt party request favourite =>
      match refusal? request with
      | some error =>
          if run.monitor.isWaiting party then run else run.refuse party request error
      | none => run.next pass (.call party request favourite)

def afterActions (pass : Object → Request → Pass Object Condition Result)
    (refusal? : Request → Option Error) (run : Run Party Object Request Condition Result)
    (actions : List (Action Party Request)) : Run Party Object Request Condition Result :=
  actions.foldl (act pass refusal?) run

/-- What every event keeps of a run whose waiting calls are tracked, and every refusal too,
a run keeps. -/
theorem Tracked.actions_induction (Holds : Run Party Object Request Condition Result → Prop)
    (kept : ∀ run event later, Holds run → run.Step pass event later → Holds later)
    (refused : ∀ (run : Run Party Object Request Condition Result) party request error,
      Holds run → Holds (run.refuse party request error))
    (tracked : run.Tracked) (holds : Holds run) (actions : List (Action Party Request)) :
    Holds (run.afterActions pass refusal? actions) := by
  induction actions generalizing run with
  | nil => exact holds
  | cons action actions ih =>
      have moved (event : Event Party Request) :
          (run.next pass event).Tracked ∧ Holds (run.next pass event) :=
        ⟨tracked.next event, kept run event _ holds (tracked.next_step event)⟩
      have acted : (run.act pass refusal? action).Tracked ∧
          Holds (run.act pass refusal? action) := by
        cases action with
        | event event => exact moved event
        | interrupt party request favourite =>
            simp only [act]
            split
            · split
              · exact ⟨tracked, holds⟩
              · refine ⟨⟨tracked.asked, tracked.distinct⟩, ?_⟩
                exact refused run party request _ holds
            · exact moved (.call party request favourite)
      exact ih acted.1 acted.2

end Run

end Sync

end Rtos
