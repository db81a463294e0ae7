import Rtos.Proofs.Sync.Run

/-!
# What actions change

Seen from outside, an action does two things: it may change the object, and it may bring a
call to its end. Both are decided at once. A call that finishes leaves the object as its
pass through the lock says; one that is refused in interrupt context or gives up leaves it
as it was, and so does an action in which no call finishes.

A run is a sequence of such changes. What is said about the object and the calls that have
finished since some moment is proved from one change, whoever waits in between.
-/

namespace Rtos

namespace Sync

variable {Party Object Request Condition Result : Type}

/-- What an action makes of an object, and the call that finishes in it. -/
inductive Change (pass : Object → Request → Pass Object Condition Result)
    (refusal? : Request → Option Error) (object : Object) :
    Object → Option (Outcome Party Request Result) → Prop where
  /-- No call finishes. -/
  | quiet : Change pass refusal? object object none
  | refused (party : Party) (request : Request) (error : Error)
      (refusal : refusal? request = some error) :
      Change pass refusal? object object (some ⟨party, request, .error error⟩)
  | gaveUp (party : Party) (request : Request) (condition : Condition) (timeout : Timeout)
      (passed : pass object request = .wait condition timeout) :
      Change pass refusal? object object (some ⟨party, request, .error timeout.expiredError⟩)
  | finished (party : Party) (request : Request) (result : Except Error Result)
      (next : Object) (signals : List (Signal Condition))
      (passed : pass object request = .finish result next signals) :
      Change pass refusal? object next (some ⟨party, request, result⟩)

namespace Run

variable [DecidableEq Party] [DecidableEq Condition]
  {pass : Object → Request → Pass Object Condition Result} {refusal? : Request → Option Error}
  {run : Run Party Object Request Condition Result}

theorem afterActions_append (before since : List (Action Party Request)) :
    run.afterActions pass refusal? (before ++ since) =
      (run.afterActions pass refusal? before).afterActions pass refusal? since :=
  List.foldl_append

omit [DecidableEq Party] [DecidableEq Condition] in
theorem Tracked.refuse (tracked : run.Tracked) (party : Party) (request : Request)
    (error : Error) : (run.refuse party request error).Tracked :=
  ⟨tracked.asked, tracked.distinct⟩

theorem Tracked.act (tracked : run.Tracked) (action : Action Party Request) :
    (run.act pass refusal? action).Tracked := by
  cases action with
  | event event => exact tracked.next event
  | interrupt party request favourite =>
      simp only [Run.act]
      split
      · split
        · exact tracked
        · exact tracked.refuse party request _
      · exact tracked.next (.call party request favourite)

theorem Tracked.afterActions (tracked : run.Tracked) (actions : List (Action Party Request)) :
    (run.afterActions pass refusal? actions).Tracked := by
  induction actions generalizing run with
  | nil => exact tracked
  | cons action actions ih => exact ih (tracked.act action)

theorem Step.change {event : Event Party Request}
    {later : Run Party Object Request Condition Result} (moved : run.Step pass event later) :
    ∃ call?, later.finished = run.finished ++ call?.toList ∧
      Change pass refusal? run.monitor.object later.monitor.object call? := by
  cases moved with
  | idle => exact ⟨none, (List.append_nil _).symm, .quiet⟩
  | moved party request expired others next progress admitted passed =>
      refine ⟨_, rfl, ?_⟩
      cases passed with
      | finished result next signals favourite passed =>
          exact .finished party request result next signals passed
      | gaveUp condition timeout passed spent =>
          exact .gaveUp party request condition timeout passed
      | parked condition timeout passed patient => exact .quiet
      | aborted fault passed => exact .quiet

/-- Every action changes the object and finishes a call in one of the ways told above. -/
theorem Tracked.act_change (tracked : run.Tracked) (action : Action Party Request) :
    ∃ call?, (run.act pass refusal? action).finished = run.finished ++ call?.toList ∧
      Change pass refusal? run.monitor.object
        (run.act pass refusal? action).monitor.object call? := by
  cases action with
  | event event => exact (tracked.next_step event).change
  | interrupt party request favourite =>
      simp only [Run.act]
      split
      · rename_i error refusal
        split
        · exact ⟨none, (List.append_nil _).symm, .quiet⟩
        · exact ⟨some _, rfl, .refused party request error refusal⟩
      · exact (tracked.next_step _).change

/-- What every change keeps of the object and of the calls that have finished since some
moment, every run keeps from that moment on. -/
theorem Tracked.change_induction
    (Holds : Object → List (Outcome Party Request Result) → Prop)
    (kept : ∀ object next calls call?, Holds object calls →
      Change pass refusal? object next call? → Holds next (calls ++ call?.toList))
    (tracked : run.Tracked) (holds : Holds run.monitor.object [])
    (actions : List (Action Party Request)) :
    ∃ calls, (run.afterActions pass refusal? actions).finished = run.finished ++ calls ∧
      Holds (run.afterActions pass refusal? actions).monitor.object calls := by
  suffices general : ∀ (later : Run Party Object Request Condition Result) calls,
      later.Tracked → later.finished = run.finished ++ calls →
        Holds later.monitor.object calls →
        ∃ all, (later.afterActions pass refusal? actions).finished = run.finished ++ all ∧
          Holds (later.afterActions pass refusal? actions).monitor.object all from
    general run [] tracked (List.append_nil _).symm holds
  clear tracked holds
  induction actions with
  | nil => exact fun later calls _ split holds => ⟨calls, split, holds⟩
  | cons action actions ih =>
      intro later calls tracked split holds
      have change : ∃ call?,
          (later.act pass refusal? action).finished = later.finished ++ call?.toList ∧
            Change pass refusal? later.monitor.object
              (later.act pass refusal? action).monitor.object call? :=
        tracked.act_change action
      rcases change with ⟨call?, finished, changed⟩
      refine ih (later.act pass refusal? action) (calls ++ call?.toList) (tracked.act action) ?_ ?_
      · rw [finished, split, List.append_assoc]
      · exact kept _ _ _ _ holds changed

/-- What each of some actions makes of the object: how it was before, and how it is after. -/
def changes (pass : Object → Request → Pass Object Condition Result)
    (refusal? : Request → Option Error) (run : Run Party Object Request Condition Result) :
    List (Action Party Request) → List (Object × Object)
  | [] => []
  | action :: actions =>
      let next := run.act pass refusal? action
      (run.monitor.object, next.monitor.object) :: next.changes pass refusal? actions

/-- What is answered at once to an action, and to whom. -/
def answer? (pass : Object → Request → Pass Object Condition Result)
    (refusal? : Request → Option Error) (run : Run Party Object Request Condition Result) :
    Action Party Request → Option (Party × Progress Result)
  | .event event => (run.monitor.step pass event).2
  | .interrupt party request favourite =>
      match refusal? request with
      | some error =>
          if run.monitor.isWaiting party then none else some (party, .finished (.error error))
      | none => (run.monitor.step pass (.call party request favourite)).2

end Run

namespace Monitor

variable [DecidableEq Party] [DecidableEq Condition]
  {pass : Object → Request → Pass Object Condition Result}
  {monitor : Monitor Party Object Request Condition} {party : Party} {request : Request}

theorem step_call_of_finish {result : Except Error Result} {next : Object}
    {signals : List (Signal Condition)} (free : monitor.isWaiting party = false)
    (passed : pass monitor.object request = .finish result next signals)
    (favourite : Option Party) :
    monitor.step pass (.call party request favourite) =
      (⟨next, Signal.deliverAll favourite signals monitor.waiters⟩,
        some (party, .finished result)) := by
  simp [step, free, call, attempt, passed]

theorem step_call_of_abort {fault : Fault} (free : monitor.isWaiting party = false)
    (passed : pass monitor.object request = .abort fault) (favourite : Option Party) :
    monitor.step pass (.call party request favourite) =
      (monitor, some (party, .aborted fault)) := by
  simp [step, free, call, attempt, passed]

end Monitor

/-- A call that arrives and can finish does so at once. -/
theorem Run.next_call_of_finish [DecidableEq Party] [DecidableEq Condition]
    {pass : Object → Request → Pass Object Condition Result}
    {run : Run Party Object Request Condition Result} {party : Party} {request : Request}
    {result : Except Error Result} {next : Object} {signals : List (Signal Condition)}
    (free : run.monitor.isWaiting party = false)
    (passed : pass run.monitor.object request = .finish result next signals)
    (favourite : Option Party) :
    (run.next pass (.call party request favourite)).finished =
        run.finished ++ [⟨party, request, result⟩] ∧
      (run.next pass (.call party request favourite)).monitor.object = next := by
  simp [Run.next, Monitor.step_call_of_finish free passed, askedAfter, outcome?,
    Progress.outcome?]

end Sync

end Rtos
