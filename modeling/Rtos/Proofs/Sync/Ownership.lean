import Rtos.Machine.Guard
import Rtos.Proofs.Sync.Calls
import Rtos.Proofs.Sync.Changes

/-!
# Ownership of mutexes

Who owns a mutex, and how often it has acquired it, can be told from the calls that have
finished: a thread is in its critical section as long as it has acquired the mutex more
often than it has released it, and the mutex is owned by the one thread of which this is
true. It is freed by the release that makes the two counts equal again, and by nothing else.

A lock is an acquire that leaves a guard, and dropping the guard is a release. In interrupt
context all of these are refused.
-/

namespace Rtos

namespace Sync

namespace Mutex

def Request.refusal? : Request → Option Error
  | acquire _ _ => some .wouldBlockInInterrupt
  | release _ => some .invalidInInterrupt

/-- How often a thread has acquired a mutex and not released it. -/
def depthOf (mutex : Mutex) (thread : ThreadId) : Nat :=
  if mutex.owner = some thread then mutex.depth else 0

variable {Party : Type}

/-- Whether a finished call is a successful acquire by a thread. -/
def acquiredBy (thread : ThreadId) (call : Outcome Party Request Unit) : Bool :=
  match call.request, call.result with
  | .acquire caller _, .ok _ => caller = thread
  | _, _ => false

/-- Whether a finished call is a successful release by a thread. -/
def releasedBy (thread : ThreadId) (call : Outcome Party Request Unit) : Bool :=
  match call.request, call.result with
  | .release caller, .ok _ => caller = thread
  | _, _ => false

/-- By the calls that have finished, a thread has more acquires than releases. -/
def Inside (calls : List (Outcome Party Request Unit)) (thread : ThreadId) : Prop :=
  calls.countP (releasedBy thread) < calls.countP (acquiredBy thread)

section Failures

variable (thread : ThreadId) (party : Party) (request : Request) (error : Error)

@[simp]
theorem acquiredBy_error : acquiredBy thread ⟨party, request, .error error⟩ = false := by
  cases request <;> rfl

@[simp]
theorem releasedBy_error : releasedBy thread ⟨party, request, .error error⟩ = false := by
  cases request <;> rfl

end Failures

section Successes

variable (thread caller : ThreadId) (party : Party) (timeout : Timeout)

@[simp]
theorem acquiredBy_acquire :
    acquiredBy thread ⟨party, .acquire caller timeout, .ok ()⟩ = decide (caller = thread) := rfl

@[simp]
theorem releasedBy_acquire :
    releasedBy thread ⟨party, .acquire caller timeout, .ok ()⟩ = false := rfl

@[simp]
theorem acquiredBy_release :
    acquiredBy thread ⟨party, .release caller, .ok ()⟩ = false := rfl

@[simp]
theorem releasedBy_release :
    releasedBy thread ⟨party, .release caller, .ok ()⟩ = decide (caller = thread) := rfl

end Successes

/-- A mutex of a kind whose owner and depth agree. -/
structure Consistent (kind : MutexKind) (mutex : Mutex) : Prop where
  kind_eq : mutex.kind = kind
  free_iff : mutex.owner = none ↔ mutex.depth = 0
  normal : kind = .normal → mutex.depth ≤ 1

/-- What an action may make of a mutex, given the call that finishes in it. -/
structure Lawful (mutex next : Mutex) (call? : Option (Outcome Party Request Unit)) :
    Prop where
  /-- Without a success nothing changes. -/
  unchanged : (∀ call ∈ call?, call.result ≠ .ok ()) → next = mutex
  /-- An acquire succeeds if the mutex is free, or recursive and the caller's already. -/
  acquired : ∀ call ∈ call?, ∀ thread, acquiredBy thread call →
    (mutex.owner = none ∨ mutex.kind = .recursive ∧ mutex.owner = some thread) ∧
      next.owner = some thread ∧ next.depth = mutex.depth + 1
  /-- A release by the owner takes one level back, and with the last one the ownership. -/
  released : ∀ call ∈ call?, ∀ thread, releasedBy thread call →
    mutex.owner = some thread ∧ next.depth + 1 = mutex.depth ∧
      next.owner = if next.depth = 0 then none else some thread
  /-- Nobody loses a mutex but by its own release of the only level. -/
  lost : ∀ thread, mutex.owner = some thread → next.owner ≠ some thread →
    next.owner = none ∧ mutex.depth = 1 ∧ ∃ call ∈ call?, releasedBy thread call

theorem Lawful.of_failure {mutex : Mutex} {call? : Option (Outcome Party Request Unit)}
    (failed : ∀ call ∈ call?, ∃ error, call.result = .error error) :
    Lawful mutex mutex call? where
  unchanged _ := rfl
  acquired := by
    rintro ⟨party, request, result⟩ finished thread success
    rcases failed _ finished with ⟨error, rfl⟩
    simp at success
  released := by
    rintro ⟨party, request, result⟩ finished thread success
    rcases failed _ finished with ⟨error, rfl⟩
    simp at success
  lost thread own kept := absurd own kept

variable {kind : MutexKind} {mutex next : Mutex}
  {call? : Option (Outcome Party Request Unit)}

theorem Consistent.depth_pos (consistent : mutex.Consistent kind) {thread : ThreadId}
    (own : mutex.owner = some thread) : 0 < mutex.depth := by
  apply Nat.pos_of_ne_zero
  intro free
  rw [consistent.free_iff.mpr free] at own
  contradiction

theorem Consistent.lawful (consistent : mutex.Consistent kind)
    (changed : Change pass Request.refusal? mutex next call?) : Lawful mutex next call? := by
  cases changed with
  | quiet => exact .of_failure (by simp)
  | refused party request error refusal => exact .of_failure (by simp)
  | gaveUp party request condition timeout passed => exact .of_failure (by simp)
  | finished party request result next signals passed =>
      have done := mutex.does request
      rw [passed] at done
      cases done with
      | acquired caller timeout free =>
          constructor
          · simp
          · simp [free, (consistent.free_iff.mp free)]
          · simp
          · simp [free]
      | nested caller timeout own kind =>
          constructor
          · simp
          · simp [own, kind]
          · simp
          · simp +contextual
      | freed caller own last =>
          have single := Nat.le_antisymm last (consistent.depth_pos own)
          constructor
          · simp
          · simp
          · simp [own, single]
          · simp [own, single]
      | unnested caller own deep =>
          constructor
          · simp
          · simp
          · simp [own]
            omega
          · simp +contextual
      | refused caller other => exact .of_failure (by simp)

theorem Consistent.change (consistent : mutex.Consistent kind)
    (changed : Change pass Request.refusal? mutex next call?) : next.Consistent kind := by
  cases changed with
  | quiet => exact consistent
  | refused party request error refusal => exact consistent
  | gaveUp party request condition timeout passed => exact consistent
  | finished party request result next signals passed =>
      have done := mutex.does request
      rw [passed] at done
      cases done with
      | acquired caller timeout free => exact ⟨consistent.kind_eq, by simp, by simp⟩
      | nested caller timeout own recursive =>
          refine ⟨consistent.kind_eq, by simp [own], ?_⟩
          intro normal
          rw [consistent.kind_eq, normal] at recursive
          contradiction
      | freed caller own last => exact ⟨consistent.kind_eq, by simp, by simp⟩
      | unnested caller own deep =>
          refine ⟨consistent.kind_eq, ?_, ?_⟩
          · simp [own]
            omega
          · intro normal
            have shallow := consistent.normal normal
            omega
      | refused caller other => exact consistent

/-- What a thread's depth changes by is told by the call that finishes. -/
theorem Consistent.balance (consistent : mutex.Consistent kind)
    (changed : Change pass Request.refusal? mutex next call?) (thread : ThreadId) :
    call?.toList.countP (acquiredBy thread) + mutex.depthOf thread =
      call?.toList.countP (releasedBy thread) + next.depthOf thread := by
  cases changed with
  | quiet => rfl
  | refused party request error refusal => simp
  | gaveUp party request condition timeout passed => simp
  | finished party request result next signals passed =>
      have done := mutex.does request
      rw [passed] at done
      cases done with
      | acquired caller timeout free => simp [depthOf, free, List.countP_singleton]
      | nested caller timeout own kind =>
          simp only [depthOf, own]
          by_cases same : caller = thread <;> simp [same, Nat.add_comm]
      | freed caller own last =>
          have single := Nat.le_antisymm last (consistent.depth_pos own)
          simp [depthOf, own, single, List.countP_singleton]
      | unnested caller own deep =>
          simp only [depthOf, own]
          by_cases same : caller = thread <;> simp [same]
          omega
      | refused caller other => simp

section Runs

variable [DecidableEq Party] {run : Run Party Mutex Request Condition Unit}

/-- From any moment on, a thread's depth and its releases make up for its acquires. -/
theorem Consistent.balance_after (consistent : run.monitor.object.Consistent kind)
    (tracked : run.Tracked) (actions : List (Action Party Request)) :
    ∃ calls,
      (run.afterActions pass Request.refusal? actions).finished = run.finished ++ calls ∧
      (run.afterActions pass Request.refusal? actions).monitor.object.Consistent kind ∧
      ∀ thread, calls.countP (acquiredBy thread) + run.monitor.object.depthOf thread =
        calls.countP (releasedBy thread) +
          (run.afterActions pass Request.refusal? actions).monitor.object.depthOf thread := by
  apply tracked.change_induction fun mutex calls => mutex.Consistent kind ∧
    ∀ thread, calls.countP (acquiredBy thread) + run.monitor.object.depthOf thread =
      calls.countP (releasedBy thread) + mutex.depthOf thread
  · rintro mutex next calls call? ⟨consistent, balanced⟩ changed
    refine ⟨consistent.change changed, fun thread => ?_⟩
    have before := balanced thread
    have change := consistent.balance changed thread
    simp only [List.countP_append]
    omega
  · exact ⟨consistent, fun thread => rfl⟩

theorem Consistent.start (kind : MutexKind) : Consistent kind { kind } :=
  ⟨rfl, by simp, by simp⟩

/-- A run whose mutex is consistent, and in which a thread's acquires are its releases and
the depth it has reached. -/
structure Orderly (kind : MutexKind) (run : Run Party Mutex Request Condition Unit) :
    Prop where
  tracked : run.Tracked
  consistent : run.monitor.object.Consistent kind
  balance : ∀ thread, run.finished.countP (acquiredBy thread) =
    run.finished.countP (releasedBy thread) + run.monitor.object.depthOf thread

theorem Orderly.after (kind : MutexKind) (actions : List (Action Party Request)) :
    Orderly kind ((Run.start { kind } : Run Party Mutex Request Condition Unit).afterActions
      pass Request.refusal? actions) := by
  rcases Consistent.balance_after (Consistent.start kind) (.start { kind }) actions with
    ⟨calls, finished, consistent, balanced⟩
  refine ⟨(Run.Tracked.start _).afterActions actions, consistent, ?_⟩
  intro thread
  rw [finished]
  simpa [Run.start, depthOf] using balanced thread

omit [DecidableEq Party] in
theorem Orderly.inside_iff (orderly : Orderly kind run) (thread : ThreadId) :
    Inside run.finished thread ↔ run.monitor.object.owner = some thread := by
  have balanced := orderly.balance thread
  unfold Inside
  by_cases own : run.monitor.object.owner = some thread
  · have deep := orderly.consistent.depth_pos own
    simp only [depthOf, own, if_true] at balanced
    simp only [own, iff_true]
    omega
  · simp only [depthOf, own, if_false] at balanced
    simp only [own, iff_false]
    omega

theorem next_release {party : Party} (free : run.monitor.isWaiting party = false)
    (thread : ThreadId) (favourite : Option Party) :
    (run.next pass (.call party (.release thread) favourite)).finished = run.finished ++
        [⟨party, .release thread,
          if run.monitor.object.owner = some thread then .ok () else .error .notOwned⟩] ∧
      (run.monitor.object.owner ≠ some thread →
        (run.next pass (.call party (.release thread) favourite)).monitor.object =
          run.monitor.object) := by
  have done := run.monitor.object.does (.release thread)
  generalize passed : run.monitor.object.pass (.release thread) = outcome at done
  cases done with
  | freed caller own last =>
      rcases run.next_call_of_finish free passed favourite with ⟨finished, _⟩
      exact ⟨by simp [finished, own], fun other => absurd own other⟩
  | unnested caller own deep =>
      rcases run.next_call_of_finish free passed favourite with ⟨finished, _⟩
      exact ⟨by simp [finished, own], fun other => absurd own other⟩
  | refused caller other =>
      rcases run.next_call_of_finish free passed favourite with ⟨finished, object⟩
      exact ⟨by simp [finished, other], fun _ => object⟩

/--
Critical sections never overlap. By the calls that have finished, at most one thread has
acquired the mutex more often than it has released it, and that thread is the owner; its
depth is the difference, counted from any moment at which the mutex was free. The mutex is
acquired while it is free or, if it is recursive, by its owner; only the owner releases it,
and the release that is the owner's last is the one that frees it.
-/
theorem critical_sections (kind : MutexKind) (before since : List (Action Party Request)) :
    let earlier := (Run.start { kind } :
      Run Party Mutex Request Condition Unit).afterActions pass Request.refusal? before
    let run := earlier.afterActions pass Request.refusal? since
    let mutex := run.monitor.object
    mutex.Consistent kind ∧
      (∃ calls, run.finished = earlier.finished ++ calls ∧
        (earlier.monitor.object.owner = none → ∀ thread,
          calls.countP (acquiredBy thread) =
            calls.countP (releasedBy thread) + mutex.depthOf thread)) ∧
      (∀ thread, Inside run.finished thread ↔ mutex.owner = some thread) ∧
      (∀ thread other, Inside run.finished thread → Inside run.finished other →
        thread = other) ∧
      (∀ action,
        let next := run.act pass Request.refusal? action
        ∃ call?, next.finished = run.finished ++ call?.toList ∧
          Lawful mutex next.monitor.object call? ∧
          ∀ call ∈ call?, ∀ thread, releasedBy thread call →
            (next.monitor.object.owner = none ↔ ¬Inside next.finished thread)) ∧
      (∀ party thread favourite, run.monitor.isWaiting party = false →
        let next := run.act pass Request.refusal?
          (.event (.call party (.release thread) favourite))
        next.finished = run.finished ++ [⟨party, .release thread,
            if mutex.owner = some thread then .ok () else .error .notOwned⟩] ∧
          (mutex.owner ≠ some thread → next.monitor.object = mutex)) := by
  intro earlier run mutex
  have orderly : Orderly kind run := by
    have whole := Orderly.after kind (before ++ since)
    rwa [Run.afterActions_append] at whole
  have first : Orderly kind earlier := .after kind before
  refine ⟨orderly.consistent, ?_, orderly.inside_iff, ?_, ?_, ?_⟩
  · rcases first.consistent.balance_after first.tracked since with
      ⟨calls, finished, _, balanced⟩
    refine ⟨calls, finished, fun free thread => ?_⟩
    simpa [depthOf, free] using balanced thread
  · intro thread other inside insideToo
    rw [orderly.inside_iff] at inside insideToo
    exact Option.some.inj (inside.symm.trans insideToo)
  · intro action next
    rcases orderly.tracked.act_change action with ⟨call?, finished, changed⟩
    have lawful := orderly.consistent.lawful changed
    -- Who is inside afterwards is told by the same counts, with one action more.
    have later : Orderly kind next := by
      have whole := Orderly.after kind (before ++ since ++ [action])
      rwa [Run.afterActions_append, Run.afterActions_append] at whole
    refine ⟨call?, finished, lawful, ?_⟩
    intro call present thread released
    rcases lawful.released call present thread released with ⟨_, _, owner⟩
    rw [later.inside_iff, owner]
    split <;> simp
  · intro party thread favourite free
    exact next_release free thread favourite

end Runs

/-- A recursive owner that has locked twice and released once, while another thread waits,
is still inside; its second release is answered at once and lets it out. -/
theorem critical_sections_nested :
    let earlier := (Run.start { kind := .recursive } :
      Run Nat Mutex Request Condition Unit).afterActions pass Request.refusal?
        [.event (.call 1 (.acquire ⟨1⟩ .forever) none),
          .event (.call 1 (.release ⟨1⟩) none)]
    let run := earlier.afterActions pass Request.refusal?
      [.event (.call 1 (.acquire ⟨1⟩ .forever) none),
        .event (.call 2 (.acquire ⟨2⟩ .forever) none),
        .event (.call 1 (.acquire ⟨1⟩ .poll) none), .interrupt 1 (.release ⟨1⟩) none,
        .event (.call 1 (.release ⟨1⟩) none)]
    let next := run.act pass Request.refusal? (.event (.call 1 (.release ⟨1⟩) none))
    earlier.monitor.object.owner = none ∧
      (∃ calls, run.finished = earlier.finished ++ calls ∧
        calls.countP (acquiredBy ⟨1⟩) = calls.countP (releasedBy ⟨1⟩) + 1) ∧
      Inside run.finished ⟨1⟩ ∧ ¬Inside run.finished ⟨2⟩ ∧
      run.monitor.isWaiting 1 = false ∧
      next.finished = run.finished ++ [⟨1, .release ⟨1⟩, .ok ()⟩] ∧
      next.monitor.object.owner = none ∧ ¬Inside next.finished ⟨1⟩ := by
  intro earlier run next
  rcases critical_sections .recursive
      [.event (.call 1 (.acquire ⟨1⟩ .forever) none), .event (.call 1 (.release ⟨1⟩) none)]
      [.event (.call 1 (.acquire ⟨1⟩ .forever) none),
        .event (.call 2 (.acquire ⟨2⟩ .forever) none),
        .event (.call 1 (.acquire ⟨1⟩ .poll) none), .interrupt 1 (.release ⟨1⟩) none,
        .event (.call 1 (.release ⟨1⟩) none)] with
    ⟨_, ⟨calls, split, balanced⟩, inside, _, _, releases⟩
  have free : earlier.monitor.object.owner = none := by decide
  have owned : run.monitor.object.owner = some ⟨1⟩ := by decide
  have idle : run.monitor.isWaiting 1 = false := by decide
  have freed : next.monitor.object.owner = none := by decide
  have first := (inside ⟨1⟩).mpr owned
  refine ⟨free, ⟨calls, split, balanced free ⟨1⟩⟩, first, ?_, idle, ?_, freed, ?_⟩
  · intro other
    have both : some (⟨1⟩ : ThreadId) = some ⟨2⟩ :=
      owned.symm.trans ((inside ⟨2⟩).mp other)
    exact absurd both (by decide)
  · rw [(releases 1 ⟨1⟩ none idle).1, if_pos owned]
  · unfold Inside
    decide

end Mutex

end Sync

/-! ## The calls that make the requests -/

namespace Machine

/-- What a call on a mutex requests of it for the thread of its caller. -/
def MutexCall.request? : MutexCall → Option (ThreadId → Sync.Mutex.Request)
  | acquire timeout => some (.acquire · timeout)
  | lock timeout => some (.acquire · timeout)
  | release => some .release
  | kind => none
  | owner => none

/-- Acquires, locks and releases are the requests of runs, and refused where these are. -/
theorem MutexCall.makes_request {call : MutexCall}
    {request : ThreadId → Sync.Mutex.Request} (asks : call.request? = some request)
    (machine : Machine) (attempt : Attempt) (id : ObjectId) :
    machine.callMutex attempt id call = machine.requestMutex attempt id request ∧
      ∀ thread, call.refusal? = (request thread).refusal?.map .failed := by
  cases call with
  | kind => contradiction
  | owner => contradiction
  | acquire timeout | lock timeout | release =>
      cases asks
      refine ⟨?_, fun thread => rfl⟩
      unfold callMutex requestMutex
      split <;> rfl

/-- A guard that is dropped requests a release, or is refused as a release is. -/
theorem releaseGuard_makes_release (machine : Machine) (label : Label) (id : ObjectId)
    (thread : ThreadId) :
    (machine.isInterrupted label = false →
      machine.releaseGuard label id = machine.requestMutex ⟨label, true⟩ id .release) ∧
    (machine.isInterrupted label = true → ∀ error,
      (Sync.Mutex.Request.release thread).refusal? = some error →
        machine.releaseGuard label id = { machine, reply := .failed error }) := by
  constructor
  · intro ordinary
    simp [releaseGuard, ordinary]
  · rintro interrupted error ⟨⟩
    simp [releaseGuard, interrupted]

end Machine

end Rtos
