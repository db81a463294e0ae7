import Mathlib.Data.List.Induction
import Rtos.Proofs.Machine.Frame
import Rtos.Proofs.Sync.Expiry
import Rtos.Proofs.Sync.Ownership

/-!
# Guards of mutexes

A thread takes levels of a mutex by hand, and then has to release them, or by locks, and then
has guards to drop. Its account tells the levels it has by hand, its guards, and the levels
of guards that are gone without having given theirs back. The depth that the thread has
reached is the sum of these (`Guarded.depth_eq`), as long as it releases nothing but what it
has by hand.

A guard that is dropped gives its level back, unless this is done in interrupt context. There
the release is refused, and as the guard is gone, nobody is left to give the level back: it
is lost, and the mutex stays with its owner.
-/

namespace Rtos

namespace Sync

namespace Mutex

/-- What a thread does with a mutex, by hand or with guards of its own. -/
inductive Use where
  | acquire (caller : ThreadId) (timeout : Timeout)
  /-- An acquire that leaves a guard if it succeeds. -/
  | lock (caller : ThreadId) (timeout : Timeout)
  | release (caller : ThreadId)
  /-- A release with which a guard is gone, whether or not it succeeds. -/
  | dropGuard (caller : ThreadId)
  deriving DecidableEq

namespace Use

/-- The thread that uses the mutex. -/
def caller : Use → ThreadId
  | acquire caller _ => caller
  | lock caller _ => caller
  | release caller => caller
  | dropGuard caller => caller

/-- What a use requests of the mutex. -/
def request : Use → Request
  | acquire caller timeout => .acquire caller timeout
  | lock caller timeout => .acquire caller timeout
  | release caller => .release caller
  | dropGuard caller => .release caller

def refusal? (use : Use) : Option Error :=
  use.request.refusal?

end Use

def passUse (mutex : Mutex) (use : Use) : Pass Mutex Condition Unit :=
  mutex.pass use.request

/-- A mutex that threads use, with the uses that have finished. -/
abbrev UseRun (Party : Type) :=
  Run Party Mutex Use Condition Unit

/-- What has become of a new mutex once some actions have been taken. -/
def useRun {Party : Type} [DecidableEq Party] (kind : MutexKind)
    (actions : List (Action Party Use)) : UseRun Party :=
  (Run.start { kind }).afterActions passUse Use.refusal? actions

/-! ## Accounts -/

/-- What a thread has of a mutex. -/
structure Account where
  /-- The levels that it has acquired by hand and not released. -/
  byHand : Nat := 0
  /-- The guards that it has and not dropped. -/
  guards : Nat := 0
  /-- The levels of guards that are gone and have not given them back. -/
  lost : Nat := 0
  deriving DecidableEq

namespace Account

/-- The levels of a thread. -/
def levels (account : Account) : Nat :=
  account.byHand + account.guards + account.lost

/-- The account once a use has had a result. -/
def after (account : Account) : Use → Except Error Unit → Account
  | .acquire _ _, .ok _ => { account with byHand := account.byHand + 1 }
  | .lock _ _, .ok _ => { account with guards := account.guards + 1 }
  | .release _, .ok _ => { account with byHand := account.byHand - 1 }
  | .dropGuard _, .ok _ => { account with guards := account.guards - 1 }
  | .dropGuard _, .error _ =>
      { account with guards := account.guards - 1, lost := account.lost + 1 }
  | _, .error _ => account

/-- Only a level that was acquired by hand may be released, and only a guard be dropped. -/
def permits (account : Account) : Use → Bool
  | .release _ => 0 < account.byHand
  | .dropGuard _ => 0 < account.guards
  | _ => true

end Account

/-- The accounts of all threads. -/
abbrev Accounts :=
  ThreadId → Account

variable {Party : Type}

/-- The accounts once a use has finished: that of its thread has changed. -/
def Accounts.after (accounts : Accounts) (call : Outcome Party Use Unit) : Accounts :=
  Function.update accounts call.request.caller
    ((accounts call.request.caller).after call.request call.result)

/-- The accounts once some uses have finished. -/
def Accounts.afterAll (accounts : Accounts) (calls : List (Outcome Party Use Unit)) : Accounts :=
  calls.foldl Accounts.after accounts

/-- No thread has an account yet. -/
def Accounts.empty : Accounts :=
  fun _ => {}

/-- Every use is permitted by the account that its thread has at that moment. -/
def Accounts.permitsAll (accounts : Accounts) : List (Outcome Party Use Unit) → Bool
  | [] => true
  | call :: calls =>
      (accounts call.request.caller).permits call.request &&
        (accounts.after call).permitsAll calls

/-- The accounts that some uses lead to from the start. -/
def accountsOf (calls : List (Outcome Party Use Unit)) : Accounts :=
  Accounts.empty.afterAll calls

/-- The threads release what they have acquired by hand, and drop guards that they have. -/
def Disciplined (calls : List (Outcome Party Use Unit)) : Prop :=
  Accounts.empty.permitsAll calls = true

theorem accountsOf_concat (calls : List (Outcome Party Use Unit))
    (call : Outcome Party Use Unit) :
    accountsOf (calls ++ [call]) = (accountsOf calls).after call :=
  List.foldl_concat ..

/-- The account of a thread that has finished no use is as at the start. -/
theorem Accounts.afterAll_of_forall_ne (accounts : Accounts) {thread : ThreadId}
    {calls : List (Outcome Party Use Unit)}
    (others : ∀ call ∈ calls, call.request.caller ≠ thread) :
    accounts.afterAll calls thread = accounts thread := by
  induction calls generalizing accounts with
  | nil => rfl
  | cons call calls ih =>
      rw [List.forall_mem_cons] at others
      calc (accounts.after call).afterAll calls thread
          = accounts.after call thread := ih _ others.2
        _ = accounts thread := Function.update_of_ne others.1.symm ..

theorem Accounts.permitsAll_append (accounts : Accounts)
    (calls later : List (Outcome Party Use Unit)) :
    accounts.permitsAll (calls ++ later) =
      (accounts.permitsAll calls && (accounts.afterAll calls).permitsAll later) := by
  induction calls generalizing accounts with
  | nil => rfl
  | cons call calls ih =>
      simp only [List.cons_append, permitsAll, ih, Bool.and_assoc]
      rfl

theorem disciplined_concat {calls : List (Outcome Party Use Unit)}
    {call : Outcome Party Use Unit} :
    Disciplined (calls ++ [call]) ↔
      Disciplined calls ∧
        (accountsOf calls call.request.caller).permits call.request = true := by
  simp [Disciplined, Accounts.permitsAll_append, Accounts.permitsAll, accountsOf]

theorem Disciplined.of_append {calls later : List (Outcome Party Use Unit)}
    (disciplined : Disciplined (calls ++ later)) : Disciplined calls := by
  rw [Disciplined, Accounts.permitsAll_append, Bool.and_eq_true] at disciplined
  exact disciplined.1

/-! ## Levels -/

section Levels

variable {kind : MutexKind} {mutex next : Mutex}

/-- The call on the mutex that a use has made. -/
def callOf (use : Outcome Party Use Unit) : Outcome Party Request Unit :=
  ⟨use.party, use.request.request, use.result⟩

/-- A use changes the mutex as its call does. -/
theorem change_callOf {use? : Option (Outcome Party Use Unit)}
    (changed : Change passUse Use.refusal? mutex next use?) :
    Change pass Request.refusal? mutex next (use?.map callOf) := by
  cases changed with
  | quiet => exact .quiet
  | refused party use error refusal => exact .refused party use.request error refusal
  | gaveUp party use condition timeout passed =>
      exact .gaveUp party use.request condition timeout passed
  | finished party use result next signals passed =>
      exact .finished party use.request result next signals passed

/-- The levels of an account change as the call of a permitted use says. -/
theorem Account.levels_after (account : Account) (use : Outcome Party Use Unit)
    (permitted : account.permits use.request = true) :
    [callOf use].countP (acquiredBy use.request.caller) + account.levels =
      [callOf use].countP (releasedBy use.request.caller) +
        (account.after use.request use.result).levels := by
  rcases use with ⟨party, use, result⟩
  simp only [List.countP_singleton, callOf, levels]
  rcases result with error | done
  · simp only [acquiredBy_error, releasedBy_error, Bool.false_eq_true, if_false, Nat.zero_add]
    cases use with
    | dropGuard caller =>
        simp only [permits, decide_eq_true_eq] at permitted
        simp only [after]
        omega
    | acquire caller timeout | lock caller timeout | release caller => rfl
  · cases done
    cases use with
    | acquire caller timeout | lock caller timeout =>
        simp only [Use.request, Use.caller, acquiredBy_acquire, releasedBy_acquire, decide_true,
          Bool.false_eq_true, if_true, if_false, after]
        omega
    | release caller | dropGuard caller =>
        simp only [permits, decide_eq_true_eq] at permitted
        simp only [Use.request, Use.caller, acquiredBy_release, releasedBy_release, decide_true,
          Bool.false_eq_true, if_true, if_false, after]
        omega

/-- The call of a use is nobody's but its thread's. -/
theorem not_acquiredBy_of_ne {use : Outcome Party Use Unit} {thread : ThreadId}
    (other : thread ≠ use.request.caller) :
    acquiredBy thread (callOf use) = false ∧ releasedBy thread (callOf use) = false := by
  rcases use with ⟨party, use, error | done⟩
  · simp [callOf]
  · cases done
    cases use <;> simpa [callOf, Use.request, Use.caller] using Ne.symm other

/-- A change keeps the depth that each thread has reached equal to its levels. -/
theorem Consistent.levels_change (consistent : mutex.Consistent kind)
    {calls : List (Outcome Party Use Unit)} {use? : Option (Outcome Party Use Unit)}
    (changed : Change passUse Use.refusal? mutex next use?)
    (equal : ∀ thread, mutex.depthOf thread = (accountsOf calls thread).levels)
    (disciplined : Disciplined (calls ++ use?.toList)) (thread : ThreadId) :
    next.depthOf thread = (accountsOf (calls ++ use?.toList) thread).levels := by
  have balanced := consistent.balance (change_callOf changed) thread
  have before := equal thread
  cases use? with
  | none =>
      simp only [Option.map_none, Option.toList_none, List.countP_nil, Nat.zero_add] at balanced
      simp only [Option.toList_none, List.append_nil]
      omega
  | some use =>
      have permitted := (disciplined_concat.mp disciplined).2
      simp only [Option.map_some, Option.toList_some] at balanced
      rw [Option.toList_some, accountsOf_concat, Accounts.after]
      by_cases own : thread = use.request.caller
      · subst own
        have levels := (accountsOf calls use.request.caller).levels_after use permitted
        rw [Function.update_self]
        omega
      · rcases not_acquiredBy_of_ne own with ⟨acquires, releases⟩
        rw [Function.update_of_ne own]
        simp only [List.countP_singleton, acquires, releases] at balanced
        simp only [Bool.false_eq_true, if_false, Nat.zero_add] at balanced
        omega

end Levels

/-! ## Runs -/

/-- A run in which the depth that each thread has reached is what its account says. -/
structure Guarded (kind : MutexKind) (run : UseRun Party) : Prop where
  tracked : run.Tracked
  consistent : run.monitor.object.Consistent kind
  depth_eq : ∀ thread,
    run.monitor.object.depthOf thread = (accountsOf run.finished thread).levels

section Runs

variable [DecidableEq Party] {kind : MutexKind} {run : UseRun Party} {party : Party}
  {thread : ThreadId}

theorem tracked_useRun (kind : MutexKind) (actions : List (Action Party Use)) :
    (useRun kind actions).Tracked :=
  (Run.Tracked.start _).afterActions actions

/-- An action finishes one use at most. -/
theorem exists_use_of_act (tracked : run.Tracked) (action : Action Party Use) :
    ∃ use? : Option (Outcome Party Use Unit),
      (run.act passUse Use.refusal? action).finished = run.finished ++ use?.toList := by
  rcases tracked.act_change action with ⟨use?, finished, _⟩
  exact ⟨use?, finished⟩

theorem guarded_useRun {actions : List (Action Party Use)}
    (disciplined : Disciplined (useRun kind actions).finished) :
    Guarded kind (useRun kind actions) := by
  have start : (Run.start { kind } : UseRun Party).Tracked := .start _
  -- the discipline is asked for in the invariant, as it holds of every earlier history too
  have whole : ∃ calls, (useRun kind actions).finished = [] ++ calls ∧
      (useRun kind actions).monitor.object.Consistent kind ∧
      (Disciplined calls → ∀ thread, (useRun kind actions).monitor.object.depthOf thread =
        (accountsOf calls thread).levels) := by
    apply start.change_induction fun mutex calls => mutex.Consistent kind ∧
      (Disciplined calls → ∀ thread, mutex.depthOf thread = (accountsOf calls thread).levels)
    · rintro mutex next calls use? ⟨consistent, equal⟩ changed
      refine ⟨consistent.change (change_callOf changed), fun disciplined => ?_⟩
      exact consistent.levels_change changed (equal disciplined.of_append) disciplined
    · exact ⟨.start kind, fun _ thread => rfl⟩
  rcases whole with ⟨calls, finished, consistent, equal⟩
  rw [List.nil_append] at finished
  subst finished
  exact ⟨tracked_useRun kind actions, consistent, equal disciplined⟩

omit [DecidableEq Party] in
theorem Guarded.owner_eq (guarded : Guarded kind run)
    (level : 0 < (accountsOf run.finished thread).levels) :
    run.monitor.object.owner = some thread := by
  rw [← guarded.depth_eq, depthOf] at level
  by_contra other
  rw [if_neg other] at level
  contradiction

omit [DecidableEq Party] in
/-- A thread that has a guard owns the mutex. -/
theorem Guarded.owner_of_guard (guarded : Guarded kind run)
    (present : 0 < (accountsOf run.finished thread).guards) :
    run.monitor.object.owner = some thread := by
  apply guarded.owner_eq
  simp only [Account.levels]
  omega

/-- A guard gives its level back: the depth is one less, and the last level frees the mutex
and wakes one of those that wait for it. -/
structure GivesBack (thread : ThreadId) (monitor next : Monitor Party Mutex Use Condition) :
    Prop where
  owned : monitor.object.owner = some thread
  depth : next.object.depth + 1 = monitor.object.depth
  owner : next.object.owner = if next.object.depth = 0 then none else some thread
  awakened : Awakened monitor.waiters next.waiters
  woken : next.object.depth = 0 → 0 < parkedOn .released monitor.waiters →
    wokenFrom .released next.waiters = wokenFrom .released monitor.waiters + 1

/-- A release by the owner gives a level back, whoever waits. -/
theorem Consistent.exists_release {mutex : Mutex} (consistent : mutex.Consistent kind)
    (own : mutex.owner = some thread) (waiters : List (Waiter Party Use Condition))
    (favourite : Option Party) :
    ∃ next signals, mutex.pass (.release thread) = .finish (.ok ()) next signals ∧
      GivesBack thread ⟨mutex, waiters⟩
        ⟨next, Signal.deliverAll favourite signals waiters⟩ := by
  have deep := consistent.depth_pos own
  have done := mutex.does (.release thread)
  generalize mutex.pass (.release thread) = outcome at done
  cases done with
  | refused caller other => exact absurd own other
  | freed caller owned last =>
      refine ⟨_, _, rfl, own, Nat.le_antisymm deep last, rfl,
        awakened_deliverAll favourite _ _, ?_⟩
      intro _ parked
      exact wokenFrom_deliver_one favourite parked
  | unnested caller owned nested =>
      have left : mutex.depth - 1 ≠ 0 := Nat.sub_ne_zero_of_lt nested
      refine ⟨_, _, rfl, own, Nat.sub_add_cancel deep, ?_,
        awakened_deliverAll favourite _ _, ?_⟩
      · rw [if_neg left]
        exact own
      · intro last
        exact absurd last left

theorem Guarded.dropGuard (guarded : Guarded kind run)
    (free : run.monitor.isWaiting party = false)
    (present : 0 < (accountsOf run.finished thread).guards) (favourite : Option Party) :
    let next := run.next passUse (.call party (.dropGuard thread) favourite)
    next.finished = run.finished ++ [⟨party, .dropGuard thread, .ok ()⟩] ∧
      GivesBack thread run.monitor next.monitor := by
  intro next
  have own := guarded.owner_of_guard present
  rcases guarded.consistent.exists_release own run.monitor.waiters favourite with
    ⟨object, signals, passed, givesBack⟩
  have used : passUse run.monitor.object (.dropGuard thread) = .finish (.ok ()) object signals :=
    passed
  constructor
  · exact (Run.next_call_of_finish free used favourite).1
  · have stepped := congrArg Prod.fst (Monitor.step_call_of_finish free used favourite)
    rw [show next.monitor = _ from stepped]
    exact givesBack

/-- Of the guards that a thread has, only one that is dropped in interrupt context is lost. -/
theorem Guarded.result_of_dropGuard (guarded : Guarded kind run)
    (present : 0 < (accountsOf run.finished thread).guards) {event : Event Party Use}
    {result : Except Error Unit}
    (finished : (run.next passUse event).finished =
      run.finished ++ [⟨party, .dropGuard thread, result⟩]) : result = .ok () := by
  have own := guarded.owner_of_guard present
  rcases guarded.consistent.exists_release own run.monitor.waiters none with
    ⟨object, signals, passed, _⟩
  have moved : run.Step passUse event (run.next passUse event) := guarded.tracked.next_step event
  generalize run.next passUse event = later at moved finished
  cases moved with
  | idle => simp at finished
  | moved other use expired others next progress admitted passes =>
      have same := List.append_cancel_left finished
      -- a release never waits, so the use has ended with the result of its own pass
      cases passes with
      | finished done next signals favourite used =>
          simp only [Progress.outcome?, Option.toList_some, List.cons.injEq, and_true,
            Outcome.mk.injEq] at same
          rcases same with ⟨rfl, rfl, rfl⟩
          rw [passUse, Use.request, passed] at used
          cases used
          rfl
      | gaveUp condition timeout used spent =>
          simp only [Progress.outcome?, Option.toList_some, List.cons.injEq, and_true,
            Outcome.mk.injEq] at same
          rcases same with ⟨rfl, rfl, rfl⟩
          rw [passUse, Use.request, passed] at used
          cases used
      | parked condition timeout used patient => simp [Progress.outcome?] at same
      | aborted fault used => simp [Progress.outcome?] at same

/-- In interrupt context the mutex is left alone, but a guard that is dropped is gone. -/
theorem act_interrupt_dropGuard (free : run.monitor.isWaiting party = false)
    (thread : ThreadId) (favourite : Option Party) :
    run.act passUse Use.refusal? (.interrupt party (.dropGuard thread) favourite) =
      run.refuse party (.dropGuard thread) .invalidInInterrupt := by
  simp [Run.act, Use.refusal?, Use.request, Request.refusal?, free]

/-- An action in interrupt context finishes no use but the one that is made in it. -/
theorem use_of_act_interrupt {other use : Use} {favourite : Option Party}
    {result : Except Error Unit} {caller : Party}
    (finished : (run.act passUse Use.refusal? (.interrupt party other favourite)).finished =
      run.finished ++ [⟨caller, use, result⟩]) : other = use := by
  have refused : ∃ error, Use.refusal? other = some error := by
    cases other <;> exact ⟨_, rfl⟩
  rcases refused with ⟨error, refusal⟩
  simp only [Run.act, refusal] at finished
  split at finished
  · simp at finished
  · have same := List.append_cancel_left finished
    simp only [List.cons.injEq, and_true, Outcome.mk.injEq] at same
    exact same.2.1

theorem Account.lost_after (account : Account) {use : Use} {result : Except Error Unit}
    (given : ∀ caller, use = .dropGuard caller → result = .ok ()) :
    (account.after use result).lost = account.lost := by
  cases use with
  | dropGuard caller =>
      rw [given caller rfl]
      rfl
  | acquire caller timeout | lock caller timeout | release caller => cases result <;> rfl

/-- Only an action that drops a guard in interrupt context loses a level. -/
theorem Guarded.lost_act (guarded : Guarded kind run) {action : Action Party Use}
    (ordinary : ∀ party thread favourite,
      action ≠ .interrupt party (.dropGuard thread) favourite)
    (disciplined : Disciplined (run.act passUse Use.refusal? action).finished)
    (thread : ThreadId) :
    (accountsOf (run.act passUse Use.refusal? action).finished thread).lost =
      (accountsOf run.finished thread).lost := by
  rcases exists_use_of_act guarded.tracked action with ⟨use?, finished⟩
  cases use? with
  | none => rw [finished, Option.toList_none, List.append_nil]
  | some use =>
      rw [Option.toList_some] at finished
      have permitted := (disciplined_concat.mp (finished ▸ disciplined)).2
      rw [finished, accountsOf_concat, Accounts.after]
      rcases use with ⟨party, use, result⟩
      by_cases own : thread = use.caller
      · subst own
        rw [Function.update_self]
        apply Account.lost_after
        rintro caller rfl
        simp only [Account.permits, decide_eq_true_eq] at permitted
        cases action with
        | event event => exact guarded.result_of_dropGuard permitted finished
        | interrupt other asked favourite =>
            exact absurd (use_of_act_interrupt finished ▸ rfl) (ordinary other caller favourite)
      · rw [Function.update_of_ne own]

/-- A run in which no guard is dropped in interrupt context loses no level. -/
theorem lost_useRun {actions : List (Action Party Use)}
    (disciplined : Disciplined (useRun kind actions).finished)
    (ordinary : ∀ party thread favourite,
      .interrupt party (.dropGuard thread) favourite ∉ actions) (thread : ThreadId) :
    (accountsOf (useRun kind actions).finished thread).lost = 0 := by
  -- accounts change at the end of a run, so its last action is taken off
  induction actions using List.reverseRecOn with
  | nil => rfl
  | append_singleton earlier action ih =>
      have last : useRun kind (earlier ++ [action]) =
          (useRun kind earlier).act passUse Use.refusal? action := List.foldl_concat ..
      have before : Disciplined (useRun kind earlier).finished := by
        rcases exists_use_of_act (tracked_useRun kind earlier) action with ⟨use?, finished⟩
        rw [last] at disciplined
        exact Disciplined.of_append (finished ▸ disciplined)
      rw [last] at disciplined ⊢
      rw [(guarded_useRun before).lost_act ?_ disciplined]
      · apply ih before
        intro party thread favourite present
        exact ordinary party thread favourite (List.mem_append_left _ present)
      · rintro party thread favourite rfl
        exact ordinary party thread favourite (List.mem_append_right _ List.mem_cons_self)

omit [DecidableEq Party] in
/-- Where all levels that can be given back have been, a mutex is held by lost levels only. -/
theorem Guarded.owner_eq_none_iff (guarded : Guarded kind run)
    (settled : ∀ thread, (accountsOf run.finished thread).byHand = 0 ∧
      (accountsOf run.finished thread).guards = 0) :
    run.monitor.object.owner = none ↔ ∀ thread, (accountsOf run.finished thread).lost = 0 := by
  constructor
  · intro free thread
    by_contra lost
    have owned : run.monitor.object.owner = some thread := by
      apply guarded.owner_eq
      simp only [Account.levels]
      omega
    rw [free] at owned
    contradiction
  · intro nothing
    cases owned : run.monitor.object.owner with
    | none => rfl
    | some thread =>
        have deep := guarded.consistent.depth_pos owned
        have equal := guarded.depth_eq thread
        rw [depthOf, if_pos owned, Account.levels, (settled thread).1, (settled thread).2,
          nothing thread] at equal
        omega

/--
A guard gives its level back unless it is dropped in interrupt context. In every run whose
threads release only what they have acquired by hand and drop only guards that they have, the
depth that a thread has reached is the number of its levels: those by hand, its guards and
those that are lost. A guard that is dropped by a thread that does not wait takes the depth
down by one, and with the last level the mutex is free and one of those that wait is woken. In
interrupt context the drop is refused and leaves the mutex as it is, but the guard is gone, and
its level is lost; so is no other. Where everything is released and dropped and nothing was
dropped in interrupt context, the mutex is free and can be destroyed; with a lost level it stays
with its owner, and destroying it is a fault.
-/
theorem guards_give_back (kind : MutexKind) (actions : List (Action Party Use))
    (disciplined : Disciplined (useRun kind actions).finished) :
    let run := useRun kind actions
    let mutex := run.monitor.object
    (∀ thread, mutex.depthOf thread = (accountsOf run.finished thread).levels) ∧
      (∀ party thread favourite, run.monitor.isWaiting party = false →
        0 < (accountsOf run.finished thread).guards →
        let next := run.act passUse Use.refusal?
          (.event (.call party (.dropGuard thread) favourite))
        let refused := run.act passUse Use.refusal?
          (.interrupt party (.dropGuard thread) favourite)
        next.finished = run.finished ++ [⟨party, .dropGuard thread, .ok ()⟩] ∧
          GivesBack thread run.monitor next.monitor ∧
          refused.finished =
            run.finished ++ [⟨party, .dropGuard thread, .error .invalidInInterrupt⟩] ∧
          refused.monitor = run.monitor ∧
          accountsOf refused.finished thread =
            { accountsOf run.finished thread with
              guards := (accountsOf run.finished thread).guards - 1
              lost := (accountsOf run.finished thread).lost + 1 }) ∧
      ((∀ party thread favourite, .interrupt party (.dropGuard thread) favourite ∉ actions) →
        (∀ thread, (accountsOf run.finished thread).lost = 0) ∧
        ((∀ thread, (accountsOf run.finished thread).byHand = 0 ∧
            (accountsOf run.finished thread).guards = 0) →
          mutex.owner = none ∧ mutex.destroyFault? = none)) ∧
      (∀ thread, 0 < (accountsOf run.finished thread).lost →
        mutex.owner = some thread ∧ mutex.destroyFault? = some (.heldMutexDestroyed thread)) := by
  intro run mutex
  have guarded : Guarded kind run := guarded_useRun disciplined
  refine ⟨guarded.depth_eq, ?_, ?_, ?_⟩
  · intro party thread favourite free present next refused
    rcases guarded.dropGuard free present favourite with ⟨finished, givesBack⟩
    have same : refused = run.refuse party (.dropGuard thread) .invalidInInterrupt :=
      act_interrupt_dropGuard free thread favourite
    have answered : refused.finished =
        run.finished ++ [⟨party, .dropGuard thread, .error .invalidInInterrupt⟩] := by
      rw [same]
      rfl
    refine ⟨finished, givesBack, answered, by rw [same]; rfl, ?_⟩
    rw [answered, accountsOf_concat]
    exact Function.update_self ..
  · intro ordinary
    have nothing := lost_useRun disciplined ordinary
    refine ⟨nothing, fun settled => ?_⟩
    have free := (guarded.owner_eq_none_iff settled).mpr nothing
    exact ⟨free, by rw [destroyFault?, show mutex.owner = none from free]; rfl⟩
  · intro thread lost
    have owned : mutex.owner = some thread := by
      apply guarded.owner_eq
      simp only [Account.levels]
      omega
    exact ⟨owned, by rw [destroyFault?, owned]; rfl⟩

end Runs

instance {Party : Type} (calls : List (Outcome Party Use Unit)) : Decidable (Disciplined calls) :=
  inferInstanceAs (Decidable (_ = true))

/-- What two threads do with a recursive mutex, of which the first has a level by hand and one by
a lock, and the second waits. In the end only the guard of the second is left. -/
def lastGuardLeft : List (Action Nat Use) :=
  [.event (.call 1 (.acquire ⟨1⟩ .forever) none),
    .event (.call 1 (.lock ⟨1⟩ .forever) none),
    .event (.call 2 (.lock ⟨2⟩ .forever) none), .event (.call 1 (.dropGuard ⟨1⟩) none),
    .event (.call 1 (.release ⟨1⟩) none), .event (.resume 2 none)]

theorem guards_give_back_lastGuardLeft :
    let run := useRun .recursive lastGuardLeft
    let drop : Action Nat Use := .event (.call 2 (.dropGuard ⟨2⟩) none)
    let next := run.act passUse Use.refusal? drop
    Disciplined run.finished ∧ run.monitor.isWaiting 2 = false ∧
      0 < (accountsOf run.finished ⟨2⟩).guards ∧
      next.finished = run.finished ++ [⟨2, .dropGuard ⟨2⟩, .ok ()⟩] ∧
      next.monitor.object.owner = none ∧ next.monitor.object.destroyFault? = none := by
  intro run drop next
  have disciplined : Disciplined run.finished := by decide
  have free : run.monitor.isWaiting 2 = false := by decide
  have present : 0 < (accountsOf run.finished ⟨2⟩).guards := by decide
  rcases guards_give_back .recursive lastGuardLeft disciplined with ⟨_, drops, _, _⟩
  have whole : useRun .recursive (lastGuardLeft ++ [drop]) = next := rfl
  have later : Disciplined (useRun .recursive (lastGuardLeft ++ [drop])).finished := by decide
  rcases guards_give_back .recursive (lastGuardLeft ++ [drop]) later with ⟨_, _, ends, _⟩
  have settled : ∀ thread, (accountsOf next.finished thread).byHand = 0 ∧
      (accountsOf next.finished thread).guards = 0 := by
    intro thread
    by_cases first : thread = ⟨1⟩
    · subst first
      decide
    by_cases second : thread = ⟨2⟩
    · subst second
      decide
    have callers : ∀ call ∈ next.finished,
        call.request.caller = ⟨1⟩ ∨ call.request.caller = ⟨2⟩ := by decide
    have unused : accountsOf next.finished thread = {} := by
      apply Accounts.afterAll_of_forall_ne
      rintro call callMem rfl
      exact (callers call callMem).elim first second
    rw [unused]
    exact ⟨rfl, rfl⟩
  rw [whole] at ends
  have ordinary : ∀ party thread favourite,
      Action.interrupt party (.dropGuard thread) favourite ∉ lastGuardLeft ++ [drop] := by
    simp [lastGuardLeft, drop]
  rcases (ends ordinary).2 settled with ⟨owner, fault⟩
  exact ⟨disciplined, free, present, (drops 2 ⟨2⟩ none free present).1, owner, fault⟩

end Mutex

end Sync

/-! ## The calls that make the uses -/

namespace Machine

/-- The use of a mutex that a call on it is. -/
def MutexCall.use? : MutexCall → Option (ThreadId → Sync.Mutex.Use)
  | acquire timeout => some (.acquire · timeout)
  | lock timeout => some (.lock · timeout)
  | release => some .release
  | kind => none
  | owner => none

/-- Calls that use a mutex make the requests of these uses, and are refused where these are. -/
theorem MutexCall.makes_use {call : MutexCall} {use : ThreadId → Sync.Mutex.Use}
    (uses : call.use? = some use) (machine : Machine) (attempt : Attempt) (id : ObjectId) :
    machine.callMutex attempt id call =
        machine.requestMutex attempt id (fun thread => (use thread).request) ∧
      ∀ thread, call.refusal? = (use thread).refusal?.map .failed := by
  cases call with
  | kind | owner => contradiction
  | acquire timeout | lock timeout | release =>
      cases uses
      exact MutexCall.makes_request rfl machine attempt id

/-- A call that ends leaves a guard of its object if it was a lock that has succeeded, and no
guard otherwise. -/
theorem guards_conclude (machine : Machine) (label : Label) (errand : Errand) {reply : Reply}
    (ends : reply ≠ .blocked) :
    ((machine.conclude label errand reply).1.actors.get? label).map (·.guards) =
      (machine.actors.get? label).map fun actor => errand.guards reply ++ actor.guards := by
  cases reply with
  | blocked => contradiction
  | _ =>
      simp only [conclude, get?_modifyActor, if_true, Option.map_map]
      rfl

/-- The newest guard of an actor is gone once it is dropped. In interrupt context only a failed
release is reported; otherwise the mutex has had the request of a guard that is dropped. -/
theorem dropGuard_makes_use (machine : Machine) (label : Label) {id : ObjectId}
    {older : List ObjectId}
    (newest : (machine.actors.get? label).map (·.guards) = some (id :: older)) :
    let lighter := machine.modifyActor label fun actor => { actor with guards := older }
    let effect := machine.dropGuard label
    (machine.isInterrupted label = true →
      effect.machine = lighter ∧ effect.events = [.guardReleaseFailed .invalidInInterrupt]) ∧
    (machine.isInterrupted label = false →
      effect.machine = (lighter.requestMutex ⟨label, true⟩ id
        (fun thread => (Sync.Mutex.Use.dropGuard thread).request)).machine) := by
  intro lighter effect
  have same : lighter.isInterrupted label = machine.isInterrupted label := by
    simp only [lighter, isInterrupted, get?_modifyActor, if_true]
    cases machine.actors.get? label <;> rfl
  constructor
  · intro interrupted
    rw [← same] at interrupted
    simp [effect, dropGuard, newest, releaseGuard, lighter, interrupted]
  · intro ordinary
    rw [← same] at ordinary
    simp only [effect, dropGuard, newest, releaseGuard, lighter] at ordinary ⊢
    simp only [ordinary]
    rfl

/-- The guard of a lock that is dropped in interrupt context gives nothing back: the mutex stays
with its owner, and its end is a fault, though nobody has a guard of it. -/
theorem not_every_guard_gives_back :
    let main : Attempt := ⟨mainLabel, true⟩
    let made := initial.call main (.create "door" (.mutex .normal))
    let locked := made.machine.call main (.mutex "door" (.lock .forever))
    let dropped := locked.machine.callInInterrupt main .unlock
    let ended := dropped.machine.call main (.discard "door")
    locked.reply = .done ∧
      (locked.machine.actors.get? mainLabel).map (·.guards) = some [⟨0⟩] ∧
      dropped.reply = .done ∧
      dropped.events = [.guardReleaseFailed .invalidInInterrupt] ∧
      (dropped.machine.actors.get? mainLabel).map (·.guards) = some [] ∧
      (dropped.machine.mutex? ⟨0⟩).map (·.object) =
        some { kind := .normal, owner := some ⟨1⟩, depth := 1 } ∧
      ended.reply = .broken (.heldMutexDestroyed ⟨1⟩) := by
  intro main made locked dropped ended
  decide +kernel

end Machine

end Rtos
