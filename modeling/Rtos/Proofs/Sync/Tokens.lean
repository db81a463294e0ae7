import Mathlib.Data.List.Infix
import Rtos.Proofs.Sync.Calls
import Rtos.Proofs.Sync.Representation

/-!
# Tokens of semaphores

The tokens of a semaphore are neither lost nor made: at any moment its count and the
tokens taken so far are the tokens that it began with and those given back. A call that
waits has no part in this. It counts when it finishes, however often it had to wait before
because another call was faster.

A count lies between zero and the maximum, so that it can be kept in a machine word: no
difference and no sum of it ever wraps around.
-/

namespace Rtos

namespace Sync

namespace Semaphore

variable {Party : Type}

/-- Whether a finished call has taken a token. -/
def isAcquired (call : Outcome Party Request Unit) : Bool :=
  match call.request, call.result with
  | .acquire _, .ok _ => true
  | _, _ => false

/-- Whether a finished call has given a token back. -/
def isReleased (call : Outcome Party Request Unit) : Bool :=
  match call.request, call.result with
  | .release, .ok _ => true
  | _, _ => false

/-- How many tokens are held once a call has finished. A release takes one of them back,
if there is one. -/
def heldAfter (held : Nat) (call : Outcome Party Request Unit) : Nat :=
  if isAcquired call then held + 1 else if isReleased call then held - 1 else held

/-- How many tokens are held after some calls, none of them before the first. -/
def held (calls : List (Outcome Party Request Unit)) : Nat :=
  calls.foldl heldAfter 0

section Results

variable (party : Party) (request : Request) (timeout : Timeout) (error : Error) (value : Unit)

@[simp]
theorem isAcquired_error : isAcquired ⟨party, request, .error error⟩ = false := by
  cases request <;> rfl

@[simp]
theorem isReleased_error : isReleased ⟨party, request, .error error⟩ = false := by
  cases request <;> rfl

@[simp]
theorem isAcquired_acquire : isAcquired ⟨party, .acquire timeout, .ok value⟩ = true := rfl

@[simp]
theorem isReleased_acquire : isReleased ⟨party, .acquire timeout, .ok value⟩ = false := rfl

@[simp]
theorem isAcquired_release : isAcquired ⟨party, .release, .ok value⟩ = false := rfl

@[simp]
theorem isReleased_release : isReleased ⟨party, .release, .ok value⟩ = true := rfl

end Results

/-- As long as releases do not outnumber acquires, each of them takes back a token. -/
theorem held_eq {calls : List (Outcome Party Request Unit)}
    (few : ∀ earlier, earlier <+: calls →
      earlier.countP isReleased ≤ earlier.countP isAcquired) :
    held calls + calls.countP isReleased = calls.countP isAcquired := by
  induction calls using List.reverseRecOn with
  | nil => rfl
  | append_singleton calls call ih =>
      have before := ih fun earlier first => few earlier (first.trans (List.prefix_append _ _))
      have whole := few _ List.prefix_rfl
      have next : held (calls ++ [call]) = heldAfter (held calls) call := by
        simp only [held, List.foldl_append, List.foldl_cons, List.foldl_nil]
      rw [next, heldAfter]
      rcases call with ⟨party, request, error | value⟩
      · simpa using before
      · cases request with
        | acquire timeout =>
            simp only [isAcquired_acquire, isReleased_acquire, List.countP_append,
              List.countP_singleton, if_true, Bool.false_eq_true, if_false]
            omega
        | release =>
            simp only [isAcquired_release, isReleased_release, List.countP_append,
              List.countP_singleton, if_true, Bool.false_eq_true, if_false] at whole ⊢
            omega

/-! ## One action -/

/-- What an action may make of a semaphore, given the call that finishes in it. -/
structure Lawful (semaphore next : Semaphore) (call? : Option (Outcome Party Request Unit)) :
    Prop where
  maximum_eq : next.maximum = semaphore.maximum
  /-- A token that is taken is missing afterwards, and one that is given back is there. -/
  count_eq : next.count + call?.toList.countP isAcquired =
    semaphore.count + call?.toList.countP isReleased
  count_le : semaphore.count ≤ semaphore.maximum → next.count ≤ next.maximum
  /-- A call that fails changes nothing. -/
  failed : ∀ call ∈ call?, call.result ≠ .ok () → next = semaphore
  /-- A release fails at the maximum and nowhere else. -/
  released : ∀ call ∈ call?, call.request = .release →
    call.result = if semaphore.maximum ≤ semaphore.count then .error .resource else .ok ()

variable {semaphore next : Semaphore} {call? : Option (Outcome Party Request Unit)}

theorem lawful_of_acquire_error (party : Party) (timeout : Timeout) (error : Error) :
    Lawful semaphore semaphore (some ⟨party, .acquire timeout, .error error⟩) where
  maximum_eq := rfl
  count_eq := by simp
  count_le := id
  failed _ _ _ := rfl
  released := by simp

theorem lawful_of_change (changed : Change pass Request.refusal? semaphore next call?) :
    Lawful semaphore next call? := by
  cases changed with
  | quiet => exact ⟨rfl, rfl, id, by simp, by simp⟩
  | refused party request error refusal =>
      cases request with
      | acquire timeout => exact lawful_of_acquire_error party timeout error
      | release => contradiction
  | gaveUp party request condition timeout passed =>
      have done := semaphore.does request
      rw [passed] at done
      cases done with
      | waits timeout none => exact lawful_of_acquire_error party timeout _
  | finished party request result next signals passed =>
      have done := semaphore.does request
      rw [passed] at done
      cases done with
      | acquired timeout token =>
          constructor
          · rfl
          · simpa using Nat.sub_add_cancel token
          · exact fun bound => Nat.le_trans (Nat.sub_le _ _) bound
          · simp
          · simp
      | released room =>
          constructor
          · rfl
          · simp
          · exact fun _ => room
          · simp
          · simp [Nat.not_le.mpr room]
      | refused full =>
          constructor
          · rfl
          · simp
          · exact id
          · simp
          · simp [full]

/-! ## Runs -/

/-- A semaphore whose count is told by the calls that have finished. -/
structure Conserves (maximum initial : Nat) (semaphore : Semaphore)
    (calls : List (Outcome Party Request Unit)) : Prop where
  maximum_eq : semaphore.maximum = maximum
  count_le : semaphore.count ≤ maximum
  /-- What is there and what was taken is what was there first and what was given back. -/
  count_eq : semaphore.count + calls.countP isAcquired = initial + calls.countP isReleased
  /-- No call has ever taken a token that was not there. -/
  acquired_le : ∀ earlier, earlier <+: calls →
    earlier.countP isAcquired ≤ initial + earlier.countP isReleased

theorem Conserves.start {maximum initial : Nat} (within : initial ≤ maximum) :
    Conserves maximum initial ⟨maximum, initial⟩ ([] : List (Outcome Party Request Unit)) :=
  ⟨rfl, within, rfl, by simp⟩

theorem Conserves.change {maximum initial : Nat} {calls : List (Outcome Party Request Unit)}
    (conserves : Conserves maximum initial semaphore calls)
    (changed : Change pass Request.refusal? semaphore next call?) :
    Conserves maximum initial next (calls ++ call?.toList) := by
  have lawful := lawful_of_change changed
  have balance := lawful.count_eq
  have before := conserves.count_eq
  have count : next.count + (calls ++ call?.toList).countP isAcquired =
      initial + (calls ++ call?.toList).countP isReleased := by
    simp only [List.countP_append]
    omega
  refine ⟨lawful.maximum_eq.trans conserves.maximum_eq, ?_, count, ?_⟩
  · have bound := conserves.count_le
    rw [← conserves.maximum_eq] at bound ⊢
    rw [← lawful.maximum_eq]
    exact lawful.count_le bound
  · intro earlier first
    cases call? with
    | none =>
        apply conserves.acquired_le
        simpa using first
    | some call =>
        rcases List.prefix_concat_iff.mp first with rfl | first
        · simp only [Option.toList_some] at count
          omega
        · exact conserves.acquired_le earlier first

section Runs

variable [DecidableEq Party]

/-- What has happened to a new semaphore after some actions. -/
def runOf (semaphore : Semaphore) (actions : List (Action Party Request)) :
    Run Party Semaphore Request Condition Unit :=
  (Run.start semaphore).afterActions pass Request.refusal? actions

theorem tracked_runOf (semaphore : Semaphore) (actions : List (Action Party Request)) :
    (runOf semaphore actions).Tracked :=
  (Run.Tracked.start semaphore).afterActions actions

theorem conserves_runOf {maximum initial : Nat} (within : initial ≤ maximum)
    (actions : List (Action Party Request)) :
    Conserves maximum initial (runOf ⟨maximum, initial⟩ actions).monitor.object
      (runOf ⟨maximum, initial⟩ actions).finished := by
  have start : (Run.start ⟨maximum, initial⟩ :
      Run Party Semaphore Request Condition Unit).Tracked := .start _
  rcases start.change_induction (Conserves maximum initial)
      (fun _ _ _ _ conserves changed => conserves.change changed) (.start within) actions with
    ⟨calls, finished, conserves⟩
  rw [show (runOf ⟨maximum, initial⟩ actions).finished = calls from finished]
  exact conserves

/-- A release is answered at once, in interrupt context too, and one that fails leaves all
as it was. -/
theorem act_release {run : Run Party Semaphore Request Condition Unit} {party : Party}
    (free : run.monitor.isWaiting party = false) (favourite : Option Party)
    {action : Action Party Request}
    (releases : action = .event (.call party .release favourite) ∨
      action = .interrupt party .release favourite) :
    (run.act pass Request.refusal? action).finished = run.finished ++ [⟨party, .release,
        if run.monitor.object.maximum ≤ run.monitor.object.count then .error .resource
        else .ok ()⟩] ∧
      (run.monitor.object.maximum ≤ run.monitor.object.count →
        (run.act pass Request.refusal? action).monitor = run.monitor) := by
  have same : run.act pass Request.refusal? action =
      run.next pass (.call party .release favourite) := by
    rcases releases with rfl | rfl <;> rfl
  have done := run.monitor.object.does .release
  generalize passed : run.monitor.object.pass .release = outcome at done
  rw [same]
  cases done with
  | released room =>
      rw [(run.next_call_of_finish free passed favourite).1, if_neg (Nat.not_le.mpr room)]
      exact ⟨rfl, fun full => absurd full (Nat.not_le.mpr room)⟩
  | refused full =>
      rw [(run.next_call_of_finish free passed favourite).1, if_pos full]
      refine ⟨rfl, fun _ => ?_⟩
      rw [Run.next, Monitor.step_call_of_finish free passed favourite]
      rfl

end Runs

/-! ## Machine words -/

/-- A semaphore as it is kept in machine words, whose sums and differences wrap around. -/
structure Words where
  maximum : UInt32
  count : UInt32
  deriving DecidableEq

namespace Words

def numbers (words : Words) : Semaphore :=
  ⟨words.maximum.toNat, words.count.toNat⟩

def pass (words : Words) : Request → Pass Words Condition Unit
  | .acquire timeout =>
      if 0 < words.count then .finish (.ok ()) { words with count := words.count - 1 } []
      else .wait .available timeout
  | .release =>
      if words.maximum ≤ words.count then .finish (.error .resource) words []
      else .finish (.ok ()) { words with count := words.count + 1 } [.one .available]

/-- No pass wraps a count around: words do what numbers do. -/
theorem represents : Represents numbers pass Semaphore.pass := by
  intro words request
  cases request with
  | acquire timeout =>
      have test : 0 < words.count ↔ 0 < words.numbers.count := UInt32.lt_iff_toNat_lt
      simp only [pass, Semaphore.pass, test]
      split
      · rename_i token
        have less : (words.count - 1).toNat = words.count.toNat - 1 :=
          UInt32.toNat_sub_of_le _ _ (UInt32.le_iff_toNat_le.mpr token)
        simp only [Pass.view, numbers, less]
      · rfl
  | release =>
      have test : words.maximum ≤ words.count ↔ words.numbers.maximum ≤ words.numbers.count :=
        UInt32.le_iff_toNat_le
      simp only [pass, Semaphore.pass, test]
      split
      · rfl
      · rename_i room
        have more : (words.count + 1).toNat = words.count.toNat + 1 := by
          have bound := words.maximum.toNat_lt
          change ¬words.maximum.toNat ≤ words.count.toNat at room
          rw [UInt32.toNat_add]
          apply Nat.mod_eq_of_lt
          change words.count.toNat + 1 < 2 ^ 32
          omega
        simp only [Pass.view, numbers, more]

/-- What has happened to a new semaphore that is kept in words after some actions. -/
def runOf [DecidableEq Party] (words : Words) (actions : List (Action Party Request)) :
    Run Party Words Request Condition Unit :=
  (Run.start words).afterActions pass Request.refusal? actions

theorem view_runOf [DecidableEq Party] (words : Words) (actions : List (Action Party Request)) :
    (words.runOf actions).view numbers = Semaphore.runOf words.numbers actions :=
  (represents.afterActions (Run.start words) actions).symm

end Words

/-! ## Conservation -/

/--
Tokens are conserved. Whatever the threads and interrupt handlers do with a new semaphore,
its count is what it began with, less the acquires that have succeeded, plus the releases
that have, and lies between zero and the maximum, so that machine words do what numbers
do. A release fails exactly at the maximum, and then nothing changes. So as long as nobody
releases what was not acquired, no more tokens are held than there were.
-/
theorem tokens_conserved [DecidableEq Party] (maximum initial : UInt32) (some : 0 < maximum)
    (within : initial ≤ maximum) (actions : List (Action Party Request)) :
    let semaphore : Semaphore := ⟨maximum.toNat, initial.toNat⟩
    let run := runOf semaphore actions
    create maximum.toNat initial.toNat = .ok semaphore ∧
      Conserves maximum.toNat initial.toNat run.monitor.object run.finished ∧
      ((⟨maximum, initial⟩ : Words).runOf actions).view Words.numbers = run ∧
      (∀ action, ∃ call?,
        (run.act pass Request.refusal? action).finished = run.finished ++ call?.toList ∧
        Lawful run.monitor.object (run.act pass Request.refusal? action).monitor.object
          call?) ∧
      (∀ party favourite action, run.monitor.isWaiting party = false →
        action = .event (.call party .release favourite) ∨
          action = .interrupt party .release favourite →
        (run.act pass Request.refusal? action).finished = run.finished ++ [⟨party, .release,
          if run.monitor.object.count = maximum.toNat then .error .resource else .ok ()⟩] ∧
        (run.monitor.object.count = maximum.toNat →
          (run.act pass Request.refusal? action).monitor = run.monitor)) ∧
      ((∀ earlier, earlier <+: run.finished →
          earlier.countP isReleased ≤ earlier.countP isAcquired) →
        ∀ earlier, earlier <+: run.finished → held earlier ≤ initial.toNat) := by
  intro semaphore run
  have some : maximum.toNat ≠ 0 := Nat.ne_of_gt (UInt32.lt_iff_toNat_lt.mp some)
  have within : initial.toNat ≤ maximum.toNat := UInt32.le_iff_toNat_le.mp within
  have conserves : Conserves maximum.toNat initial.toNat run.monitor.object run.finished :=
    conserves_runOf within actions
  refine ⟨?_, conserves, Words.view_runOf _ actions, ?_, ?_, ?_⟩
  · apply if_neg
    omega
  · intro action
    rcases (tracked_runOf semaphore actions).act_change action with
      ⟨call?, finished, changed⟩
    exact ⟨call?, finished, lawful_of_change changed⟩
  · intro party favourite action free releases
    have bound := conserves.count_le
    have full : run.monitor.object.maximum ≤ run.monitor.object.count ↔
        run.monitor.object.count = maximum.toNat := by
      rw [conserves.maximum_eq]
      omega
    have released := act_release free favourite releases
    simp only [full] at released
    exact released
  · intro few earlier first
    have balance := held_eq fun part inside => few part (inside.trans first)
    have bound := conserves.acquired_le earlier first
    omega

/-- A semaphore with one token. A woken thread loses the token to an interrupt handler and
waits again; afterwards the token is there, and another release fails. It fails too on a
semaphore that is as full as a machine word can tell. -/
theorem tokens_conserved_contended :
    let actions : List (Action Nat Request) :=
      [.event (.call 1 (.acquire .poll) none), .event (.call 2 (.acquire .forever) none),
        .interrupt 3 .release none, .interrupt 3 (.acquire .poll) none,
        .event (.resume 2 none), .interrupt 3 (.acquire .forever) none,
        .event (.call 1 .release none), .event (.resume 2 none),
        .event (.call 1 .release none)]
    let run := runOf ⟨1, 1⟩ actions
    let next := run.act pass Request.refusal? (.event (.call 1 .release none))
    let full : Run Nat Semaphore Request Condition Unit := runOf ⟨4294967295, 4294967295⟩ []
    run.monitor.object = ⟨1, 1⟩ ∧
      run.finished.countP isAcquired = 3 ∧ run.finished.countP isReleased = 3 ∧
      (∀ earlier, earlier <+: run.finished → held earlier ≤ 1) ∧
      next.finished = run.finished ++ [⟨1, .release, .error .resource⟩] ∧
      (full.act pass Request.refusal? (.interrupt 3 .release none)).finished =
        [⟨3, .release, .error .resource⟩] := by
  intro actions run next full
  rcases tokens_conserved 1 1 (by decide) (by decide) actions with
    ⟨_, _, _, _, releases, bounded⟩
  rcases tokens_conserved 4294967295 4294967295 (by decide) (by decide)
      ([] : List (Action Nat Request)) with
    ⟨_, _, _, _, releasesFull, _⟩
  have rest : run.monitor.object = ⟨1, 1⟩ := by decide
  have few : ∀ earlier ∈ run.finished.inits,
      earlier.countP isReleased ≤ earlier.countP isAcquired := by decide
  refine ⟨rest, by decide, by decide, ?_, ?_, ?_⟩
  · exact bounded fun earlier first => few earlier ((List.mem_inits _ _).mpr first)
  · exact (releases 1 none _ (by decide) (.inl rfl)).1
  · exact (releasesFull 3 none _ rfl (.inr rfl)).1

end Semaphore

end Sync

end Rtos
