import Rtos.Proofs.Machine.Frame

/-!
# Interrupt nesting

Whether an actor is in interrupt context, and how deep, can be told from the steps of a
script: it has entered as often as it has not left again. No other step of its own changes
that, and no step of another actor does, unless it begins the actor anew.
-/

namespace Rtos

namespace Machine

variable (machine : Machine) (attempt : Attempt) (label other : Label)

/-! ## What calls do to actors -/

/-- How deep in interrupts an actor is, and what it waits for. -/
structure Stance where
  nesting : Nat
  waiting : Option Errand

def Actor.stance (actor : Actor) : Stance :=
  ⟨actor.nesting, actor.waiting⟩

def stance? (machine : Machine) (label : Label) : Option Stance :=
  (machine.actors.get? label).map (·.stance)

/-- What a call does to an actor, as far as its interrupts and waits go. -/
inductive Turn where
  | stays
  | enters
  | leaves
  | begins
  | ends

def Turn.apply : Turn → Option Stance → Option Stance
  | stays, stance => stance
  | enters, stance => stance.map fun before => { before with nesting := before.nesting + 1 }
  | leaves, stance => stance.map fun before => { before with nesting := before.nesting - 1 }
  | begins, _ => some ⟨0, none⟩
  | ends, _ => none

theorem isInterrupted_iff {machine : Machine} {label : Label} :
    machine.isInterrupted label = true ↔
      ∃ stance, machine.stance? label = some stance ∧ 0 < stance.nesting := by
  simp only [isInterrupted, stance?]
  cases machine.actors.get? label <;> simp [Actor.stance]

theorem stance?_modifyActor {change : Actor → Actor} (turn : Turn)
    (turns : ∀ actor, some (change actor).stance = turn.apply (some actor.stance))
    (absent : turn.apply none = none) :
    (machine.modifyActor label change).stance? other =
      (if other = label then turn else .stays).apply (machine.stance? other) := by
  simp only [stance?, get?_modifyActor]
  split
  · subst other
    cases machine.actors.get? label with
    | none => exact absent.symm
    | some actor => exact turns actor
  · rfl

theorem stance?_modifyActor_of_stance {change : Actor → Actor}
    (keeps : ∀ actor, (change actor).stance = actor.stance) :
    (machine.modifyActor label change).stance? other = machine.stance? other := by
  have stayed := machine.stance?_modifyActor label other .stays
    (fun actor => congrArg some (keeps actor)) rfl
  rwa [ite_self] at stayed

theorem stance?_enterInterrupt :
    (machine.enterInterrupt label).stance? other =
      (if other = label then Turn.enters else .stays).apply (machine.stance? other) := by
  apply stance?_modifyActor machine label other .enters
  · intro actor
    rfl
  · rfl

theorem stance?_leaveInterrupt :
    (machine.leaveInterrupt label).stance? other =
      (if other = label then Turn.leaves else .stays).apply (machine.stance? other) := by
  apply stance?_modifyActor
  · intro actor
    rfl
  · rfl

theorem stance?_changesStore {machine next : Machine} (changes : machine.ChangesStore next) :
    next.stance? label = machine.stance? label := by
  rcases changes with ⟨store, rfl⟩
  rfl

theorem stance?_requestMutex (id : ObjectId) (request : ThreadId → Sync.Mutex.Request) :
    (machine.requestMutex attempt id request).machine.stance? label = machine.stance? label := by
  rcases machine.requestMutex_cases attempt id request with same | changes
  · rw [same]
  · exact (stance?_changesStore label changes.changesStore).trans rfl

theorem stance?_callMutex (id : ObjectId) (call : MutexCall) :
    (machine.callMutex attempt id call).machine.stance? label = machine.stance? label := by
  rcases machine.callMutex_cases attempt id call with same | changes
  · rw [same]
  · exact (stance?_changesStore label changes.changesStore).trans rfl

theorem stance?_callFlags (id : ThreadId) (request : Sync.FlagWord.Request) :
    (machine.callFlags attempt id request).machine.stance? label = machine.stance? label := by
  simp only [callFlags]
  split <;> rfl

theorem stance?_setFlags (id : ThreadId) (address : Address) (mask : UInt32) :
    (machine.setFlags attempt id address mask).machine.stance? label = machine.stance? label := by
  simp only [setFlags]
  split
  · rfl
  · apply stance?_callFlags

theorem stance?_releaseGuard (id : ObjectId) :
    (machine.releaseGuard label id).machine.stance? other = machine.stance? other := by
  simp only [releaseGuard]
  split
  · rfl
  · apply stance?_requestMutex

theorem stance?_dropGuard :
    (machine.dropGuard label).machine.stance? other = machine.stance? other := by
  unfold dropGuard
  split
  · rename_i id older _
    apply Eq.trans (stance?_releaseGuard _ label other id)
    apply stance?_modifyActor_of_stance
    intro actor
    rfl
  · rfl

theorem stance?_dropGuards (count : Nat) :
    (machine.dropGuards label count).machine.stance? other = machine.stance? other := by
  induction count generalizing machine with
  | zero => rfl
  | succ count ih => exact (ih _).trans (machine.stance?_dropGuard label other)

theorem stance?_eraseActor :
    (machine.eraseActor label).stance? other =
      (if other = label then Turn.ends else .stays).apply (machine.stance? other) := by
  simp only [stance?, eraseActor, Labelled.get?_erase]
  split <;> rfl

/-- An actor that begins is in no interrupt and does not wait. -/
theorem stance?_putActor (name : Option String) :
    (machine.putActor label { hostName := name }).stance? other =
      (if other = label then Turn.begins else .stays).apply (machine.stance? other) := by
  simp only [stance?, putActor, Labelled.get?_put]
  split <;> rfl

/-! ## Calls -/

/-- What a call of an actor that had a reply does to the actor of a label. -/
def Call.turn (call : Call) (caller label : Label) (reply : Reply) : Turn :=
  match call with
  | interrupt .enter => if label = caller then .enters else .stays
  | interrupt .leave => if label = caller then .leaves else .stays
  | thread (.exit _) => if label = caller then .ends else .stays
  | thread (.startUnknown new _) => if label = new then .begins else .stays
  | thread (.start new _ _ _) =>
      match reply with
      | .started _ _ => if label = new then .begins else .stays
      | _ => .stays
  | _ => .stays

theorem stance?_startThread (name : Option String) (stack : Option Nat) (kernel : Option Label) :
    (machine.startThread label name stack).machine.stance? other =
      ((Call.thread (.start label name stack kernel)).turn attempt.actor other
        (machine.startThread label name stack).reply).apply (machine.stance? other) := by
  unfold startThread
  split
  · rfl
  · split
    · rfl
    · exact (machine.putTable _).stance?_putActor label other name

theorem stance?_exitThread (ending : ThreadEnding) :
    (machine.exitThread label ending).machine.stance? other =
      (if other = label then Turn.ends else .stays).apply (machine.stance? other) := by
  unfold exitThread
  simp only [stance?_eraseActor]
  split
  · rfl
  · exact machine.stance?_dropGuards label other _

theorem stance?_callThread (call : ThreadCall) :
    (machine.callThread attempt call).machine.stance? label =
      ((Call.thread call).turn attempt.actor label (machine.callThread attempt call).reply).apply
        (machine.stance? label) := by
  cases call with
  | current remembered => cases remembered <;> rfl
  | setFlags thread address mask =>
      simp only [callThread]
      split
      · rfl
      · apply stance?_setFlags
  | ownFlags request => exact stance?_callFlags _ attempt label _ request
  | start new name stack kernel =>
      exact machine.stance?_startThread attempt new label name _ kernel
  | startUnknown new name => exact machine.stance?_putActor new label name
  | giveWay => rfl
  | exit ending => exact machine.stance?_exitThread attempt.actor label ending
  | join thread =>
      simp only [callThread, joinThread]
      split <;> rfl
  | _ =>
      -- a thread is looked up
      simp only [callThread]
      split <;> rfl

theorem stance?_perform (call : Call) :
    (machine.perform attempt call).machine.stance? label =
      (call.turn attempt.actor label (machine.perform attempt call).reply).apply
        (machine.stance? label) := by
  cases call with
  | unlock => exact machine.stance?_dropGuard attempt.actor label
  | interrupt call =>
      cases call with
      | enter => exact machine.stance?_enterInterrupt attempt.actor label
      | leave => exact machine.stance?_leaveInterrupt attempt.actor label
      | status => rfl
  | thread call => exact machine.stance?_callThread attempt label call
  | mutex object call =>
      simp only [perform, onObject]
      split
      · rfl
      · apply stance?_callMutex
  | _ => exact stance?_changesStore label (machine.changesStore_perform attempt rfl)

/-- A call that is refused does nothing to any actor. -/
theorem Call.turn_of_refusal {call : Call} {refused : Reply}
    (refuses : call.refusal? = some refused) (reply : Reply) :
    call.turn attempt.actor label reply = .stays := by
  cases call with
  | interrupt call => contradiction
  | thread call => cases call <;> first | rfl | contradiction
  | _ => rfl

theorem Call.turn_conclude (next : Machine) (call : Call) (reply : Reply) :
    call.turn attempt.actor label
        (next.conclude attempt.actor (machine.errandOf call) reply).2 =
      call.turn attempt.actor label reply := by
  cases call with
  | thread call =>
      -- a call on threads uses no object, so no fault takes the place of its reply
      have told :
          (next.conclude attempt.actor (machine.errandOf (.thread call)) reply).2 = reply := by
        unfold conclude
        split <;> rfl
      rw [told]
  | interrupt call => cases call <;> rfl
  | _ => rfl

/-- An actor that has the reply to its call does not wait any more. -/
theorem stance?_conclude (errand : Errand) (reply : Reply) :
    (machine.conclude label errand reply).1.stance? other =
      if other = label then
        (machine.stance? other).map fun before =>
          { before with waiting := if reply = .blocked then some errand else none }
      else machine.stance? other := by
  have modified (change : Actor → Actor) (waiting : Option Errand)
      (waits : ∀ actor, (change actor).stance = { actor.stance with waiting }) :
      (machine.modifyActor label change).stance? other =
        if other = label then (machine.stance? other).map ({ · with waiting })
        else machine.stance? other := by
    simp only [stance?, get?_modifyActor]
    split
    · subst other
      cases machine.actors.get? label <;> simp [waits]
    · rfl
  unfold conclude
  split
  · exact modified _ _ fun _ => rfl
  · rename_i answered
    rw [if_neg answered]
    exact modified _ _ fun _ => rfl

/-! ## Counting guards -/

/-- How deep in interrupts an actor is, if it is there. -/
def depth? (machine : Machine) (label : Label) : Option Nat :=
  (machine.stance? label).map (·.nesting)

def Turn.depth? : Turn → Option Nat → Option Nat
  | stays, depth => depth
  | enters, depth => depth.map (· + 1)
  | leaves, depth => depth.map (· - 1)
  | begins, _ => some 0
  | ends, _ => none

theorem Turn.nesting_apply (turn : Turn) (stance : Option Stance) :
    (turn.apply stance).map (·.nesting) = turn.depth? (stance.map (·.nesting)) := by
  cases turn <;> cases stance <;> rfl

theorem depth?_conclude (errand : Errand) (reply : Reply) :
    (machine.conclude label errand reply).1.depth? other = machine.depth? other := by
  simp only [depth?, stance?_conclude]
  split
  · cases machine.stance? other <;> rfl
  · rfl

theorem depth?_call (call : Call) :
    (machine.call attempt call).machine.depth? label =
      (call.turn attempt.actor label (machine.call attempt call).reply).depth?
        (machine.depth? label) := by
  unfold Machine.call
  split
  · rename_i reply refused
    have refuses : call.refusal? = some reply := by
      simp only [refusal?] at refused
      split at refused
      · exact refused
      · contradiction
    rw [Call.turn_of_refusal attempt label refuses]
    rfl
  · dsimp only
    rw [depth?_conclude, Call.turn_conclude, depth?, stance?_perform, Turn.nesting_apply]
    rfl

/--
How deep in interrupts the actor of a label is after a step that had a reply. A step may
be made in an interrupt of its own.
-/
def Step.depthAfter? (step : Step) (label : Label) (reply : Reply) (depth : Option Nat) :
    Option Nat :=
  let after (call : Call) := (call.turn step.actor label reply).depth?
  if step.interrupt then
    after (.interrupt .leave) (after step.call (after (.interrupt .enter) depth))
  else after step.call depth

theorem depth?_wake (reply : Reply) :
    (machine.wake label reply).1.depth? other = machine.depth? other := by
  unfold wake
  split
  · rfl
  · apply depth?_conclude

theorem depth?_wakeAll (replies : Labelled Reply) :
    (machine.wakeAll replies).1.depth? label = machine.depth? label := by
  induction replies generalizing machine with
  | nil => rfl
  | cons head replies ih =>
      apply (ih _).trans
      apply depth?_wake

theorem depth?_settle : machine.settle.1.depth? label = machine.depth? label :=
  (depth?_wakeAll _ label _).trans rfl

theorem depth?_runStep (step : Step) :
    (machine.runStep step).1.depth? label =
      step.depthAfter? label (machine.runStep step).2.reply (machine.depth? label) := by
  have rested (effect : Effect) :
      effect.machine.settle.1.depth? label = effect.machine.depth? label :=
    effect.machine.depth?_settle label
  have entered (actor : Label) : (machine.enterInterrupt actor).depth? label =
      ((Call.interrupt .enter).turn actor label .done).depth? (machine.depth? label) := by
    rw [depth?, stance?_enterInterrupt, Turn.nesting_apply]
    rfl
  have left (next : Machine) (actor : Label) : (next.leaveInterrupt actor).depth? label =
      ((Call.interrupt .leave).turn actor label .done).depth? (next.depth? label) := by
    rw [depth?, stance?_leaveInterrupt, Turn.nesting_apply]
    rfl
  simp only [runStep, rested, Step.depthAfter?]
  split
  · simp only [callInInterrupt, left, depth?_call, entered]
    rfl
  · apply depth?_call

/-- The machine after some steps. -/
def after (machine : Machine) : List Step → Machine
  | [] => machine
  | step :: steps => (machine.runStep step).1.after steps

/-- Some steps with the replies that they have. -/
def answers (machine : Machine) : List Step → List (Step × Reply)
  | [] => []
  | step :: steps =>
      (step, (machine.runStep step).2.reply) :: (machine.runStep step).1.answers steps

/--
How many interrupt guards of the actor of a label are live after some steps, if there is
one: it makes one whenever it enters an interrupt and drops one whenever it leaves, and an
actor that begins has none.
-/
def liveGuards? (label : Label) (answers : List (Step × Reply)) (depth : Option Nat) :
    Option Nat :=
  answers.foldl (fun depth answer => answer.1.depthAfter? label answer.2 depth) depth

/-- Nesting counts the live guards. -/
theorem depth?_after (steps : List Step) :
    (machine.after steps).depth? label =
      liveGuards? label (machine.answers steps) (machine.depth? label) := by
  induction steps generalizing machine with
  | nil => rfl
  | cons step steps ih =>
      apply (ih _).trans
      rw [depth?_runStep]
      rfl

end Machine

end Rtos
