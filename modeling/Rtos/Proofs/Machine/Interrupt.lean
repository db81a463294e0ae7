import Rtos.Proofs.Machine.Nesting
import Rtos.Proofs.Sync.Calls
import Rtos.Proofs.Thread.Table

/-!
# Calls in interrupt context

An actor that is in interrupt context never waits. A call of its either does what it is made
for, or is refused, or is a mistake that stops the program; and a call that is refused, or
is such a mistake, leaves no trace, not even the thread of its caller.

Nothing is said here of the wait for the end of a thread.
-/

namespace Rtos

namespace Machine

/--
Whether the rules of interrupt context are for a call. They are not for the wait for the end
of a thread, for a wait of the host, and for a set of the caller's own flags, which threads
set by number or handle only.
-/
def Call.isGoverned : Call → Bool
  | thread (.join _) => false
  | thread (.ownFlags (.set _)) => false
  | awaitReport => false
  | _ => true

/-- A call is refused in interrupt context with an error. -/
inductive Call.RefusedWith : Call → Error → Prop where
  | acquire (object : Label) (timeout : Timeout) :
      RefusedWith (.mutex object (.acquire timeout)) .wouldBlockInInterrupt
  | lock (object : Label) (timeout : Timeout) :
      RefusedWith (.mutex object (.lock timeout)) .wouldBlockInInterrupt
  | release (object : Label) : RefusedWith (.mutex object .release) .invalidInInterrupt
  | awaitFlags (object : Label) (mask : UInt32) (mode : Sync.WaitMode) (clear : Bool)
      (timeout : Timeout) :
      RefusedWith (.eventFlag object (.wait mask mode clear timeout)) .wouldBlockInInterrupt
  | awaitOwnFlags (mask : UInt32) (mode : Sync.WaitMode) (clear : Bool) (timeout : Timeout) :
      RefusedWith (.thread (.ownFlags (.wait mask mode clear timeout))) .wouldBlockInInterrupt
  | clearOwnFlags (mask : UInt32) :
      RefusedWith (.thread (.ownFlags (.clear mask))) .invalidInInterrupt
  | getOwnFlags : RefusedWith (.thread (.ownFlags .get)) .invalidInInterrupt
  | takeToken (object : Label) (timeout : Timeout) (long : timeout.isPoll = false) :
      RefusedWith (.semaphore object (.request (.acquire timeout))) .invalidInInterrupt
  | putItem (object : Label) (item : Value) (timeout : Timeout) (long : timeout.isPoll = false) :
      RefusedWith (.queue object (.request (.put item timeout))) .invalidInInterrupt
  | getItem (object : Label) (timeout : Timeout) (long : timeout.isPoll = false) :
      RefusedWith (.queue object (.request (.get timeout))) .invalidInInterrupt
  | reset (object : Label) :
      RefusedWith (.queue object (.request .reset)) .invalidInInterrupt

/-- The record of the thread that is named by its number or by a handle. -/
def Address.thread? (address : Address) (table : ThreadTable Label) (id : ThreadId) :
    Option (Thread Label) :=
  match address with
  | .number => table.find? id
  | .handle => table.get? id

/-- A call is a mistake in interrupt context, for what it is or for its arguments. -/
inductive Fatal (machine : Machine) : Call → Prop where
  | registry (object : Label) (call : RegistryCall) (other : call ≠ .teardown) :
      Fatal machine (.registry object call)
  | delay (way : Delay) : Fatal machine (.delay way)
  | setEventBits (object : Label) (monitor : FlagMonitor) (mask : UInt32)
      (named : machine.store.named? object = some (.eventFlag monitor))
      (outside : mask &&& ~~~monitor.object.valid ≠ 0) :
      Fatal machine (.eventFlag object (.set mask))
  | clearEventBits (object : Label) (monitor : FlagMonitor) (mask : UInt32)
      (named : machine.store.named? object = some (.eventFlag monitor))
      (outside : mask &&& ~~~monitor.object.valid ≠ 0) :
      Fatal machine (.eventFlag object (.clear mask))
  | setThreadBits (label : Label) (address : Address) (mask : UInt32) (id : ThreadId)
      (thread : Thread Label) (remembered : machine.handles.get? label = some id)
      (found : address.thread? machine.table id = some thread)
      (outside : mask &&& ~~~thread.flags.object.valid ≠ 0) :
      Fatal machine (.thread (.setFlags label address mask))
  | create (object : Label) (creation : Creation) (fault : Fault)
      (bad : Object.create creation = .error fault) : Fatal machine (.create object creation)

/--
A fault of a call that has done something: a held mutex has come to its end with its last
label or guard, or a thread was registered with a name that the host does not take.
-/
inductive Call.Breaks : Call → Fault → Prop where
  | create (object : Label) (creation : Creation) (owner : ThreadId) :
      Breaks (.create object creation) (.heldMutexDestroyed owner)
  | discard (object : Label) (owner : ThreadId) :
      Breaks (.discard object) (.heldMutexDestroyed owner)
  | unlock (owner : ThreadId) : Breaks .unlock (.heldMutexDestroyed owner)
  | start (actor : Label) (name : String) (stack : Option Nat) (kernel : Option Label)
      (nul : name.contains '\x00' = true) :
      Breaks (.thread (.start actor (some name) stack kernel)) (.nulInThreadName name)

/-- Nothing has changed that anybody could notice. -/
structure Unchanged (before after : Machine) : Prop where
  store : after.store = before.store
  table : after.table = before.table
  handles : after.handles = before.handles
  joinable : after.joinable = before.joinable
  entries : after.entries = before.entries
  actors (label : Label) : after.actors.get? label = before.actors.get? label

/-- An actor does not wait, if it is there. -/
def Idle (machine : Machine) (label : Label) : Prop :=
  ∀ actor, machine.actors.get? label = some actor → actor.waiting = none

/-- What a call in interrupt context comes to. -/
structure Prompt (machine : Machine) (attempt : Attempt) (call : Call) : Prop where
  answered : (machine.call attempt call).reply ≠ .blocked
  awake : (machine.call attempt call).machine.Idle attempt.actor
  refused (error : Error) :
      call.RefusedWith error ↔
        (machine.call attempt call).reply = .failed error ∧
          (error = .wouldBlockInInterrupt ∨ error = .invalidInInterrupt)
  stops (fatal : Fatal machine call) :
      ∃ fault, (machine.call attempt call).reply = .broken fault
  fatal (fault : Fault) (broken : (machine.call attempt call).reply = .broken fault) :
      Fatal machine call ∨ call.Breaks fault
  traceless (turned : (∃ error, call.RefusedWith error) ∨ Fatal machine call) :
      Unchanged machine (machine.call attempt call).machine ∧
        (machine.call attempt call).events = []

/-! ## Refusals -/

theorem Call.RefusedWith.error {call : Call} {error : Error} (refused : call.RefusedWith error) :
    error = .wouldBlockInInterrupt ∨ error = .invalidInInterrupt := by
  cases refused <;> simp

theorem Call.RefusedWith.refusal? {call : Call} {error : Error}
    (refused : call.RefusedWith error) : call.refusal? = some (.failed error) := by
  cases refused with
  | takeToken object timeout long =>
      simp [Call.refusal?, Sync.Semaphore.Request.refusal?, long]
  | putItem object item timeout long =>
      simp [Call.refusal?, Sync.Queue.Request.refusal?, long]
  | getItem object timeout long =>
      simp [Call.refusal?, Sync.Queue.Request.refusal?, long]
  | _ => rfl

theorem Call.refusedWith_mutex (object : Label) {call : MutexCall} {reply : Reply}
    (refuses : call.refusal? = some reply) :
    ∃ error, reply = .failed error ∧ (Call.mutex object call).RefusedWith error := by
  cases call with
  | kind => contradiction
  | owner => contradiction
  | acquire timeout =>
      cases refuses
      exact ⟨_, rfl, .acquire object timeout⟩
  | lock timeout =>
      cases refuses
      exact ⟨_, rfl, .lock object timeout⟩
  | release =>
      cases refuses
      exact ⟨_, rfl, .release object⟩

theorem Call.refusedWith_semaphore (object : Label) {request : Sync.Semaphore.Request}
    {error : Error} (refuses : request.refusal? = some error) :
    (Call.semaphore object (.request request)).RefusedWith error := by
  cases request with
  | release => contradiction
  | acquire timeout =>
      cases long : timeout.isPoll <;> simp [Sync.Semaphore.Request.refusal?, long] at refuses
      subst refuses
      exact .takeToken object timeout long

theorem Call.refusedWith_eventFlag (object : Label) {request : Sync.FlagWord.Request}
    {error : Error} (refuses : request.eventRefusal? = some error) :
    (Call.eventFlag object request).RefusedWith error := by
  cases request with
  | wait mask mode clear timeout =>
      cases refuses
      exact .awaitFlags object mask mode clear timeout
  | _ => contradiction

theorem Call.refusedWith_queue (object : Label) {request : Sync.Queue.Request Value}
    {error : Error} (refuses : request.refusal? = some error) :
    (Call.queue object (.request request)).RefusedWith error := by
  cases request with
  | put item timeout =>
      cases long : timeout.isPoll <;> simp [Sync.Queue.Request.refusal?, long] at refuses
      subst refuses
      exact .putItem object item timeout long
  | get timeout =>
      cases long : timeout.isPoll <;> simp [Sync.Queue.Request.refusal?, long] at refuses
      subst refuses
      exact .getItem object timeout long
  | reset =>
      cases refuses
      exact .reset object

theorem Call.refusedWith_ownFlags {request : Sync.FlagWord.Request} {error : Error}
    (refuses : request.threadRefusal? = some error) :
    (Call.thread (.ownFlags request)).RefusedWith error := by
  cases request with
  | set mask => contradiction
  | clear mask =>
      cases refuses
      exact .clearOwnFlags mask
  | get =>
      cases refuses
      exact .getOwnFlags
  | wait mask mode clear timeout =>
      cases refuses
      exact .awaitOwnFlags mask mode clear timeout

/-- A call on the registry is not refused but a mistake, except for its end. -/
theorem fatal_registry (machine : Machine) (object : Label) {call : RegistryCall} {reply : Reply}
    (refuses : call.refusal? = some reply) :
    (∃ fault, reply = .broken fault) ∧ Fatal machine (.registry object call) := by
  rw [RegistryCall.refusal?, Option.map_eq_some_iff] at refuses
  rcases refuses with ⟨mention, mentioned, rfl⟩
  refine ⟨⟨_, rfl⟩, .registry object call ?_⟩
  rintro rfl
  contradiction

/-- A call that is refused is refused with an error, or is a mistake. -/
theorem Call.refusal_cases (machine : Machine) {call : Call} {reply : Reply}
    (refuses : call.refusal? = some reply) :
    (∃ error, reply = .failed error ∧ call.RefusedWith error) ∨
      (∃ fault, reply = .broken fault) ∧ Fatal machine call := by
  cases call with
  | mutex object call => exact .inl (refusedWith_mutex object refuses)
  | semaphore object call =>
      cases call with
      | request request =>
          rcases Option.map_eq_some_iff.mp refuses with ⟨error, refused, rfl⟩
          exact .inl ⟨error, rfl, refusedWith_semaphore object refused⟩
      | _ => contradiction
  | eventFlag object request =>
      rcases Option.map_eq_some_iff.mp refuses with ⟨error, refused, rfl⟩
      exact .inl ⟨error, rfl, refusedWith_eventFlag object refused⟩
  | queue object call =>
      cases call with
      | request request =>
          rcases Option.map_eq_some_iff.mp refuses with ⟨error, refused, rfl⟩
          exact .inl ⟨error, rfl, refusedWith_queue object refused⟩
      | _ => contradiction
  | registry object call => exact .inr (fatal_registry machine object refuses)
  | delay way =>
      cases refuses
      exact .inr ⟨⟨_, rfl⟩, .delay way⟩
  | thread call =>
      cases call with
      | ownFlags request =>
          rcases Option.map_eq_some_iff.mp refuses with ⟨error, refused, rfl⟩
          exact .inl ⟨error, rfl, refusedWith_ownFlags refused⟩
      | _ => contradiction
  | _ => contradiction

/-! ## Calls that are not refused -/

/-- Whether a reply tells of a call that was neither refused nor a mistake, and has ended. -/
def Reply.isPlain : Reply → Bool
  | broken _ => false
  | blocked => false
  | failed .wouldBlockInInterrupt => false
  | failed .invalidInInterrupt => false
  | _ => true

namespace Attempt

variable {Monitored Request Condition Result : Type} [DecidableEq Condition]
  {pass : Monitored → Request → Sync.Pass Monitored Condition Result}
  {success : Result → Reply} {monitor : Sync.Monitor Label Monitored Request Condition}
  {request : Request}

theorem reply_of_finish (attempt : Attempt) {result : Except Error Result} {object : Monitored}
    {signals : List (Sync.Signal Condition)}
    (finishes : pass monitor.object request = .finish result object signals) :
    (attempt.make pass success monitor request).2 = replyOf success (.finished result) := by
  simp only [make, Sync.Monitor.call, Sync.Monitor.attempt, finishes]

theorem reply_of_poll (attempt : Attempt) {condition : Condition} {timeout : Timeout}
    (waits : pass monitor.object request = .wait condition timeout)
    (poll : timeout.isPoll = true) :
    (attempt.make pass success monitor request).2 = .failed .resource := by
  simp [make, Sync.Monitor.call, Sync.Monitor.attempt, waits, poll, replyOf,
    Timeout.expiredError]

theorem make_of_abort (attempt : Attempt) {fault : Fault}
    (aborts : pass monitor.object request = .abort fault) :
    attempt.make pass success monitor request = (monitor, .broken fault) := by
  simp only [make, Sync.Monitor.call, Sync.Monitor.attempt, aborts]
  rfl

/-- A request for tokens that is not refused passes at once. -/
theorem isPlain_semaphore (attempt : Attempt) (monitor : SemaphoreMonitor)
    {request : Sync.Semaphore.Request} (allowed : request.refusal? = none) :
    (attempt.make Sync.Semaphore.pass (fun _ => .done) monitor request).2.isPlain = true := by
  have done := monitor.object.does request
  generalize passed : monitor.object.pass request = outcome at done
  cases done with
  | waits timeout none =>
      have poll : timeout.isPoll = true := by simpa [Sync.Semaphore.Request.refusal?] using allowed
      rw [attempt.reply_of_poll passed poll]
      rfl
  | acquired | released | refused =>
      rw [attempt.reply_of_finish passed]
      rfl

/-- A request for items or room that is not refused passes at once. -/
theorem isPlain_queue (attempt : Attempt) (monitor : QueueMonitor)
    {request : Sync.Queue.Request Value} (allowed : request.refusal? = none) :
    (attempt.make Sync.Queue.pass Object.queueReply monitor request).2.isPlain = true := by
  have done := monitor.object.does request
  generalize passed : monitor.object.pass request = outcome at done
  cases done with
  | full item timeout full =>
      have poll : timeout.isPoll = true := by simpa [Sync.Queue.Request.refusal?] using allowed
      rw [attempt.reply_of_poll passed poll]
      rfl
  | empty timeout empty =>
      have poll : timeout.isPoll = true := by simpa [Sync.Queue.Request.refusal?] using allowed
      rw [attempt.reply_of_poll passed poll]
      rfl
  | stored | taken | reset =>
      rw [attempt.reply_of_finish passed]
      rfl

/-- A request for flags that does not wait passes at once, unless its bits are not valid. -/
theorem isPlain_flags (attempt : Attempt) (monitor : FlagMonitor)
    (request : Sync.FlagWord.Request) (allowed : request.eventRefusal? = none)
    (valid : request.mask &&& ~~~monitor.object.valid = 0) :
    (attempt.make Sync.FlagWord.pass .word monitor request).2.isPlain = true := by
  have done := monitor.object.does request
  generalize passed : monitor.object.pass request = outcome at done
  cases done with
  | invalid _ invalid => contradiction
  | waits | kept | consumed => contradiction
  | set | cleared | got =>
      rw [attempt.reply_of_finish passed]
      rfl

theorem make_invalid_flags (attempt : Attempt) (monitor : FlagMonitor)
    (request : Sync.FlagWord.Request) (invalid : request.mask &&& ~~~monitor.object.valid ≠ 0) :
    attempt.make Sync.FlagWord.pass .word monitor request =
      (monitor,
        .broken (.invalidFlagBits monitor.object.owner request.mask monitor.object.valid)) := by
  apply make_of_abort
  simp [Sync.FlagWord.pass, invalid]

end Attempt

theorem Store.put_self {store : Store} {id : ObjectId} {object : Object}
    (stored : store.get? id = some object) : store.put id object = store := by
  simp only [get?, List.getElem?_eq_some_iff] at stored
  rcases stored with ⟨bounded, rfl⟩
  simp [put]

theorem teardown_result (registry : Registry Label) :
    registry.teardown.1 = .ok () ∨ registry.teardown.1 = .error .inUse := by
  simp only [Registry.teardown]
  split
  · exact .inl rfl
  · exact .inr rfl

theorem kernelTeardown_result (kernel : Kernel Label) :
    kernel.teardown.1 = .ok () ∨ kernel.teardown.1 = .error .inUse := by
  simp only [Kernel.teardown]
  rcases teardown_result kernel.registry with told | told
  · simp [told]
  · simp [told]

/-- What a call that is not refused comes to. -/
inductive Comes (machine : Machine) (call : Call) (effect : Effect) : Prop where
  | completes (plain : effect.reply.isPlain = true) (sound : ¬ Fatal machine call)
  | breaks (fault : Fault) (broken : effect.reply = .broken fault) (breaks : call.Breaks fault)
      (sound : ¬ Fatal machine call)
  | stops (fault : Fault) (stopped : effect = { machine, reply := .broken fault })
      (fatal : Fatal machine call)

section Performed

variable {machine : Machine} {label : Label}

theorem heldMutexDestroyed_of_endFault? {id : ObjectId} {fault : Fault}
    (ends : machine.endFault? id = some fault) : ∃ owner, fault = .heldMutexDestroyed owner := by
  simp only [endFault?] at ends
  split at ends
  · contradiction
  · simp only [Option.bind_eq_some_iff] at ends
    rcases ends with ⟨object, _, discarded⟩
    cases object with
    | mutex monitor =>
        simp only [Object.discardFault?, Sync.Mutex.destroyFault?,
          Option.map_eq_some_iff] at discarded
        rcases discarded with ⟨owner, _, rfl⟩
        exact ⟨owner, rfl⟩
    | _ => contradiction

theorem heldMutexDestroyed_of_forget {fault : Fault}
    (ends : (machine.forget label).2 = some fault) :
    ∃ owner, fault = .heldMutexDestroyed owner := by
  simp only [forget, Option.bind_eq_some_iff] at ends
  rcases ends with ⟨id, _, ends⟩
  exact heldMutexDestroyed_of_endFault? ends

/-- A call that may end a mutex completes, or the mutex was held. -/
theorem Comes.of_afterFault {call : Call} {effect : Effect} {ends : Option Fault}
    (told : effect.reply = Reply.done.afterFault ends) (sound : ¬ Fatal machine call)
    (held : ∀ fault, ends = some fault → call.Breaks fault) : Comes machine call effect := by
  cases ends with
  | none =>
      apply Comes.completes _ sound
      rw [told]
      rfl
  | some fault => exact .breaks fault told (held fault rfl) sound

variable (machine label)

theorem comes_create (creation : Creation) :
    Comes machine (.create label creation) (machine.createObject label creation) := by
  rw [createObject]
  split
  · rename_i object created
    apply Comes.of_afterFault rfl
    · rintro (_ | _ | _ | _ | _ | ⟨_, _, fault, bad⟩)
      rw [created] at bad
      contradiction
    · intro fault ends
      rcases heldMutexDestroyed_of_forget ends with ⟨owner, rfl⟩
      exact .create label creation owner
  · rename_i fault bad
    exact .stops fault rfl (.create label creation fault bad)

theorem comes_discard : Comes machine (.discard label) (machine.discardObject label) := by
  rw [discardObject]
  split
  · exact .completes rfl (by rintro ⟨⟩)
  · apply Comes.of_afterFault rfl (by rintro ⟨⟩)
    intro fault ends
    rcases heldMutexDestroyed_of_forget ends with ⟨owner, rfl⟩
    exact .discard label owner

theorem comes_unlock : Comes machine .unlock (machine.dropGuard label) := by
  rw [dropGuard]
  split
  · apply Comes.of_afterFault rfl (by rintro ⟨⟩)
    intro fault ends
    rcases heldMutexDestroyed_of_endFault? ends with ⟨owner, rfl⟩
    exact .unlock owner
  · exact .completes rfl (by rintro ⟨⟩)

variable (attempt : Attempt)

theorem comes_mutex {call : MutexCall} (allowed : call.refusal? = none) :
    Comes machine (.mutex label call) (machine.perform attempt (.mutex label call)) := by
  apply Comes.completes _ (by rintro ⟨⟩)
  simp only [perform, onObject]
  split
  · rfl
  · simp only [callMutex]
    split
    · rfl
    · cases call with
      | kind => rfl
      | owner => rfl
      | _ => contradiction

theorem comes_semaphore {call : SemaphoreCall}
    (allowed : (Call.semaphore label call).refusal? = none) :
    Comes machine (.semaphore label call) (machine.perform attempt (.semaphore label call)) := by
  apply Comes.completes _ (by rintro ⟨⟩)
  simp only [perform, onObject]
  split
  · rfl
  · simp only [callSemaphore]
    split
    · cases call with
      | count => rfl
      | maximum => rfl
      | request request =>
          apply attempt.isPlain_semaphore
          simpa [Call.refusal?] using allowed
    · rfl

theorem comes_queue {call : QueueCall} (allowed : (Call.queue label call).refusal? = none) :
    Comes machine (.queue label call) (machine.perform attempt (.queue label call)) := by
  apply Comes.completes _ (by rintro ⟨⟩)
  simp only [perform, onObject]
  split
  · rfl
  · simp only [callQueue]
    split
    · cases call with
      | size => rfl
      | counts => rfl
      | request request =>
          apply attempt.isPlain_queue
          simpa [Call.refusal?] using allowed
    · rfl

/-- A call on the flags of an event flag that are all valid passes at once. -/
theorem isPlain_eventFlag {request : Sync.FlagWord.Request}
    (allowed : request.eventRefusal? = none)
    (valid : ∀ monitor, machine.store.named? label = some (.eventFlag monitor) →
      request.mask &&& ~~~monitor.object.valid = 0) :
    (machine.perform attempt (.eventFlag label request)).reply.isPlain = true := by
  simp only [perform, onObject]
  split
  · rfl
  · rename_i id labelled
    simp only [callEventFlag]
    split
    · rename_i monitor stored
      apply attempt.isPlain_flags monitor request allowed
      apply valid
      simp [Store.named?, labelled, stored]
    · rfl

theorem perform_eventFlag_of_outside {monitor : FlagMonitor} {request : Sync.FlagWord.Request}
    (named : machine.store.named? label = some (.eventFlag monitor))
    (outside : request.mask &&& ~~~monitor.object.valid ≠ 0) :
    ∃ fault, machine.perform attempt (.eventFlag label request) =
      { machine, reply := .broken fault } := by
  simp only [Store.named?, Option.bind_eq_some_iff] at named
  rcases named with ⟨id, labelled, stored⟩
  simp only [perform, onObject, labelled, callEventFlag, stored,
    attempt.make_invalid_flags monitor request outside, putObject, Store.put_self stored]
  exact ⟨_, rfl⟩

theorem comes_eventFlag {request : Sync.FlagWord.Request}
    (allowed : (Call.eventFlag label request).refusal? = none) :
    Comes machine (.eventFlag label request)
      (machine.perform attempt (.eventFlag label request)) := by
  have waitless : request.eventRefusal? = none := by simpa [Call.refusal?] using allowed
  by_cases fatal : Fatal machine (.eventFlag label request)
  · have stopped : ∃ fault, machine.perform attempt (.eventFlag label request) =
        { machine, reply := .broken fault } := by
      cases fatal with
      | setEventBits _ monitor mask named outside | clearEventBits _ monitor mask named outside =>
          exact machine.perform_eventFlag_of_outside label attempt named outside
    rcases stopped with ⟨fault, stopped⟩
    exact .stops fault stopped fatal
  · apply Comes.completes _ fatal
    apply isPlain_eventFlag _ _ _ waitless
    intro monitor named
    apply Decidable.byContradiction
    intro outside
    cases request with
    | set mask => exact fatal (.setEventBits label monitor mask named outside)
    | clear mask => exact fatal (.clearEventBits label monitor mask named outside)
    | get => exact outside (UInt32.zero_and ..)
    | wait => contradiction

theorem isPlain_ofTeardown {outcome : Except Error Unit × List LogEvent}
    (told : outcome.1 = .ok () ∨ outcome.1 = .error .inUse) :
    (machine.ofTeardown label outcome).reply.isPlain = true := by
  rcases told with told | told <;> simp [ofTeardown, told, Reply.isPlain]

theorem comes_registry {call : RegistryCall}
    (allowed : (Call.registry label call).refusal? = none) :
    Comes machine (.registry label call) (machine.perform attempt (.registry label call)) := by
  cases call with
  | teardown =>
      apply Comes.completes
      · simp only [perform, onObject]
        split
        · rfl
        · simp only [callRegistry]
          split
          · rfl
          · apply isPlain_ofTeardown
            apply teardown_result
      · rintro ⟨⟩
        contradiction
  | _ => contradiction

theorem comes_kernel (call : KernelCall) :
    Comes machine (.kernel label call) (machine.perform attempt (.kernel label call)) := by
  apply Comes.completes _ (by rintro ⟨⟩)
  simp only [perform, onObject]
  split
  · rfl
  · simp only [callKernel]
    split
    · rename_i kernel _
      cases call with
      | bringUp =>
          simp only [Kernel.bringUp]
          cases kernel.initialized <;> rfl
      | config => rfl
      | teardown =>
          apply isPlain_ofTeardown
          apply kernelTeardown_result
    · rfl

/-! ### Calls on threads -/

theorem get?_of_thread? {address : Address} {table : ThreadTable Label} {id : ThreadId}
    {thread : Thread Label} (found : address.thread? table id = some thread) :
    table.get? id = some thread := by
  cases address with
  | handle => exact found
  | number =>
      simp only [Address.thread?, ThreadTable.find?] at found
      split at found
      · exact found
      · contradiction

/-- A set of flags reaches the thread that is named. -/
theorem setFlags_of_thread? {id : ThreadId} {address : Address} (mask : UInt32)
    {thread : Thread Label} (found : address.thread? machine.table id = some thread) :
    machine.setFlags attempt id address mask =
      let (flags, reply) := attempt.make Sync.FlagWord.pass .word thread.flags (.set mask)
      { machine := machine.putTable (machine.table.putFlags id flags), reply } := by
  have called : machine.setFlags attempt id address mask =
      machine.callFlags attempt id (.set mask) := by
    cases address with
    | handle => rfl
    | number =>
        have known : machine.table.find? id = some thread := found
        simp only [setFlags, known]
  rw [called, callFlags, get?_of_thread? found]

theorem setFlags_of_missing {id : ThreadId} {address : Address} (mask : UInt32)
    (missing : address.thread? machine.table id = none) :
    machine.setFlags attempt id address mask =
      { machine, reply := .failed .invalidParameter } := by
  cases address with
  | handle =>
      have unknown : machine.table.get? id = none := missing
      simp only [setFlags, callFlags, unknown]
  | number =>
      have unknown : machine.table.find? id = none := missing
      simp only [setFlags, unknown]

theorem comes_setFlags (address : Address) (mask : UInt32) :
    Comes machine (.thread (.setFlags label address mask))
      (machine.perform attempt (.thread (.setFlags label address mask))) := by
  simp only [perform, callThread]
  cases remembered : machine.handles.get? label with
  | none =>
      apply Comes.completes rfl
      rintro (_ | _ | _ | _ | ⟨_, _, _, id, thread, known, found, outside⟩)
      simp [remembered] at known
  | some id =>
      cases found : address.thread? machine.table id with
      | none =>
          simp only [machine.setFlags_of_missing attempt mask found]
          apply Comes.completes rfl
          rintro (_ | _ | _ | _ | ⟨_, _, _, other, thread, known, reached, outside⟩)
          simp_all
      | some thread =>
          simp only [machine.setFlags_of_thread? attempt mask found]
          by_cases valid : mask &&& ~~~thread.flags.object.valid = 0
          · apply Comes.completes
            · exact attempt.isPlain_flags thread.flags (.set mask) rfl valid
            · rintro (_ | _ | _ | _ | ⟨_, _, _, other, same, known, reached, outside⟩)
              simp_all
          · have known : machine.table.putFlags id thread.flags = machine.table :=
              ThreadTable.putFlags_self (get?_of_thread? found)
            simp only [attempt.make_invalid_flags thread.flags (.set mask) valid, known]
            exact .stops _ rfl (.setThreadBits label address mask id thread remembered found valid)

theorem comes_start (name : Option String) (stack : Option Nat) (kernel : Option Label) :
    Comes machine (.thread (.start label name stack kernel))
      (machine.perform attempt (.thread (.start label name stack kernel))) := by
  simp only [perform, callThread, startThread]
  split
  · rename_i broken held
    simp only [Option.filter_eq_some_iff] at held
    rcases held with ⟨rfl, nul⟩
    exact .breaks _ rfl (.start label broken stack kernel nul) (by rintro ⟨⟩)
  · apply Comes.completes _ (by rintro ⟨⟩)
    split <;> rfl

/-- Every call that the rules are for comes to one of three ends if it is not refused. -/
theorem comes_perform {call : Call} (governed : call.isGoverned = true)
    (allowed : call.refusal? = none) : Comes machine call (machine.perform attempt call) := by
  cases call with
  | create object creation => exact machine.comes_create object creation
  | discard object => exact machine.comes_discard object
  | mutex object call => exact machine.comes_mutex object attempt allowed
  | unlock => exact machine.comes_unlock attempt.actor
  | semaphore object call => exact machine.comes_semaphore object attempt allowed
  | eventFlag object request => exact machine.comes_eventFlag object attempt allowed
  | queue object call => exact machine.comes_queue object attempt allowed
  | registry object call => exact machine.comes_registry object attempt allowed
  | kernel object call => exact machine.comes_kernel object attempt call
  | delay way => contradiction
  | interrupt call => cases call <;> exact .completes rfl (by rintro ⟨⟩)
  | awaitReport => contradiction
  | thread call =>
      cases call with
      | setFlags thread address mask => exact machine.comes_setFlags thread attempt address mask
      | start actor name stack kernel => exact machine.comes_start actor attempt name stack kernel
      | join thread => contradiction
      | ownFlags request => cases request <;> contradiction
      | current remembered =>
          apply Comes.completes _ (by rintro ⟨⟩)
          simp only [perform, callThread, currentThread]
          split <;> rfl
      | startUnknown actor name => exact .completes rfl (by rintro ⟨⟩)
      | giveWay => exact .completes rfl (by rintro ⟨⟩)
      | exit ending => exact .completes rfl (by rintro ⟨⟩)
      | _ =>
          -- a thread is looked up
          apply Comes.completes _ (by rintro ⟨⟩)
          simp only [perform, callThread]
          split <;> rfl

end Performed

end Machine

end Rtos
