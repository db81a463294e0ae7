import Rtos.Proofs.Machine.Interrupt

/-!
# Prompt calls

What the rules of interrupt context come to. A call of an actor that is in an interrupt is
answered at once, so no actor waits that is in an interrupt, whatever has happened; and who
is in one can be told from the guards that are live.
-/

namespace Rtos

namespace Machine

/-! ## The objects of calls -/

section Objects

variable {machine : Machine} {label : Label} (attempt : Attempt) {id : ObjectId}

theorem endFault?_of_labels {next : Machine} (labelled : machine.store.idOf? label = some id)
    (labels : next.store.labels = machine.store.labels) : next.endFault? id = none := by
  have used : next.isUsed id = true := by
    simp only [isUsed, Store.isLabelled, labels, Bool.or_eq_true]
    apply Or.inl
    simp only [Store.idOf?, Labelled.get?] at labelled
    generalize machine.store.labels = things at labelled ⊢
    induction things with
    | nil => contradiction
    | cons head things ih =>
        rw [List.lookup_cons] at labelled
        split at labelled
        · cases labelled
          simp
        · simp [ih labelled]
  simp [endFault?, used]

theorem endFault?_of_registry {registry : Registry Label}
    (found : machine.registryOf? id = some registry) : machine.endFault? id = none := by
  simp only [registryOf?, Option.bind_eq_some_iff] at found
  rcases found with ⟨object, stored, holds⟩
  simp only [endFault?, stored]
  split
  · rfl
  · cases object with
    | mutex monitor => contradiction
    | _ => rfl

theorem endFault?_of_changesObjects {performed next : Machine}
    (labelled : machine.store.idOf? label = some id) (changes : machine.ChangesObjects performed)
    (store : next.store = performed.store) : next.endFault? id = none := by
  rcases changes with ⟨objects, rfl⟩
  apply endFault?_of_labels labelled
  rw [store]

/-- A call that is not refused in interrupt context does not end its object with a fault. -/
theorem endFault?_perform {call : Call} (allowed : call.refusal? = none)
    (uses : (machine.errandOf call).object = some id) {next : Machine}
    (store : next.store = (machine.perform attempt call).machine.store) :
    next.endFault? id = none := by
  cases call with
  | mutex object call =>
      have labelled : machine.store.idOf? object = some id := uses
      simp only [perform, onObject, labelled] at store
      rcases machine.callMutex_cases attempt id call with same | changes
      · rw [same] at store
        exact endFault?_of_labels labelled (by rw [store])
      · exact @endFault?_of_changesObjects (machine.current _).1 _ _ _ _ labelled changes store
  | semaphore object call =>
      have labelled : machine.store.idOf? object = some id := uses
      simp only [perform, onObject, labelled] at store
      have changes := machine.changesObjects_callSemaphore attempt id call
      exact endFault?_of_changesObjects labelled changes store
  | eventFlag object request =>
      have labelled : machine.store.idOf? object = some id := uses
      simp only [perform, onObject, labelled] at store
      have changes := machine.changesObjects_callEventFlag attempt id request
      exact endFault?_of_changesObjects labelled changes store
  | queue object call =>
      have labelled : machine.store.idOf? object = some id := uses
      simp only [perform, onObject, labelled] at store
      have changes := machine.changesObjects_callQueue attempt id call
      exact endFault?_of_changesObjects labelled changes store
  | registry object call =>
      have labelled : machine.store.idOf? object = some id := uses
      cases call with
      | teardown =>
          simp only [perform, onObject, labelled, callRegistry] at store
          split at store
          · apply endFault?_of_labels labelled
            rw [store]
          · rename_i registry found
            have kept : next.registryOf? id = some registry := by
              rw [registryOf?, store]
              exact found
            exact endFault?_of_registry kept
      | _ => contradiction
  | _ => contradiction

end Objects

/-! ## Calls in interrupt context -/

theorem Reply.isPlain_iff {reply : Reply} :
    reply.isPlain = true ↔
      reply ≠ .blocked ∧ reply.fault? = none ∧
        reply ≠ .failed .wouldBlockInInterrupt ∧ reply ≠ .failed .invalidInInterrupt := by
  cases reply with
  | failed error => cases error <;> simp [isPlain, fault?]
  | _ => simp [isPlain, fault?]

theorem Fatal.broken_of_refusal {machine : Machine} {call : Call} {reply : Reply}
    (fatal : Fatal machine call) (refuses : call.refusal? = some reply) :
    ∃ fault, reply = .broken fault := by
  cases fatal with
  | registry object call other =>
      simp only [Call.refusal?, RegistryCall.refusal?, Option.map_eq_some_iff] at refuses
      rcases refuses with ⟨mention, _, rfl⟩
      exact ⟨_, rfl⟩
  | delay way =>
      cases refuses
      exact ⟨_, rfl⟩
  | _ => contradiction

section Interrupted

variable {machine : Machine} {attempt : Attempt} {call : Call}

/-- An actor that has the reply to a call of its own. -/
def Actor.told (errand : Errand) (reply : Reply) (actor : Actor) : Actor :=
  { actor with waiting := none, guards := errand.guards reply ++ actor.guards }

theorem conclude_of_answered (label : Label) (errand : Errand) {reply : Reply}
    (answered : reply ≠ .blocked) :
    machine.conclude label errand reply =
      let next := machine.modifyActor label (.told errand reply)
      (next, reply.afterFault (errand.object.bind next.endFault?)) := by
  cases reply with
  | blocked => contradiction
  | _ => rfl

theorem call_of_refusal (nested : machine.isInterrupted attempt.actor = true) {reply : Reply}
    (refuses : call.refusal? = some reply) : machine.call attempt call = { machine, reply } := by
  simp only [Machine.call, refusal?, nested, if_true, refuses]

/-- A call that is not refused ends as it was performed, and its caller does not wait. -/
theorem call_of_allowed (nested : machine.isInterrupted attempt.actor = true)
    (allowed : call.refusal? = none)
    (answered : (machine.perform attempt call).reply ≠ .blocked) :
    machine.call attempt call =
      let effect := machine.perform attempt call
      { effect with
        machine := effect.machine.modifyActor attempt.actor
          (.told (machine.errandOf call) effect.reply) } := by
  simp only [Machine.call, refusal?, nested, if_true, allowed, conclude_of_answered _ _ answered]
  have kept : (machine.errandOf call).object.bind
      ((machine.perform attempt call).machine.modifyActor attempt.actor
        (.told (machine.errandOf call) (machine.perform attempt call).reply)).endFault? = none := by
    rw [Option.bind_eq_none_iff]
    intro id uses
    apply endFault?_perform attempt allowed uses
    apply store_modifyActor
  rw [kept]
  rfl

theorem unchanged_modifyActor {label : Label} {change : Actor → Actor}
    (same : ∀ actor, machine.actors.get? label = some actor → change actor = actor) :
    Unchanged machine (machine.modifyActor label change) := by
  have actors (other : Label) :
      (machine.modifyActor label change).actors.get? other = machine.actors.get? other := by
    rw [get?_modifyActor]
    split
    · subst other
      cases known : machine.actors.get? label with
      | none => rfl
      | some actor => simp [same actor known]
    · rfl
  simp only [modifyActor] at actors ⊢
  split at actors <;> exact ⟨rfl, rfl, rfl, rfl, rfl, actors⟩

theorem Prompt.of_refusal (nested : machine.isInterrupted attempt.actor = true)
    (idle : machine.Idle attempt.actor)
    {reply : Reply} (refuses : call.refusal? = some reply) : Prompt machine attempt call := by
  have called := call_of_refusal nested refuses
  have turned := Call.refusal_cases machine refuses
  constructor <;> rw [called]
  · rcases turned with ⟨error, rfl, _⟩ | ⟨⟨fault, rfl⟩, _⟩ <;> nofun
  · exact idle
  · intro error
    constructor
    · intro refused
      rw [refused.refusal?] at refuses
      cases refuses
      exact ⟨rfl, refused.error⟩
    · rintro ⟨rfl, _⟩
      rcases turned with ⟨_, ⟨⟩, refused⟩ | ⟨⟨fault, broken⟩, _⟩
      · exact refused
      · contradiction
  · intro fatal
    exact fatal.broken_of_refusal refuses
  · rintro fault rfl
    rcases turned with ⟨error, broken, _⟩ | ⟨_, fatal⟩
    · contradiction
    · exact .inl fatal
  · intro _
    exact ⟨⟨rfl, rfl, rfl, rfl, rfl, fun _ => rfl⟩, rfl⟩

/-- A call that stops the program has no other effect. -/
theorem Comes.of_fatal {effect : Effect} (comes : Comes machine call effect)
    (fatal : Fatal machine call) : ∃ fault, effect = { machine, reply := .broken fault } := by
  cases comes with
  | completes plain sound => contradiction
  | breaks fault broken breaks sound => contradiction
  | stops fault stopped _ => exact ⟨fault, stopped⟩

theorem Comes.fault_cases {effect : Effect} (comes : Comes machine call effect) {fault : Fault}
    (broken : effect.reply = .broken fault) : Fatal machine call ∨ call.Breaks fault := by
  cases comes with
  | completes plain sound =>
      rw [broken] at plain
      contradiction
  | breaks other told breaks sound =>
      rw [broken] at told
      cases told
      exact .inr breaks
  | stops other stopped fatal => exact .inl fatal

theorem Comes.reply_cases {effect : Effect} (comes : Comes machine call effect) :
    effect.reply ≠ .blocked ∧ effect.reply ≠ .failed .wouldBlockInInterrupt ∧
      effect.reply ≠ .failed .invalidInInterrupt := by
  cases comes with
  | completes plain sound =>
      rcases Reply.isPlain_iff.1 plain with ⟨answered, _, refused⟩
      exact ⟨answered, refused⟩
  | breaks fault broken breaks sound => simp [broken]
  | stops fault stopped fatal => simp [stopped]

theorem Prompt.of_allowed (nested : machine.isInterrupted attempt.actor = true)
    (idle : machine.Idle attempt.actor)
    (governed : call.isGoverned = true) (allowed : call.refusal? = none) :
    Prompt machine attempt call := by
  have comes := machine.comes_perform attempt governed allowed
  rcases comes.reply_cases with ⟨answered, notBlocking, notInvalid⟩
  have notRefused (error : Error) : ¬ call.RefusedWith error := by
    intro refused
    have refuses := refused.refusal?
    rw [allowed] at refuses
    contradiction
  constructor <;> rw [call_of_allowed nested allowed answered]
  · exact answered
  · intro actor known
    simp only [get?_modifyActor, if_true, Option.map_eq_some_iff] at known
    rcases known with ⟨before, _, rfl⟩
    rfl
  · intro error
    constructor
    · intro refused
      exact absurd refused (notRefused error)
    · rintro ⟨failed, rfl | rfl⟩
      · exact absurd failed notBlocking
      · exact absurd failed notInvalid
  · intro fatal
    rcases comes.of_fatal fatal with ⟨fault, stopped⟩
    exact ⟨fault, congrArg Effect.reply stopped⟩
  · intro fault broken
    exact comes.fault_cases broken
  · rintro (⟨error, refused⟩ | fatal)
    · exact absurd refused (notRefused error)
    · rcases comes.of_fatal fatal with ⟨fault, stopped⟩
      rw [stopped]
      refine ⟨unchanged_modifyActor ?_, rfl⟩
      intro actor known
      simp [Actor.told, Errand.guards, ← idle actor known]

theorem prompt (nested : machine.isInterrupted attempt.actor = true)
    (idle : machine.Idle attempt.actor)
    (governed : call.isGoverned = true) : Prompt machine attempt call := by
  cases refuses : call.refusal? with
  | some reply => exact .of_refusal nested idle refuses
  | none => exact .of_allowed nested idle governed refuses

end Interrupted

/-! ## Waits in interrupts -/

/-- No actor waits that is in an interrupt. -/
def Responsive (machine : Machine) : Prop :=
  ∀ label, machine.isInterrupted label = true → machine.Idle label

section Responsive

variable {machine : Machine} {label : Label}

theorem idle_iff :
    machine.Idle label ↔
      ∀ stance, machine.stance? label = some stance → stance.waiting = none := by
  simp only [Idle, stance?]
  cases machine.actors.get? label <;> simp [Actor.stance]

theorem responsive_iff :
    machine.Responsive ↔ ∀ label stance, machine.stance? label = some stance →
      0 < stance.nesting → stance.waiting = none := by
  simp only [Responsive, isInterrupted_iff, idle_iff]
  constructor
  · intro responsive label stance known nested
    exact responsive label ⟨stance, known, nested⟩ stance known
  · rintro responsive label ⟨first, found, nested⟩ stance known
    rw [known, Option.some.injEq] at found
    subst found
    exact responsive label stance known nested

/-- Who is in an interrupt has just entered it, or was in one and waits for what it waited for. -/
theorem Turn.enters_or_nested {turn : Turn} {before : Option Stance} {after : Stance}
    (turned : turn.apply before = some after) (nested : 0 < after.nesting) :
    turn = .enters ∧ (∃ stance, before = some stance ∧ after.waiting = stance.waiting) ∨
      ∃ stance, before = some stance ∧ 0 < stance.nesting ∧
        after.waiting = stance.waiting := by
  cases turn with
  | stays => exact .inr ⟨after, turned, nested, rfl⟩
  | enters =>
      simp only [Turn.apply, Option.map_eq_some_iff] at turned
      rcases turned with ⟨stance, known, rfl⟩
      exact .inl ⟨rfl, stance, known, rfl⟩
  | leaves =>
      simp only [Turn.apply, Option.map_eq_some_iff] at turned
      rcases turned with ⟨stance, known, rfl⟩
      exact .inr ⟨stance, known, Nat.lt_of_lt_of_le nested (Nat.sub_le ..), rfl⟩
  | begins =>
      cases turned
      contradiction
  | ends => contradiction

theorem Call.eq_enter_of_turn {call : Call} {caller : Label} {reply : Reply}
    (enters : call.turn caller label reply = .enters) :
    call = .interrupt .enter ∧ label = caller := by
  cases call with
  | interrupt call =>
      cases call with
      | enter =>
          refine ⟨rfl, Decidable.byContradiction fun other => ?_⟩
          simp [Call.turn, other] at enters
      | leave =>
          simp only [Call.turn] at enters
          split at enters <;> contradiction
      | status => contradiction
  | thread call =>
      simp only [Call.turn] at enters
      split at enters
      · contradiction
      · contradiction
      · split at enters <;> contradiction
      · split at enters <;> contradiction
      · split at enters
        · split at enters <;> contradiction
        · contradiction
      · contradiction
  | _ => contradiction

/-- Only who enters an interrupt while waiting would wait in it. -/
theorem Responsive.of_turns (responsive : machine.Responsive) {next : Machine}
    (turn : Label → Turn)
    (turns : ∀ label, next.stance? label = (turn label).apply (machine.stance? label))
    (idle : ∀ label, turn label = .enters → machine.Idle label) : next.Responsive := by
  rw [responsive_iff] at responsive ⊢
  intro label stance known nested
  rw [turns] at known
  rcases Turn.enters_or_nested known nested with
    ⟨enters, before, found, waits⟩ | ⟨before, found, deep, waits⟩
  · rw [waits]
    exact idle_iff.1 (idle label enters) before found
  · rw [waits]
    exact responsive label before found deep

theorem Responsive.perform (responsive : machine.Responsive) {attempt : Attempt}
    (idle : machine.Idle attempt.actor) (call : Call) :
    (machine.perform attempt call).machine.Responsive := by
  apply responsive.of_turns _ (machine.stance?_perform attempt · call)
  intro label enters
  rw [(Call.eq_enter_of_turn enters).2]
  exact idle

theorem Responsive.enterInterrupt (responsive : machine.Responsive) (idle : machine.Idle label) :
    (machine.enterInterrupt label).Responsive := by
  apply responsive.of_turns _ (machine.stance?_enterInterrupt label)
  intro other enters
  split at enters
  · subst other
    exact idle
  · contradiction

theorem Responsive.leaveInterrupt (responsive : machine.Responsive) (label : Label) :
    (machine.leaveInterrupt label).Responsive := by
  apply responsive.of_turns _ (machine.stance?_leaveInterrupt label)
  intro other enters
  split at enters <;> contradiction

theorem Idle.enterInterrupt (idle : machine.Idle label) :
    (machine.enterInterrupt label).Idle label := by
  intro actor known
  simp only [Machine.enterInterrupt, get?_modifyActor, if_true, Option.map_eq_some_iff] at known
  rcases known with ⟨before, found, rfl⟩
  exact idle before found

theorem Responsive.conclude (responsive : machine.Responsive) {errand : Errand} {reply : Reply}
    (calm : reply = .blocked → machine.isInterrupted label = false) :
    (machine.conclude label errand reply).1.Responsive := by
  rw [responsive_iff] at responsive ⊢
  intro other stance known nested
  rw [stance?_conclude] at known
  split at known
  · subst other
    simp only [Option.map_eq_some_iff] at known
    rcases known with ⟨before, found, rfl⟩
    apply if_neg
    intro blocked
    have interrupted : machine.isInterrupted label = true :=
      isInterrupted_iff.2 ⟨before, found, nested⟩
    rw [calm blocked] at interrupted
    contradiction
  · exact responsive other stance known nested

/-- A call that waits has left its caller outside of interrupts if it was outside. -/
theorem isInterrupted_perform {attempt : Attempt} {call : Call}
    (outside : machine.isInterrupted attempt.actor = false)
    (blocked : (machine.perform attempt call).reply = .blocked) :
    (machine.perform attempt call).machine.isInterrupted attempt.actor = false := by
  apply Bool.eq_false_iff.2
  intro interrupted
  rcases isInterrupted_iff.1 interrupted with ⟨stance, known, nested⟩
  rw [stance?_perform] at known
  rcases Turn.enters_or_nested known nested with ⟨enters, _⟩ | ⟨before, found, deep, _⟩
  · rw [(Call.eq_enter_of_turn enters).1] at blocked
    contradiction
  · have inside := isInterrupted_iff.2 ⟨before, found, deep⟩
    rw [outside] at inside
    contradiction

theorem Responsive.call (responsive : machine.Responsive) {attempt : Attempt} {call : Call}
    (idle : machine.Idle attempt.actor)
    (governed : machine.isInterrupted attempt.actor = true → call.isGoverned = true) :
    (machine.call attempt call).machine.Responsive := by
  simp only [Machine.call]
  split
  · exact responsive
  · rename_i allowed
    apply (responsive.perform idle call).conclude
    intro blocked
    cases interrupted : machine.isInterrupted attempt.actor with
    | false => exact isInterrupted_perform interrupted blocked
    | true =>
        simp only [refusal?, interrupted, if_true] at allowed
        have comes := machine.comes_perform attempt (governed interrupted) allowed
        exact absurd blocked comes.reply_cases.1

theorem Responsive.wake (responsive : machine.Responsive) (reply : Reply) :
    (machine.wake label reply).1.Responsive := by
  simp only [Machine.wake]
  split
  · exact responsive
  · rename_i errand waits
    apply responsive.conclude
    intro _
    -- the actor waits, so it is not in an interrupt
    apply Bool.eq_false_iff.2
    intro interrupted
    simp only [Option.bind_eq_some_iff] at waits
    rcases waits with ⟨actor, known, waiting⟩
    rw [responsive label interrupted actor known] at waiting
    contradiction

theorem Responsive.wakeAll (responsive : machine.Responsive) (replies : Labelled Reply) :
    (machine.wakeAll replies).1.Responsive := by
  induction replies generalizing machine with
  | nil => exact responsive
  | cons head replies ih => exact ih (responsive.wake head.2)

theorem Responsive.settle (responsive : machine.Responsive) : machine.settle.1.Responsive := by
  apply Responsive.wakeAll
  exact responsive

/-- An actor may make a step: it does not wait, and in an interrupt it calls by the rules. -/
structure Allows (machine : Machine) (step : Step) : Prop where
  idle : machine.Idle step.actor
  governed (nested : step.interrupt = true ∨ machine.isInterrupted step.actor = true) :
    step.call.isGoverned = true

theorem Responsive.runStep (responsive : machine.Responsive) {step : Step}
    (allowed : machine.Allows step) : (machine.runStep step).1.Responsive := by
  simp only [Machine.runStep]
  apply Responsive.settle
  split
  · rename_i ownInterrupt
    have entered := responsive.enterInterrupt allowed.idle
    apply Responsive.leaveInterrupt
    apply entered.call allowed.idle.enterInterrupt
    intro _
    exact allowed.governed (.inl ownInterrupt)
  · apply responsive.call allowed.idle
    intro interrupted
    exact allowed.governed (.inr interrupted)

/-- The actors may make some steps, one after another. -/
def AllowsAll (machine : Machine) : List Step → Prop
  | [] => True
  | step :: steps => machine.Allows step ∧ (machine.runStep step).1.AllowsAll steps

theorem Responsive.after (responsive : machine.Responsive) {steps : List Step}
    (allowed : machine.AllowsAll steps) : (machine.after steps).Responsive := by
  induction steps generalizing machine with
  | nil => exact responsive
  | cons step steps ih => exact ih (responsive.runStep allowed.1) allowed.2

theorem responsive_initial : initial.Responsive := by
  intro label _ actor known
  simp only [initial, Labelled.get?, List.lookup_cons, List.lookup_nil] at known
  split at known
  · cases known
    rfl
  · contradiction

end Responsive

/--
In interrupt context, whatever the machine and the call, the call is prompt: it is answered at
once, and without a trace where it is refused or a mistake. Who is in interrupt context is told by
the guards that are live after any steps, and no actor waits in it that keeps to the rules.
-/
theorem prompt_while_guarded :
    (∀ (machine : Machine) (attempt : Attempt) (call : Call),
      machine.isInterrupted attempt.actor = true → machine.Idle attempt.actor →
        call.isGoverned = true → Prompt machine attempt call) ∧
    (∀ (steps : List Step) (label : Label),
      (initial.after steps).depth? label =
        liveGuards? label (initial.answers steps) (initial.depth? label)) ∧
    ∀ steps, initial.AllowsAll steps → (initial.after steps).Responsive := by
  refine ⟨?_, ?_, ?_⟩
  · intro machine attempt call nested idle governed
    exact prompt nested idle governed
  · intro steps label
    exact initial.depth?_after label steps
  · intro steps allowed
    exact responsive_initial.after allowed

/-- Two interrupts deep a wait for a flag is refused, and a bit outside the valid ones is fatal. -/
theorem prompt_while_guarded_twice :
    let store := ({} : Store).add "flags" (.eventFlag ⟨.event, []⟩)
    let machine := ({ initial with store }.enterInterrupt mainLabel).enterInterrupt mainLabel
    let wait := Call.eventFlag "flags" (.wait 1 .any true .forever)
    let set := Call.eventFlag "flags" (.set 0x80000000)
    let enter : Step := { actor := mainLabel, call := .interrupt .enter }
    (machine.isInterrupted mainLabel = true ∧ machine.Idle mainLabel ∧
      wait.isGoverned = true ∧ set.isGoverned = true) ∧
    ((machine.call ⟨mainLabel, true⟩ wait).reply = .failed .wouldBlockInInterrupt ∧
      Unchanged machine (machine.call ⟨mainLabel, true⟩ wait).machine) ∧
    ((∃ fault, (machine.call ⟨mainLabel, true⟩ set).reply = .broken fault) ∧
      Unchanged machine (machine.call ⟨mainLabel, true⟩ set).machine) ∧
    (initial.after [enter, enter]).depth? mainLabel = some 2 ∧
    initial.AllowsAll [enter, enter] ∧ (initial.after [enter, enter]).Responsive := by
  intro store machine wait set enter
  rcases prompt_while_guarded with ⟨rules, counts, responds⟩
  have nested : machine.isInterrupted mainLabel = true := rfl
  have idle : machine.Idle mainLabel := by
    intro actor known
    cases known
    rfl
  have waiting := rules machine ⟨mainLabel, true⟩ wait nested idle rfl
  have setting := rules machine ⟨mainLabel, true⟩ set nested idle rfl
  have refused : wait.RefusedWith .wouldBlockInInterrupt := .awaitFlags ..
  have fatal : Fatal machine set := .setEventBits "flags" _ _ rfl (by decide)
  have allowed : initial.AllowsAll [enter, enter] := by
    refine ⟨⟨?_, fun _ => rfl⟩, ⟨?_, fun _ => rfl⟩, trivial⟩ <;>
    · intro actor known
      cases known
      rfl
  refine ⟨⟨nested, idle, rfl, rfl⟩, ⟨?_, ?_⟩, ⟨?_, ?_⟩, ?_, allowed,
    responds _ allowed⟩
  · exact ((waiting.refused _).1 refused).1
  · exact (waiting.traceless (.inl ⟨_, refused⟩)).1
  · exact setting.stops fatal
  · exact (setting.traceless (.inr fatal)).1
  · rw [counts]
    rfl

/--
Three calls in interrupt context. A semaphore without room for a token is fatal to make; a thread
with a NUL in its name is fatal to start, but registered; and who waits for the end of a thread
is parked.
-/
theorem interrupt_exceptions :
    let machine := { initial with joinable := [("worker", ⟨1⟩)] }.enterInterrupt mainLabel
    let made := machine.call ⟨mainLabel, true⟩ (.create "tokens" (.semaphore 0 0))
    let start := Call.thread (.start "worker" (some "\x00") none none)
    let started := machine.call ⟨mainLabel, true⟩ start
    let joined := machine.call ⟨mainLabel, true⟩ (.thread (.join "worker"))
    machine.isInterrupted mainLabel = true ∧
    made.reply = .broken (.badCounts 0 0) ∧
    started.reply = .broken (.nulInThreadName "\x00") ∧
      machine.table.known = [] ∧ started.machine.table.known = [⟨1⟩] ∧
    joined.reply = .blocked ∧
      ((joined.machine.actors.get? mainLabel).bind (·.waiting)).isSome = true := by
  intro machine made start started joined
  have performed : machine.perform ⟨mainLabel, true⟩ start =
      { machine := machine.putTable (machine.table.register (some "\x00") .starting).1
        reply := .broken (.nulInThreadName "\x00") } := by
    simp [start, perform, callThread, startThread, Option.filter]
  have told : started.reply = .broken (.nulInThreadName "\x00") ∧
      started.machine.table.known = [⟨1⟩] := by
    have nested : machine.isInterrupted mainLabel = true := rfl
    have called := @call_of_allowed machine ⟨mainLabel, true⟩ start nested rfl
      (by simp [performed])
    rw [performed] at called
    simp only [started, called]
    exact ⟨trivial, rfl⟩
  exact ⟨rfl, rfl, told.1, rfl, told.2, rfl, rfl⟩

end Machine

end Rtos
