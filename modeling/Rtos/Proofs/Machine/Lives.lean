import Rtos.Proofs.Machine.Nesting
import Rtos.Proofs.Sync.Settle
import Rtos.Proofs.Thread.Lifetime

/-!
# Lives of the threads of a machine

Whatever the actors of a machine do, its thread table changes by the events that happen to
threads: a call is a few of them at most, and to come to rest is to resume the waits that
were woken. So what holds of every history of threads holds of the threads of every machine.
-/

namespace Rtos

/-- Only the first element that passes a test is modified. -/
theorem Sync.modifyFirst_append {α : Type} {test : α → Bool} {change : α → α}
    {others : List α}
    (fail : ∀ other ∈ others, test other = false) (rest : List α) :
    modifyFirst test change (others ++ rest) = others ++ modifyFirst test change rest := by
  induction others with
  | nil => rfl
  | cons other others ih =>
      have first := fail other List.mem_cons_self
      have tail := ih fun later present => fail later (List.mem_cons_of_mem _ present)
      simp [modifyFirst, first, tail]

namespace ThreadTable

variable {Party : Type} {table next later : ThreadTable Party}

/-! ## Records under distinct numbers -/

theorem ids_modify (id : ThreadId) (change : Thread Party → Thread Party)
    (keeps : ∀ thread, (change thread).id = thread.id) :
    (table.modify id change).threads.map (·.id) = table.threads.map (·.id) := by
  simp only [modify]
  induction table.threads with
  | nil => rfl
  | cons thread threads ih =>
      simp only [Sync.modifyFirst]
      split
      · simp [keeps]
      · simp [ih]

/-- The records have distinct numbers, which were all given. -/
structure Distinct (table : ThreadTable Party) : Prop where
  nodup : (table.threads.map (·.id)).Nodup
  given : ∀ id ∈ table.threads.map (·.id), id.number < table.next

theorem Distinct.of_ids (distinct : table.Distinct)
    (ids : later.threads.map (·.id) = table.threads.map (·.id))
    (next_eq : later.next = table.next) : later.Distinct where
  nodup := ids ▸ distinct.nodup
  given id present := next_eq ▸ distinct.given id (ids ▸ present)

theorem Distinct.register (distinct : table.Distinct) (name : Option String)
    (state : ThreadState) : (table.register name state).1.Distinct where
  nodup := by
    simp only [ThreadTable.register, List.map_append, List.map_cons, List.map_nil]
    rw [List.nodup_append]
    refine ⟨distinct.nodup, by simp, ?_⟩
    intro id present other new
    rw [List.mem_singleton] at new
    subst new
    rintro rfl
    exact absurd (distinct.given _ present) (Nat.lt_irrefl _)
  given id present := by
    simp only [ThreadTable.register, List.map_append, List.map_cons, List.map_nil,
      List.mem_append, List.mem_singleton] at present ⊢
    rcases present with before | rfl
    · exact Nat.lt_succ_of_lt (distinct.given id before)
    · exact Nat.lt_succ_self _

theorem putFlags_putFlags {id : ThreadId} (first second : ThreadFlags Party) :
    (table.putFlags id first).putFlags id second = table.putFlags id second := by
  simp only [putFlags, modify]
  congr 1
  induction table.threads with
  | nil => rfl
  | cons thread threads ih =>
      by_cases here : thread.id = id <;> simp [Sync.modifyFirst, here, ih]

variable [DecidableEq Party]

/-! ## Runs of events -/

def after (table : ThreadTable Party) (events : List (ThreadEvent Party)) : ThreadTable Party :=
  events.foldl (fun table event => (table.step event).table) table

/-- Some events make one table of the other. -/
def Leads (table later : ThreadTable Party) : Prop :=
  ∃ events, table.after events = later

theorem Leads.refl (table : ThreadTable Party) : table.Leads table :=
  ⟨[], rfl⟩

theorem Leads.trans (first : table.Leads next) (second : next.Leads later) :
    table.Leads later := by
  rcases first with ⟨earlier, rfl⟩
  rcases second with ⟨others, rfl⟩
  exact ⟨earlier ++ others, List.foldl_append ..⟩

theorem Leads.of_step (event : ThreadEvent Party) : table.Leads (table.step event).table :=
  ⟨[event], rfl⟩

theorem Leads.coherent (leads : table.Leads later) (coherent : table.Coherent) :
    later.Coherent := by
  rcases leads with ⟨events, rfl⟩
  induction events generalizing table with
  | nil => exact coherent
  | cons event events ih => exact ih (coherent.step event)

theorem Distinct.step (distinct : table.Distinct) (event : ThreadEvent Party) :
    (table.step event).table.Distinct := by
  have moved := table.step_moves event
  generalize table.step event = happening at moved ⊢
  cases moved with
  | idle answer => exact distinct
  | registered name => exact distinct.register name .starting
  | adopted id party thread found starting free =>
      exact distinct.of_ids (ids_modify id _ fun _ => rfl) rfl
  | failed id thread found starting =>
      exact distinct.of_ids (ids_modify id _ fun _ => rfl) rfl
  | entered party name free =>
      exact (distinct.register name .running).of_ids rfl rfl
  | left party id ending own exits =>
      have ids : ((table.finish id ending).vacate party).threads.map (·.id) =
          table.threads.map (·.id) := by
        apply Eq.trans (ids_modify id ({ · with state := .stopped }) fun _ => rfl)
        exact ids_modify id _ fun _ => rfl
      exact distinct.of_ids ids rfl
  | flagged id thread flagEvent found calls =>
      exact distinct.of_ids (ids_modify id _ fun _ => rfl) rfl

theorem Leads.distinct (leads : table.Leads later) (distinct : table.Distinct) :
    later.Distinct := by
  rcases leads with ⟨events, rfl⟩
  induction events generalizing table with
  | nil => exact distinct
  | cons event events ih => exact ih (distinct.step event)

/-! ## Flags -/

variable {id : ThreadId} {thread : Thread Party}

theorem onFlags_table (found : table.get? id = some thread)
    (event : Sync.Event Party Sync.FlagWord.Request) :
    (table.onFlags id event).table =
      table.putFlags id (thread.flags.step Sync.FlagWord.pass event).1 := by
  simp only [onFlags, found]

/-- The flags of a thread come to rest as its woken waits resume. -/
theorem leads_settle (found : table.get? id = some thread) :
    table.Leads (table.putFlags id (thread.flags.settle Sync.FlagWord.pass).1) := by
  have settles (flags : ThreadFlags Party) :
      ∀ (table : ThreadTable Party) (thread : Thread Party),
      table.get? id = some thread → thread.flags = flags →
        table.Leads (table.putFlags id (flags.settle Sync.FlagWord.pass).1) := by
    refine Sync.Monitor.settle_induction Sync.FlagWord.pass ?rests ?passes flags
    case rests =>
      rintro flags nothing table thread found rfl
      rw [Sync.Monitor.settle_of_none nothing, putFlags_self found]
      exact .refl table
    case passes =>
      rintro flags next party progress passed ih table thread found rfl
      rw [Sync.Monitor.settle_of_passAgain? passed]
      have resumed : (table.step (.resume id party)).table = table.putFlags id next := by
        simp only [step, onFlags_table found, Sync.Monitor.step_resume_of_passAgain? passed]
      have kept : (table.putFlags id next).get? id = some { thread with flags := next } := by
        simp [found]
      have rest := ih _ _ kept rfl
      rw [putFlags_putFlags] at rest
      apply Leads.trans (Leads.of_step (.resume id party))
      rw [resumed]
      exact rest
  exact settles thread.flags table thread found rfl

/-! ## Starting threads -/

omit [DecidableEq Party] in
theorem isStarting_register (unused : table.get? ⟨table.next⟩ = none) (name : Option String) :
    (table.register name .starting).1.isStarting ⟨table.next⟩ = true := by
  simp [isStarting, get?_register _ _ _ _ unused]

theorem leads_start {party : Party} (unused : table.get? ⟨table.next⟩ = none)
    (free : table.slot? party = none) (name : Option String) :
    table.Leads (table.start party name).1 := by
  refine ⟨[.register name, .adopt ⟨table.next⟩ party], ?_⟩
  have begins : ((table.register name .starting).1.isStarting ⟨table.next⟩ &&
      ((table.register name .starting).1.slot? party).isNone) = true := by
    simp [isStarting_register unused, free]
  simp only [after, List.foldl_cons, List.foldl_nil, step, register_snd, begins, if_true]
  rfl

theorem leads_failToStart (unused : table.get? ⟨table.next⟩ = none) (name : Option String) :
    table.Leads (table.failToStart name).1 := by
  refine ⟨[.register name, .fail ⟨table.next⟩], ?_⟩
  simp only [after, List.foldl_cons, List.foldl_nil, step, register_snd,
    isStarting_register unused, if_true]
  rfl

end ThreadTable

namespace Machine

open ThreadTable (Leads)

/-! ## Calls -/

section Make

variable {Monitored Request Condition Result : Type} [DecidableEq Condition]
  {pass : Monitored → Request → Sync.Pass Monitored Condition Result}
  {success : Result → Reply} {monitor : Sync.Monitor Label Monitored Request Condition}
  {request : Request}

/-- An attempt is a call, after which the time of the call may run out. -/
theorem Attempt.make_cases {attempt : Attempt} (free : monitor.isWaiting attempt.actor = false) :
    let called := (monitor.step pass (.call attempt.actor request none)).1
    (attempt.make pass success monitor request).1 = called ∨
      (attempt.make pass success monitor request).1 =
        (called.step pass (.expire attempt.actor none)).1 := by
  simp only [make, Sync.Monitor.step, free, Bool.false_eq_true, if_false]
  rcases monitor.call pass attempt.actor request none with ⟨next, progress⟩
  rcases progress with result | _ | fault
  · exact .inl rfl
  · cases attempt.patient with
    | true => exact .inl rfl
    | false =>
        dsimp only
        cases next.expire? pass attempt.actor none with
        | none => exact .inl rfl
        | some expired => exact .inr rfl
  · exact .inl rfl

end Make

variable {machine : Machine} {attempt : Attempt}

/-- A call on the flags of a thread is an event, after which its time may run out. -/
theorem leads_callFlags {table : ThreadTable Label} {id : ThreadId} {thread : Thread Label}
    {request : Sync.FlagWord.Request} {event : ThreadEvent Label}
    (found : table.get? id = some thread)
    (asks : (table.step event).table =
      (table.onFlags id (.call attempt.actor request none)).table)
    (free : thread.flags.isWaiting attempt.actor = false) :
    table.Leads (table.putFlags id
      (attempt.make Sync.FlagWord.pass .word thread.flags request).1) := by
  rw [ThreadTable.onFlags_table found] at asks
  rcases Attempt.make_cases free with called | expired
  · rw [called, ← asks]
    exact .of_step event
  · have kept (flags : ThreadFlags Label) :
        (table.putFlags id flags).get? id = some { thread with flags } := by
      simp [found]
    have expires := ThreadTable.onFlags_table
      (kept (thread.flags.step Sync.FlagWord.pass (.call attempt.actor request none)).1)
      (.expire attempt.actor none)
    rw [ThreadTable.putFlags_putFlags] at expires
    rw [expired, ← expires, ← asks]
    exact (Leads.of_step event).trans (.of_step (.expire id attempt.actor))

/-- The caller of a call waits for no flags, and a thread that is started is a new one. -/
structure Ready (machine : Machine) (caller : Label) (call : Call) : Prop where
  free (id : ThreadId) (thread : Thread Label) (found : machine.table.get? id = some thread) :
    thread.flags.isWaiting caller = false
  fresh (new : Label) (name : Option String) (stack : Option Nat) (kernel : Option Label)
    (starts : call = .thread (.start new name stack kernel)) : machine.table.slot? new = none

theorem leads_changesStore {next : Machine} (changes : machine.ChangesStore next) :
    machine.table.Leads next.table := by
  rcases changes with ⟨store, rfl⟩
  exact .refl _

theorem leads_current (machine : Machine) (label : Label) :
    machine.table.Leads (machine.current label).1.table :=
  ⟨[.use label ((machine.actors.get? label).bind (·.hostName))], rfl⟩

theorem leads_requestMutex (machine : Machine) (attempt : Attempt) (id : ObjectId)
    (request : ThreadId → Sync.Mutex.Request) :
    machine.table.Leads (machine.requestMutex attempt id request).machine.table := by
  rcases machine.requestMutex_cases attempt id request with same | ⟨objects, changes⟩
  · rw [same]
    exact .refl _
  · rw [changes]
    exact machine.leads_current attempt.actor

theorem leads_dropGuard (machine : Machine) (label : Label) :
    machine.table.Leads (machine.dropGuard label).machine.table := by
  simp only [dropGuard]
  split
  · rename_i id older _
    rw [← machine.table_modifyActor label ({ · with guards := older })]
    simp only [releaseGuard]
    split
    · exact .refl _
    · apply leads_requestMutex
  · exact .refl _

theorem leads_dropGuards (machine : Machine) (label : Label) (count : Nat) :
    machine.table.Leads (machine.dropGuards label count).machine.table := by
  induction count generalizing machine with
  | zero => exact .refl _
  | succ count ih => exact (machine.leads_dropGuard label).trans (ih _)

theorem leads_setFlags (free : ∀ id thread, machine.table.get? id = some thread →
      thread.flags.isWaiting attempt.actor = false)
    (id : ThreadId) (address : Address) (mask : UInt32) :
    machine.table.Leads (machine.setFlags attempt id address mask).machine.table := by
  have called (event : ThreadEvent Label)
      (asks : (machine.table.step event).table =
        (machine.table.onFlags id (.call attempt.actor (.set mask) none)).table) :
      machine.table.Leads (machine.callFlags attempt id (.set mask)).machine.table := by
    simp only [callFlags]
    split
    · exact .refl _
    · rename_i thread found
      exact leads_callFlags found asks (free id thread found)
  simp only [setFlags]
  cases address with
  | handle => exact called (.signalHandle attempt.actor id mask) rfl
  | number =>
      cases found : machine.table.find? id with
      | none => exact .refl _
      | some thread =>
          apply called (.signal attempt.actor id mask)
          simp only [ThreadTable.step, found]

/-- A caller that waits for no flags waits for none once it is registered. -/
theorem free_current (free : ∀ id thread, machine.table.get? id = some thread →
      thread.flags.isWaiting attempt.actor = false) {id : ThreadId} {thread : Thread Label}
    (found : (machine.current attempt.actor).1.table.get? id = some thread) :
    thread.flags.isWaiting attempt.actor = false := by
  change (machine.table.current attempt.actor _).1.get? id = some thread at found
  simp only [ThreadTable.current] at found
  split at found
  · exact free id thread found
  · simp only [ThreadTable.get?, ThreadTable.occupy, ThreadTable.register, List.find?_append,
      Option.or_eq_some_iff] at found
    rcases found with known | ⟨_, new⟩
    · exact free id thread known
    · simp only [List.find?_cons, List.find?_nil] at new
      split at new
      · cases new
        rfl
      · contradiction

theorem slot?_current (machine : Machine) (label : Label) :
    (machine.current label).1.table.slot? label = some (machine.current label).2.1 := by
  change (machine.table.current label _).1.slot? label = some (machine.table.current label _).2.1
  simp only [ThreadTable.current]
  cases own : machine.table.slot? label with
  | some id => exact own
  | none => simp

theorem leads_ownFlags (free : ∀ id thread, machine.table.get? id = some thread →
      thread.flags.isWaiting attempt.actor = false) (request : Sync.FlagWord.Request) :
    machine.table.Leads
      (machine.callThread attempt (.ownFlags request)).machine.table := by
  apply (machine.leads_current attempt.actor).trans
  simp only [callThread, callFlags]
  split
  · exact .refl _
  · rename_i thread found
    apply leads_callFlags found _ (free_current free found)
    · exact .own attempt.actor request
    · simp only [ThreadTable.step, machine.slot?_current attempt.actor]

theorem leads_startThread (coherent : machine.table.Coherent) {label : Label}
    (fresh : machine.table.slot? label = none) (name : Option String) (stack : Option Nat) :
    machine.table.Leads (machine.startThread label name stack).machine.table := by
  simp only [startThread]
  split
  · exact .of_step (.register name)
  · split
    · exact ThreadTable.leads_failToStart coherent.unused name
    · exact ThreadTable.leads_start coherent.unused fresh name

theorem leads_exitThread (machine : Machine) (label : Label) (ending : ThreadEnding) :
    machine.table.Leads (machine.exitThread label ending).machine.table := by
  apply (machine.leads_dropGuards label (machine.guardCount label)).trans
  exact .of_step (.exit label _)

theorem leads_perform (coherent : machine.table.Coherent) {call : Call}
    (ready : machine.Ready attempt.actor call) :
    machine.table.Leads (machine.perform attempt call).machine.table := by
  cases call with
  | unlock => exact machine.leads_dropGuard attempt.actor
  | interrupt call =>
      have modified (change : Actor → Actor) :
          machine.table.Leads (machine.modifyActor attempt.actor change).table := by
        rw [table_modifyActor]
        exact .refl _
      cases call with
      | enter => exact modified _
      | leave => exact modified _
      | status => exact .refl _
  | mutex object call =>
      simp only [perform, onObject]
      split
      · exact .refl _
      · rename_i id _
        rcases machine.callMutex_cases attempt id call with same | ⟨objects, changes⟩
        · rw [same]
          exact .refl _
        · rw [changes]
          exact machine.leads_current attempt.actor
  | thread call =>
      cases call with
      | current remembered =>
          have registered := machine.leads_current attempt.actor
          cases remembered <;> exact registered
      | setFlags thread address mask =>
          simp only [perform, callThread]
          split
          · exact .refl _
          · exact leads_setFlags ready.free _ address mask
      | ownFlags request => exact leads_ownFlags ready.free request
      | start new name stack kernel =>
          exact leads_startThread coherent (ready.fresh new name stack kernel rfl) name _
      | startUnknown new name => exact .refl _
      | giveWay => exact .refl _
      | exit ending => exact machine.leads_exitThread attempt.actor ending
      | join thread =>
          simp only [perform, callThread, joinThread]
          split <;> exact .refl _
      | _ =>
          -- a thread is looked up
          simp only [perform, callThread]
          split <;> exact .refl _
  | _ => exact leads_changesStore (machine.changesStore_perform attempt rfl)

/-! ## Steps -/

theorem table_conclude (machine : Machine) (label : Label) (errand : Errand) (reply : Reply) :
    (machine.conclude label errand reply).1.table = machine.table := by
  simp only [conclude]
  split <;> simp

theorem leads_call (coherent : machine.table.Coherent) {call : Call}
    (ready : machine.Ready attempt.actor call) :
    machine.table.Leads (machine.call attempt call).machine.table := by
  simp only [Machine.call]
  split
  · exact .refl _
  · rw [table_conclude]
    exact leads_perform coherent ready

theorem table_wake (machine : Machine) (label : Label) (reply : Reply) :
    (machine.wake label reply).1.table = machine.table := by
  simp only [wake]
  split
  · rfl
  · apply table_conclude

theorem table_wakeAll (machine : Machine) (replies : Labelled Reply) :
    (machine.wakeAll replies).1.table = machine.table := by
  induction replies generalizing machine with
  | nil => rfl
  | cons head replies ih =>
      apply (ih _).trans
      apply table_wake

theorem table_settle (machine : Machine) :
    machine.settle.1.table =
      { machine.table with threads := (settleThreads machine.table.threads).1 } := by
  exact table_wakeAll _ _

/-- Threads come to rest one after another. -/
theorem leads_settleThreads {table : ThreadTable Label} (done rest : List (Thread Label))
    (threads : table.threads = done ++ rest) (nodup : (table.threads.map (·.id)).Nodup) :
    table.Leads { table with threads := done ++ (settleThreads rest).1 } := by
  induction rest generalizing table done with
  | nil =>
      simp only [settleThreads, ← threads]
      exact .refl table
  | cons thread rest ih =>
      have others : ∀ earlier ∈ done, decide (earlier.id = thread.id) = false := by
        intro earlier present
        rw [threads, List.map_append, List.nodup_append] at nodup
        have different := nodup.2.2 earlier.id (List.mem_map_of_mem present) thread.id (by simp)
        exact decide_eq_false different
      have found : table.get? thread.id = some thread := by
        rw [ThreadTable.get?, threads, List.find?_append, List.find?_eq_none.2]
        · simp
        · simpa using others
      have put : table.putFlags thread.id (thread.flags.settle Sync.FlagWord.pass).1 =
          { table with
            threads := done ++
              [{ thread with flags := (thread.flags.settle Sync.FlagWord.pass).1 }] ++ rest } := by
        simp only [ThreadTable.putFlags, ThreadTable.modify, threads]
        rw [Sync.modifyFirst_append others]
        simp [Sync.modifyFirst]
      have first := ThreadTable.leads_settle found
      rw [put] at first
      apply first.trans
      have second := @ih { table with
        threads := done ++
          [{ thread with flags := (thread.flags.settle Sync.FlagWord.pass).1 }] ++ rest } _ rfl
        (by simpa [threads] using nodup)
      simpa [settleThreads] using second

theorem leads_runStep {step : Step} (coherent : machine.table.Coherent)
    (distinct : machine.table.Distinct) (ready : machine.Ready step.actor step.call) :
    machine.table.Leads (machine.runStep step).1.table := by
  have rested (performed : Machine) (leads : machine.table.Leads performed.table) :
      machine.table.Leads performed.settle.1.table := by
    rw [table_settle]
    exact leads.trans (leads_settleThreads [] _ rfl (leads.distinct distinct).nodup)
  simp only [runStep]
  apply rested
  split
  · have entered : (machine.enterInterrupt step.actor).table = machine.table :=
      machine.table_modifyActor step.actor _
    have called := @leads_call (machine.enterInterrupt step.actor) ⟨step.actor, step.patient⟩
      (entered ▸ coherent) step.call ⟨entered ▸ ready.free, entered ▸ ready.fresh⟩
    rw [entered] at called
    simp only [callInInterrupt, leaveInterrupt, table_modifyActor]
    exact called
  · exact leads_call coherent ready

/-- The actors are ready for some steps, one after another. -/
def ReadyForAll (machine : Machine) : List Step → Prop
  | [] => True
  | step :: steps =>
      machine.Ready step.actor step.call ∧ (machine.runStep step).1.ReadyForAll steps

theorem leads_after {steps : List Step} (coherent : machine.table.Coherent)
    (distinct : machine.table.Distinct) (ready : machine.ReadyForAll steps) :
    machine.table.Leads (machine.after steps).table := by
  induction steps generalizing machine with
  | nil => exact .refl _
  | cons step steps ih =>
      have first := leads_runStep coherent distinct ready.1
      exact first.trans (ih (first.coherent coherent) (first.distinct distinct) ready.2)

theorem table_history (history : History Label) (events : List (ThreadEvent Label)) :
    (history.after events).table = history.table.after events := by
  induction events generalizing history with
  | nil => rfl
  | cons event events ih => exact ih (history.next event)

/-- The threads of a machine have a history, whatever steps its actors have made. -/
theorem exists_history {steps : List Step} (ready : initial.ReadyForAll steps) :
    ∃ events, (({} : History Label).after events).table = (initial.after steps).table := by
  have distinct : initial.table.Distinct := ⟨by simp [initial], by simp [initial]⟩
  rcases leads_after .empty distinct ready with ⟨events, leads⟩
  exact ⟨events, (table_history {} events).trans leads⟩

end Machine

end Rtos
