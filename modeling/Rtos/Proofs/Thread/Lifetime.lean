import Rtos.Proofs.Sync.Bits
import Rtos.Proofs.Thread.Table

/-!
# Lives of threads

What happens to the threads that the core knows, in steps as small as the program takes
them. A thread that is started is registered by the thread that starts it; later its body
begins, or it turns out that it cannot be started. Any other thread is registered by its
first use of the core. In between threads exit, and flags are set, cleared and waited for,
in any order.

A history keeps what an observer is told: the numbers that were given, and the threads that
have ended or could not be started.
-/

namespace Rtos

namespace Sync.FlagWord

/-- Whether a call takes a bit out of a word when it completes. -/
def Request.takes (bit : Nat) : Request → Bool
  | clear mask => shows mask bit
  | wait mask _ consuming _ => consuming && shows mask bit
  | _ => false

/-- A bit stays in a word unless a call takes it. -/
theorem shows_of_finish {word next : FlagWord} {request : Request} {result : Except Error UInt32}
    {signals : List (Signal Condition)} {bit : Nat}
    (passed : word.pass request = .finish result next signals)
    (spared : request.takes bit = false) (shown : shows word.bits bit = true) :
    shows next.bits bit = true := by
  have done := word.does request
  rw [passed] at done
  cases done with
  | set mask valid => simp [shown]
  | cleared mask valid => simpa [Request.takes, shown] using spared
  | got => exact shown
  | kept mask mode timeout valid satisfied => exact shown
  | consumed mask mode timeout valid satisfied => simpa [Request.takes, shown] using spared

end Sync.FlagWord

/-- Something that happens to threads. -/
inductive ThreadEvent (Party : Type) where
  /-- A thread is registered that is to be started. -/
  | register (name : Option String)
  /-- The body of a registered thread begins. -/
  | adopt (id : ThreadId) (party : Party)
  /-- A registered thread could not be started. -/
  | fail (id : ThreadId)
  /-- A party makes a call that has to know who calls. -/
  | use (party : Party) (name : Option String)
  | exit (party : Party) (ending : ThreadEnding)
  /-- A party sets flags of the thread of a number. -/
  | signal (caller : Party) (id : ThreadId) (mask : UInt32)
  /-- A party sets flags of a thread of which it has a handle. -/
  | signalHandle (caller : Party) (id : ThreadId) (mask : UInt32)
  /-- A party calls on its own flags. -/
  | own (party : Party) (request : Sync.FlagWord.Request)
  /-- A woken wait of a party for its flags resumes. -/
  | resume (id : ThreadId) (party : Party)
  /-- The time of a wait of a party for its flags runs out. -/
  | expire (id : ThreadId) (party : Party)

/-- What an event makes of a table, and what it tells. -/
structure Happening (Party : Type) where
  table : ThreadTable Party
  /-- The number that a new thread has got. -/
  given : Option ThreadId := none
  /-- The thread that has ended or could not be started. -/
  ended : Option ThreadId := none
  /-- How far a call on flags has come. -/
  answer : Option (Party × Sync.Progress UInt32) := none

/-- The thread that is reported to have been registered by its first use of the core. -/
def LogEvent.adopted? : LogEvent → Option ThreadId
  | adopted id => some id
  | _ => none

/-- The thread that is reported to have exited. -/
def LogEvent.exited? : LogEvent → Option ThreadId
  | exited id => some id
  | _ => none

namespace ThreadTable

variable {Party : Type} [DecidableEq Party]

/-- Something that happens to the flags of a thread. -/
def onFlags (table : ThreadTable Party) (id : ThreadId)
    (event : Sync.Event Party Sync.FlagWord.Request) : Happening Party :=
  match table.get? id with
  | none => { table }
  | some thread =>
      let (flags, answer) := thread.flags.step Sync.FlagWord.pass event
      { table := table.putFlags id flags, answer }

/-- Whether a thread is registered and its body has not begun. -/
def isStarting (table : ThreadTable Party) (id : ThreadId) : Bool :=
  (table.get? id).any (·.state = .starting)

/--
What an event makes of a table. An event that cannot happen leaves everything as it is: the
body of a thread begins once, in a thread of the host that is new, and only a thread whose
body has not begun can fail to be started.
-/
def step (table : ThreadTable Party) : ThreadEvent Party → Happening Party
  | .register name =>
      let (table, id) := table.register name .starting
      { table, given := some id }
  | .adopt id party =>
      if table.isStarting id && (table.slot? party).isNone then { table := table.adopt party id }
      else { table }
  | .fail id =>
      if table.isStarting id then { table := table.unregister id, ended := some id }
      else { table }
  | .use party name =>
      let (table, _, events) := table.current party name
      { table, given := events.findSome? LogEvent.adopted? }
  | .exit party ending =>
      let (table, events) := table.exit party ending
      { table, ended := events.findSome? LogEvent.exited? }
  | .signal caller id mask =>
      match table.find? id with
      | none => { table, answer := some (caller, .finished (.error .invalidParameter)) }
      | some _ => table.onFlags id (.call caller (.set mask) none)
  | .signalHandle caller id mask => table.onFlags id (.call caller (.set mask) none)
  | .own party request =>
      match table.slot? party with
      | none => { table }
      | some id => table.onFlags id (.call party request none)
  | .resume id party => table.onFlags id (.resume party none)
  | .expire id party => table.onFlags id (.expire party none)

/-- The ways in which an event changes a table. -/
inductive Moves (table : ThreadTable Party) (event : ThreadEvent Party) :
    Happening Party → Prop where
  | idle (answer : Option (Party × Sync.Progress UInt32)) : Moves table event { table, answer }
  | registered (name : Option String) :
      Moves table event
        { table := (table.register name .starting).1, given := some ⟨table.next⟩ }
  | adopted (id : ThreadId) (party : Party) (thread : Thread Party)
      (found : table.get? id = some thread) (starting : thread.state = .starting)
      (free : table.slot? party = none) : Moves table event { table := table.adopt party id }
  | failed (id : ThreadId) (thread : Thread Party) (found : table.get? id = some thread)
      (starting : thread.state = .starting) :
      Moves table event { table := table.unregister id, ended := some id }
  | entered (party : Party) (name : Option String) (free : table.slot? party = none) :
      Moves table event
        { table := (table.register name .running).1.occupy party ⟨table.next⟩
          given := some ⟨table.next⟩ }
  | left (party : Party) (id : ThreadId) (ending : ThreadEnding)
      (own : table.slot? party = some id) (exits : event = .exit party ending) :
      Moves table event
        { table := (table.finish id ending).vacate party, ended := some id }
  | flagged (id : ThreadId) (thread : Thread Party)
      (flagEvent : Sync.Event Party Sync.FlagWord.Request)
      (found : table.get? id = some thread)
      (calls : ∀ caller request favourite, flagEvent = .call caller request favourite →
        (∃ mask, request = .set mask) ∨
          event = .own caller request ∧ table.slot? caller = some id) :
      Moves table event
        { table := table.putFlags id (thread.flags.step Sync.FlagWord.pass flagEvent).1
          answer := (thread.flags.step Sync.FlagWord.pass flagEvent).2 }

variable {table : ThreadTable Party} {event : ThreadEvent Party}

theorem onFlags_moves {id : ThreadId} {flagEvent : Sync.Event Party Sync.FlagWord.Request}
    (calls : ∀ caller request favourite, flagEvent = .call caller request favourite →
      (∃ mask, request = .set mask) ∨
        event = .own caller request ∧ table.slot? caller = some id) :
    table.Moves event (table.onFlags id flagEvent) := by
  simp only [onFlags]
  cases found : table.get? id with
  | none => exact .idle none
  | some thread => exact .flagged id thread flagEvent found calls

omit [DecidableEq Party] in
theorem exists_of_isStarting {id : ThreadId} (starting : table.isStarting id = true) :
    ∃ thread, table.get? id = some thread ∧ thread.state = .starting := by
  simpa [isStarting, Option.any_eq_true] using starting

/-- Nothing else happens to a table. -/
theorem step_moves (table : ThreadTable Party) (event : ThreadEvent Party) :
    table.Moves event (table.step event) := by
  cases event with
  | register name => exact .registered name
  | adopt id party =>
      simp only [step]
      split
      · rename_i able
        simp only [Bool.and_eq_true, Option.isNone_iff_eq_none] at able
        rcases exists_of_isStarting able.1 with ⟨thread, found, starting⟩
        exact .adopted id party thread found starting able.2
      · exact .idle none
  | fail id =>
      simp only [step]
      split
      · rename_i able
        rcases exists_of_isStarting able with ⟨thread, found, starting⟩
        exact .failed id thread found starting
      · exact .idle none
  | use party name =>
      simp only [step, current]
      cases free : table.slot? party with
      | none => exact .entered party name free
      | some id => exact .idle none
  | exit party ending =>
      simp only [step, ThreadTable.exit]
      cases own : table.slot? party with
      | none => exact .idle none
      | some id => exact .left party id ending own rfl
  | signal caller id mask =>
      simp only [step]
      cases table.find? id with
      | none => exact .idle _
      | some thread =>
          apply onFlags_moves
          rintro _ _ _ ⟨⟩
          exact .inl ⟨mask, rfl⟩
  | signalHandle caller id mask =>
      simp only [step]
      apply onFlags_moves
      rintro _ _ _ ⟨⟩
      exact .inl ⟨mask, rfl⟩
  | own party request =>
      simp only [step]
      cases own : table.slot? party with
      | none => exact .idle none
      | some id =>
          apply onFlags_moves
          rintro _ _ _ ⟨⟩
          exact .inr ⟨rfl, own⟩
  | resume id party =>
      simp only [step]
      apply onFlags_moves
      rintro _ _ _ ⟨⟩
  | expire id party =>
      simp only [step]
      apply onFlags_moves
      rintro _ _ _ ⟨⟩

/-! ## What every event keeps -/

theorem valid_step (flags : ThreadFlags Party)
    (flagEvent : Sync.Event Party Sync.FlagWord.Request) :
    (flags.step Sync.FlagWord.pass flagEvent).1.object.valid = flags.object.valid := by
  have moved := flags.step_transition Sync.FlagWord.pass flagEvent
  generalize flags.step Sync.FlagWord.pass flagEvent = answered at moved ⊢
  rcases answered with ⟨next, answer⟩
  cases moved with
  | idle => rfl
  | moved admitted passed =>
  cases passed with
  | finished result object signals favourite passed => exact Sync.FlagWord.valid_of_finish passed
  | gaveUp condition timeout passed spent => rfl
  | parked condition timeout passed lasting => rfl
  | aborted fault passed => rfl

/-- Nobody begins to wait for flags but by a call on them that is no set. -/
theorem waiters_of_quiet {thread : Thread Party}
    {flagEvent : Sync.Event Party Sync.FlagWord.Request} (quiet : thread.flags.waiters = [])
    (sets : ∀ caller request favourite, flagEvent = .call caller request favourite →
      ∃ mask, request = .set mask) :
    (thread.flags.step Sync.FlagWord.pass flagEvent).1.waiters = [] := by
  have moved := thread.flags.step_transition Sync.FlagWord.pass flagEvent
  generalize thread.flags.step Sync.FlagWord.pass flagEvent = answered at moved ⊢
  rcases answered with ⟨next, answer⟩
  cases moved with
  | idle => exact quiet
  | moved admitted passed =>
  rcases List.eq_nil_or_concat next.waiters with nobody | ⟨earlier, last, split⟩
  · exact nobody
  · have present : last ∈ next.waiters := by simp [split]
    rcases passed.of_mem present with ⟨waiter, waited, _⟩ | ⟨condition, timeout, waits, _⟩
    · have before := admitted.mem_waiters waited
      simp [quiet] at before
    · cases admitted with
      | call party request favourite free =>
          rcases sets _ _ _ rfl with ⟨mask, rfl⟩
          have done := thread.flags.object.does (.set mask)
          rw [waits] at done
          cases done
      | resume waiter others favourite woken split => simp [quiet] at split
      | expire waiter others favourite parked bounded split => simp [quiet] at split

theorem Coherent.step (coherent : table.Coherent) (event : ThreadEvent Party) :
    (table.step event).table.Coherent := by
  have moved := table.step_moves event
  generalize table.step event = happening at moved ⊢
  cases moved with
  | idle answer => exact coherent
  | registered name => exact coherent.register name
  | adopted id party thread found starting free => exact coherent.adopt found starting free
  | failed id thread found starting => exact coherent.fail found starting
  | entered party name free => exact coherent.enter name free
  | left party id ending own exits =>
      rcases coherent.running_of_slot? own with ⟨thread, found, running⟩
      exact coherent.leave found own ending
  | flagged id thread flagEvent found calls =>
      apply coherent.putFlags found
      · intro starting
        apply waiters_of_quiet (coherent.quiet found starting)
        intro caller request favourite same
        rcases calls caller request favourite same with sets | ⟨_, own⟩
        · exact sets
        · exact absurd own (coherent.slot?_ne_of_starting found starting caller)
      · exact (valid_step thread.flags flagEvent).trans (coherent.valid found)

/-- A record stays, and its flags change only by an event that concerns them. -/
theorem Coherent.get?_step (coherent : table.Coherent) (event : ThreadEvent Party)
    {id : ThreadId} {thread : Thread Party} (found : table.get? id = some thread) :
    ∃ later, (table.step event).table.get? id = some later ∧
      (later.flags = thread.flags ∨
        ∃ flagEvent, later.flags = (thread.flags.step Sync.FlagWord.pass flagEvent).1 ∧
          ∀ caller request favourite, flagEvent = .call caller request favourite →
            (∃ mask, request = .set mask) ∨
              event = .own caller request ∧ table.slot? caller = some id) := by
  have bounded := coherent.bounded found
  have old : id ≠ ⟨table.next⟩ := by
    rintro rfl
    exact absurd bounded.2 (Nat.lt_irrefl _)
  have moved := table.step_moves event
  generalize table.step event = happening at moved ⊢
  cases moved with
  | idle answer => exact ⟨thread, found, .inl rfl⟩
  | registered name =>
      refine ⟨thread, ?_, .inl rfl⟩
      simp [get?_register _ _ _ _ coherent.unused, old, found]
  | adopted other party record foundOther starting free =>
      by_cases same : id = other
      · subst same
        exact ⟨{ thread with state := .running },
          (table.get?_putState id id .running).trans (by simp [found]), .inl rfl⟩
      · exact ⟨thread, (table.get?_putState other id .running).trans (by simp [same, found]),
          .inl rfl⟩
  | failed other record foundOther starting =>
      by_cases same : id = other
      · subst same
        exact ⟨{ thread with state := .stopped }, by simp [found], .inl rfl⟩
      · exact ⟨thread, by simp [same, found], .inl rfl⟩
  | entered party name free =>
      refine ⟨thread, ?_, .inl rfl⟩
      exact (table.get?_register name .running id coherent.unused).trans (by simp [old, found])
  | left party other ending own exits =>
      by_cases same : id = other
      · subst same
        exact ⟨{ thread with ending := some ending, state := .stopped },
          (table.get?_finish id id ending).trans (by simp [found]), .inl rfl⟩
      · refine ⟨thread, ?_, .inl rfl⟩
        exact (table.get?_finish other id ending).trans (by simp [same, found])
  | flagged other record flagEvent foundOther calls =>
      by_cases same : id = other
      · subst same
        rw [found, Option.some.injEq] at foundOther
        subst foundOther
        exact ⟨_, by simp [found]; rfl, .inr ⟨flagEvent, rfl, calls⟩⟩
      · exact ⟨thread, by simp [same, found], .inl rfl⟩

end ThreadTable

/-- The table of the threads, the numbers that were given, and the threads that have ended or
could not be started, each in their order. -/
structure History (Party : Type) where
  table : ThreadTable Party := {}
  given : List ThreadId := []
  ended : List ThreadId := []

namespace History

variable {Party : Type} [DecidableEq Party]

def next (history : History Party) (event : ThreadEvent Party) : History Party :=
  let happening := history.table.step event
  { table := happening.table
    given := history.given ++ happening.given.toList
    ended := history.ended ++ happening.ended.toList }

def after (history : History Party) (events : List (ThreadEvent Party)) : History Party :=
  events.foldl next history

/-- What is told agrees with the table. -/
structure Sound (history : History Party) : Prop where
  coherent : history.table.Coherent
  numbers : history.given.map (·.number) = List.range' 1 history.given.length
  next_eq : history.table.next = history.given.length + 1
  known_iff : ∀ id, id ∈ history.table.known ↔ id ∈ history.given ∧ id ∉ history.ended
  ended_given : ∀ id ∈ history.ended, id ∈ history.given

variable {history : History Party}

omit [DecidableEq Party] in
theorem mem_given_iff (numbers : history.given.map (·.number) = List.range' 1 history.given.length)
    (id : ThreadId) :
    id ∈ history.given ↔ 0 < id.number ∧ id.number < history.given.length + 1 := by
  have place : id ∈ history.given ↔ id.number ∈ history.given.map (·.number) := by
    rcases id with ⟨number⟩
    simp only [List.mem_map]
    constructor
    · intro present
      exact ⟨_, present, rfl⟩
    · rintro ⟨⟨other⟩, present, rfl⟩
      exact present
  rw [place, numbers, List.mem_range'_1]
  omega

theorem Sound.start : ({} : History Party).Sound where
  coherent := .empty
  numbers := rfl
  next_eq := rfl
  known_iff := by simp
  ended_given := by simp

theorem Sound.next_not_given (sound : history.Sound) :
    ⟨history.table.next⟩ ∉ history.given := by
  intro given
  rw [mem_given_iff sound.numbers, sound.next_eq] at given
  exact absurd given.2 (Nat.lt_irrefl _)

/-- A number is given to a new thread. -/
theorem Sound.give (sound : history.Sound) {later : ThreadTable Party}
    (coherent : later.Coherent) (next_eq : later.next = history.table.next + 1)
    (known_iff : ∀ id,
      id ∈ later.known ↔ id = ⟨history.table.next⟩ ∨ id ∈ history.table.known) :
    ({ history with table := later, given := history.given ++ [⟨history.table.next⟩] } :
      History Party).Sound where
  coherent := coherent
  numbers := by
    simp [sound.numbers, sound.next_eq, List.range'_1_concat, Nat.add_comm]
  next_eq := by simp [next_eq, sound.next_eq]
  known_iff id := by
    have fresh : ⟨history.table.next⟩ ∉ history.ended :=
      fun ended => sound.next_not_given (sound.ended_given _ ended)
    rw [known_iff, sound.known_iff]
    by_cases same : id = ⟨history.table.next⟩
    · subst same
      simp [fresh]
    · simp [same]
  ended_given id ended := List.mem_append_left _ (sound.ended_given id ended)

theorem Sound.finish (sound : history.Sound) {later : ThreadTable Party} {id : ThreadId}
    (known : id ∈ history.table.known) (coherent : later.Coherent)
    (next_eq : later.next = history.table.next)
    (known_iff : ∀ other,
      other ∈ later.known ↔ other ∈ history.table.known ∧ other ≠ id) :
    ({ history with table := later, ended := history.ended ++ [id] } : History Party).Sound where
  coherent := coherent
  numbers := sound.numbers
  next_eq := next_eq.trans sound.next_eq
  known_iff other := by simp [known_iff, sound.known_iff, and_assoc]
  ended_given other ended := by
    rcases List.mem_append.mp ended with before | now
    · exact sound.ended_given other before
    · rw [List.mem_singleton] at now
      subst now
      exact ((sound.known_iff other).mp known).1

theorem Sound.stay (sound : history.Sound) {later : ThreadTable Party}
    (coherent : later.Coherent) (next_eq : later.next = history.table.next)
    (known_eq : later.known = history.table.known) :
    ({ history with table := later } : History Party).Sound where
  coherent := coherent
  numbers := sound.numbers
  next_eq := next_eq.trans sound.next_eq
  known_iff other := by rw [known_eq, sound.known_iff]
  ended_given := sound.ended_given

theorem Sound.next (sound : history.Sound) (event : ThreadEvent Party) :
    (history.next event).Sound := by
  have coherent := sound.coherent.step event
  have moved := history.table.step_moves event
  simp only [History.next]
  generalize history.table.step event = happening at moved coherent ⊢
  cases moved with
  | idle answer => simpa using sound
  | registered name =>
      simpa using sound.give coherent rfl fun id => by simp [ThreadTable.register, or_comm]
  | adopted id party thread found starting free => simpa using sound.stay coherent rfl rfl
  | failed id thread found starting =>
      have known := (sound.coherent.known_iff id).mpr ⟨thread, found, by simp [starting]⟩
      simpa using sound.finish known coherent rfl fun other => by simp
  | entered party name free =>
      simpa using sound.give coherent rfl fun id => by
        simp [ThreadTable.register, ThreadTable.occupy, or_comm]
  | left party id ending own exits =>
      rcases sound.coherent.running_of_slot? own with ⟨thread, found, running⟩
      have known := (sound.coherent.known_iff id).mpr ⟨thread, found, by simp [running]⟩
      simpa using sound.finish known coherent rfl fun other => by
        simp [ThreadTable.vacate]
  | flagged id thread flagEvent found calls => simpa using sound.stay coherent rfl rfl

theorem Sound.after (sound : history.Sound) (events : List (ThreadEvent Party)) :
    (history.after events).Sound := by
  induction events generalizing history with
  | nil => exact sound
  | cons event events ih => exact ih (sound.next event)

end History

end Rtos
