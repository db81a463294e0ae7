import Rtos.Proofs.Thread.Lifetime

/-!
# Thread identity

What can be relied on while threads come and go in any order. Numbers are counted up from
one and belong to one thread each (`Identified`); flags are set of a thread as long as it is
known under its number, and of no other thread (`Signalled`); and what is set before the body
of a thread begins waits for it there (`ThreadTable.Holds.after`).
-/

namespace Rtos

namespace ThreadTable

variable {Party : Type} [DecidableEq Party] {table : ThreadTable Party}

/-! ## The bits that are set before a body begins -/

/-- In these events the thread itself takes no such bit out of its flags. -/
def Spares (table : ThreadTable Party) (id : ThreadId) (bit : Nat) :
    List (ThreadEvent Party) → Prop
  | [] => True
  | event :: events =>
      (∀ party request, event = .own party request → table.slot? party = some id →
        request.takes bit = false) ∧
        (table.step event).table.Spares id bit events

/-- A word shows a bit, and no call that waits on it takes that bit. -/
structure Holds (flags : ThreadFlags Party) (bit : Nat) : Prop where
  shown : Sync.FlagWord.shows flags.object.bits bit = true
  spared : ∀ waiter ∈ flags.waiters, waiter.request.takes bit = false

theorem Holds.step {flags : ThreadFlags Party} {bit : Nat} (holds : Holds flags bit)
    {flagEvent : Sync.Event Party Sync.FlagWord.Request}
    (spares : ∀ caller request favourite, flagEvent = .call caller request favourite →
      request.takes bit = false) :
    Holds (flags.step Sync.FlagWord.pass flagEvent).1 bit := by
  have moved := flags.step_transition Sync.FlagWord.pass flagEvent
  generalize flags.step Sync.FlagWord.pass flagEvent = answered at moved ⊢
  rcases answered with ⟨next, answer⟩
  cases moved with
  | idle => exact holds
  | @moved party request expired others next progress admitted passed =>
  have spared : request.takes bit = false := by
    cases admitted with
    | call party request favourite free => exact spares _ _ _ rfl
    | resume waiter others favourite woken split =>
        exact holds.spared waiter (split.mem_iff.mpr List.mem_cons_self)
    | expire waiter others favourite parked bounded split =>
        exact holds.spared waiter (split.mem_iff.mpr List.mem_cons_self)
  constructor
  · cases passed with
    | finished result object signals favourite passed =>
        exact Sync.FlagWord.shows_of_finish passed spared holds.shown
    | gaveUp condition timeout passed spent => exact holds.shown
    | parked condition timeout passed lasting => exact holds.shown
    | aborted fault passed => exact holds.shown
  · intro waiter present
    rcases passed.of_mem present with ⟨earlier, waited, same⟩ | ⟨condition, timeout, _, rfl⟩
    · have before := holds.spared earlier (admitted.mem_waiters waited)
      rcases same with rfl | rfl
      · exact before
      · exact before
    · exact spared

theorem Holds.after {history : History Party} {id : ThreadId} {bit : Nat}
    (coherent : history.table.Coherent) {thread : Thread Party}
    (found : history.table.get? id = some thread) (holds : Holds thread.flags bit)
    {since : List (ThreadEvent Party)} (spares : history.table.Spares id bit since) :
    ∃ later, (history.after since).table.get? id = some later ∧ Holds later.flags bit := by
  induction since generalizing history thread with
  | nil => exact ⟨thread, found, holds⟩
  | cons event since ih =>
      rcases coherent.get?_step event found with ⟨later, foundLater, changed⟩
      change ∃ later, ((history.next event).after since).table.get? id = some later ∧ _
      refine ih (coherent.step event) foundLater ?_ spares.2
      rcases changed with same | ⟨flagEvent, changed, calls⟩
      · rw [same]
        exact holds
      · rw [changed]
        apply holds.step
        intro caller request favourite isCall
        rcases calls caller request favourite isCall with ⟨mask, rfl⟩ | ⟨own, slot⟩
        · rfl
        · exact spares.1 caller request own slot

/-! ## Slots -/

/-- A party calls as the same thread until it exits. -/
theorem slot?_step {party : Party} {id : ThreadId} (own : table.slot? party = some id)
    {event : ThreadEvent Party} (stays : ∀ ending, event ≠ .exit party ending) :
    (table.step event).table.slot? party = some id := by
  have moved := table.step_moves event
  generalize table.step event = happening at moved ⊢
  cases moved with
  | idle answer => exact own
  | registered name => exact own
  | adopted other caller thread found starting free =>
      have different : party ≠ caller := by
        rintro rfl
        rw [own] at free
        cases free
      exact (slot?_occupy _ caller party other).trans (by simp [different, own])
  | failed other thread found starting => exact own
  | entered caller name free =>
      have different : party ≠ caller := by
        rintro rfl
        rw [own] at free
        cases free
      exact (slot?_occupy _ caller party _).trans (by simp [different, own])
  | left caller other ending owned exits =>
      have different : party ≠ caller := by
        rintro rfl
        exact stays ending exits
      simp [different, own]
  | flagged other thread flagEvent found calls => exact own

theorem slot?_after {history : History Party} {party : Party} {id : ThreadId}
    (own : history.table.slot? party = some id) {since : List (ThreadEvent Party)}
    (stays : ∀ ending, .exit party ending ∉ since) :
    (history.after since).table.slot? party = some id := by
  induction since generalizing history with
  | nil => exact own
  | cons event since ih =>
      change ((history.next event).after since).table.slot? party = some id
      apply ih
      · apply slot?_step own
        intro ending same
        exact stays ending (same ▸ List.mem_cons_self)
      · intro ending present
        exact stays ending (List.mem_cons_of_mem _ present)

/-! ## Flags of others -/

variable {id : ThreadId} {caller : Party} {mask : UInt32}

omit [DecidableEq Party] in
theorem find?_of_not_known (unknown : id ∉ table.known) : table.find? id = none :=
  if_neg unknown

omit [DecidableEq Party] in
theorem find?_of_known (known : id ∈ table.known) : table.find? id = table.get? id :=
  if_pos known

/-- A party that does not wait for the flags of a thread sets them at once. -/
theorem onFlags_set {thread : Thread Party} (found : table.get? id = some thread)
    (free : thread.flags.isWaiting caller = false)
    (valid : mask &&& ~~~thread.flags.object.valid = 0) :
    ∃ flags : ThreadFlags Party,
      flags.object =
        { thread.flags.object with bits := thread.flags.object.bits ||| mask } ∧
      table.onFlags id (.call caller (.set mask) none) =
        { table := table.putFlags id flags
          answer := some (caller, .finished (.ok (thread.flags.object.bits ||| mask))) } := by
  have passed : Sync.FlagWord.pass thread.flags.object (.set mask) =
      .finish (.ok (thread.flags.object.bits ||| mask))
        { thread.flags.object with bits := thread.flags.object.bits ||| mask }
        [.all .changed] := if_pos valid
  refine ⟨⟨{ thread.flags.object with bits := thread.flags.object.bits ||| mask },
    Sync.Signal.deliverAll none [.all .changed] thread.flags.waiters⟩, rfl, ?_⟩
  simp only [onFlags, found]
  rw [Sync.Monitor.step_call_of_finish free passed]

theorem onFlags_invalid {thread : Thread Party} (found : table.get? id = some thread)
    (free : thread.flags.isWaiting caller = false)
    (invalid : mask &&& ~~~thread.flags.object.valid ≠ 0) :
    table.onFlags id (.call caller (.set mask) none) =
      { table
        answer := some (caller, .aborted
          (.invalidFlagBits thread.flags.object.owner mask thread.flags.object.valid)) } := by
  have passed : Sync.FlagWord.pass thread.flags.object (.set mask) =
      .abort (.invalidFlagBits thread.flags.object.owner mask thread.flags.object.valid) :=
    if_neg invalid
  simp only [onFlags, found]
  rw [Sync.Monitor.step_call_of_abort free passed, putFlags_self found]

end ThreadTable

namespace History

variable {Party : Type} [DecidableEq Party]

/-- Numbers are given to one thread each, and a thread keeps its own. -/
structure Identified (history : History Party) : Prop where
  /-- The numbers that were given are the first ones, in order. -/
  numbers : history.given.map (·.number) = List.range' 1 history.given.length
  /-- Known are the threads that have got a number and have neither ended nor failed. -/
  known_iff : ∀ id,
    (history.table.find? id).isSome ↔ id ∈ history.given ∧ id ∉ history.ended
  /-- A party that is not registered gets a new number at its first call. -/
  first : ∀ party name, history.table.slot? party = none →
    ∃ id, (history.table.current party name).2.1 = id ∧ id ∉ history.given ∧
      (history.next (.use party name)).given = history.given ++ [id] ∧
      (history.next (.use party name)).table.slot? party = some id
  /-- A party that is registered keeps its number, and is registered no second time, until
  it exits. -/
  stable : ∀ party id name since, history.table.slot? party = some id →
    (∀ ending, .exit party ending ∉ since) →
      (history.after since).table.current party name = ((history.after since).table, id, [])
  alone : ∀ id first second, history.table.slot? first = some id →
    history.table.slot? second = some id → first = second

/-- Flags are set of the thread of a number as long as it is known. -/
structure Signalled (history : History Party) : Prop where
  unknown : ∀ caller id mask, id ∉ history.table.known →
    history.table.step (.signal caller id mask) =
      { table := history.table
        answer := some (caller, .finished (.error .invalidParameter)) }
  /-- The word of the thread is told and gains the bits, and no other word changes. -/
  known : ∀ caller id mask, id ∈ history.table.known → mask &&& ~~~threadFlagMask = 0 →
    ∃ thread, history.table.get? id = some thread ∧
      (thread.flags.isWaiting caller = false →
        ∃ later, history.table.step (.signal caller id mask) =
            { table := later
              answer := some (caller, .finished (.ok (thread.flags.object.bits ||| mask))) } ∧
          ∀ other, (later.get? other).map (·.flags.object) =
            if other = id then
              some { thread.flags.object with bits := thread.flags.object.bits ||| mask }
            else (history.table.get? other).map (·.flags.object))
  /-- A mask with other bits than those of a thread's word is a fault that changes nothing. -/
  invalid : ∀ caller id mask, id ∈ history.table.known → mask &&& ~~~threadFlagMask ≠ 0 →
    ∃ thread, history.table.get? id = some thread ∧
      (thread.flags.isWaiting caller = false →
        history.table.step (.signal caller id mask) =
          { table := history.table
            answer := some (caller, .aborted
              (.invalidFlagBits thread.flags.object.owner mask threadFlagMask)) })

theorem Sound.identified {history : History Party} (sound : history.Sound) :
    history.Identified where
  numbers := sound.numbers
  known_iff id := by
    rw [← sound.known_iff]
    by_cases known : id ∈ history.table.known
    · rcases (sound.coherent.known_iff id).mp known with ⟨thread, found, _⟩
      simp [ThreadTable.find?_of_known known, found, known]
    · simp [ThreadTable.find?_of_not_known known, known]
  first party name free := by
    refine ⟨⟨history.table.next⟩, ?_, ?_, ?_, ?_⟩
    · simp [ThreadTable.current, free]
    · exact sound.next_not_given
    · simp [History.next, ThreadTable.step, ThreadTable.current, free, LogEvent.adopted?]
    · simp [History.next, ThreadTable.step, ThreadTable.current, free]
  stable party id name since own stays := by
    simp [ThreadTable.current, ThreadTable.slot?_after own stays]
  alone id first second := sound.coherent.alone

theorem Sound.signalled {history : History Party} (sound : history.Sound) :
    history.Signalled where
  unknown caller id mask unknown := by
    simp only [ThreadTable.step, ThreadTable.find?_of_not_known unknown]
  known caller id mask known valid := by
    rcases (sound.coherent.known_iff id).mp known with ⟨thread, found, _⟩
    refine ⟨thread, found, ?_⟩
    intro free
    rw [← sound.coherent.valid found] at valid
    rcases ThreadTable.onFlags_set found free valid with ⟨flags, object, called⟩
    refine ⟨history.table.putFlags id flags, ?_, ?_⟩
    · simp only [ThreadTable.step, ThreadTable.find?_of_known known, found]
      exact called
    · intro other
      by_cases same : other = id <;> simp [same, found, object]
  invalid caller id mask known invalid := by
    rcases (sound.coherent.known_iff id).mp known with ⟨thread, found, _⟩
    refine ⟨thread, found, ?_⟩
    intro free
    have valid := sound.coherent.valid found
    simp only [ThreadTable.step, ThreadTable.find?_of_known known, found]
    rw [ThreadTable.onFlags_invalid found free (by rw [valid]; exact invalid), valid]

end History

end Rtos
