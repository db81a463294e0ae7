import Rtos.Thread.Table

/-!
# Coherence of the thread table

What each operation makes of the three parts of a thread table: the records, the numbers
under which threads are found, and the threads as which parties call. The parts tell the
same story (`Coherent`): every number that was given has one record, a thread is found as
long as it has not stopped, and it runs exactly as long as a party calls as it.
-/

namespace Rtos

namespace ThreadTable

variable {Party : Type} (table : ThreadTable Party)

/-! ## Records -/

theorem get?_modify (id other : ThreadId) (change : Thread Party → Thread Party)
    (keeps : ∀ thread, (change thread).id = thread.id) :
    (table.modify id change).get? other =
      if other = id then (table.get? id).map change else table.get? other := by
  simp only [modify, get?]
  induction table.threads with
  | nil => simp [Sync.modifyFirst]
  | cons thread threads ih =>
      by_cases here : thread.id = id
      · subst here
        by_cases same : other = thread.id
        · simp [Sync.modifyFirst, keeps, same]
        · have different : thread.id ≠ other := fun equal => same equal.symm
          simp [Sync.modifyFirst, keeps, same, different]
      · by_cases found : thread.id = other
        · have different : other ≠ id := found ▸ here
          simp [Sync.modifyFirst, found, different]
        · simp [Sync.modifyFirst, here, found, ih]

/-- A change that leaves the record as it is changes nothing. -/
theorem modify_self {table : ThreadTable Party} {id : ThreadId} {thread : Thread Party}
    {change : Thread Party → Thread Party} (found : table.get? id = some thread)
    (same : change thread = thread) : table.modify id change = table := by
  have threads : Sync.modifyFirst (·.id = id) change table.threads = table.threads := by
    rw [get?] at found
    generalize table.threads = records at found ⊢
    induction records with
    | nil => rfl
    | cons record records ih =>
        by_cases here : record.id = id
        · rw [List.find?_cons_of_pos (by simpa using here), Option.some.injEq] at found
          subst found
          simp [Sync.modifyFirst, here, same]
        · rw [List.find?_cons_of_neg (by simpa using here)] at found
          simp [Sync.modifyFirst, here, ih found]
  rw [modify, threads]

@[simp]
theorem get?_putState (id other : ThreadId) (state : ThreadState) :
    (table.putState id state).get? other =
      if other = id then (table.get? id).map fun thread => { thread with state }
      else table.get? other :=
  table.get?_modify id other _ fun _ => rfl

@[simp]
theorem get?_putFlags (id other : ThreadId) (flags : ThreadFlags Party) :
    (table.putFlags id flags).get? other =
      if other = id then (table.get? id).map fun thread => { thread with flags }
      else table.get? other :=
  table.get?_modify id other _ fun _ => rfl

theorem putFlags_self {table : ThreadTable Party} {id : ThreadId} {thread : Thread Party}
    (found : table.get? id = some thread) : table.putFlags id thread.flags = table :=
  modify_self found rfl

theorem get?_register (name : Option String) (state : ThreadState) (other : ThreadId)
    (unused : table.get? ⟨table.next⟩ = none) :
    (table.register name state).1.get? other =
      if other = ⟨table.next⟩ then some { id := ⟨table.next⟩, name, state }
      else table.get? other := by
  simp only [get?] at unused
  simp only [register, get?, List.find?_append]
  by_cases new : other = ⟨table.next⟩
  · subst new
    simp [unused]
  · have different : ThreadId.mk table.next ≠ other := fun equal => new equal.symm
    simp [new, different]

@[simp]
theorem register_snd (name : Option String) (state : ThreadState) :
    (table.register name state).2 = ⟨table.next⟩ := rfl

/-! ## Slots and numbers -/

section Slots

variable [DecidableEq Party] (party other : Party) (id : ThreadId)

@[simp]
theorem slot?_occupy :
    (table.occupy party id).slot? other =
      if other = party then some id else table.slot? other := by
  by_cases same : other = party
  · simp [slot?, occupy, same]
  · have different : (other == party) = false := beq_false_of_ne same
    simp [slot?, occupy, List.lookup_cons, same, different]

@[simp]
theorem slot?_vacate :
    (table.vacate party).slot? other = if other = party then none else table.slot? other := by
  simp only [slot?, vacate]
  induction table.slots with
  | nil => simp
  | cons slot slots ih =>
      rcases slot with ⟨owner, owned⟩
      by_cases leaves : owner = party
      · subst leaves
        by_cases same : other = owner
        · simpa [same] using ih
        · have different : (other == owner) = false := beq_false_of_ne same
          simpa [List.lookup_cons, same, different] using ih
      · by_cases found : other = owner
        · subst found
          simp [leaves]
        · have different : (other == owner) = false := beq_false_of_ne found
          simpa [List.lookup_cons, leaves, different] using ih

@[simp]
theorem slot?_register (name : Option String) (state : ThreadState) :
    (table.register name state).1.slot? party = table.slot? party := rfl

@[simp]
theorem slot?_putState (state : ThreadState) :
    (table.putState id state).slot? party = table.slot? party := rfl

@[simp]
theorem slot?_putFlags (flags : ThreadFlags Party) :
    (table.putFlags id flags).slot? party = table.slot? party := rfl

@[simp]
theorem slot?_unregister : (table.unregister id).slot? party = table.slot? party := rfl

@[simp]
theorem slot?_finish (ending : ThreadEnding) :
    (table.finish id ending).slot? party = table.slot? party := rfl

variable {table party other id}

theorem slot?_occupy_self_iff (fresh : ∀ other, table.slot? other ≠ some id) :
    (table.occupy party id).slot? other = some id ↔ other = party := by
  by_cases same : other = party <;> simp [same, fresh]

theorem slot?_occupy_iff_of_ne {wanted : ThreadId} (free : table.slot? party = none)
    (different : wanted ≠ id) :
    (table.occupy party id).slot? other = some wanted ↔ table.slot? other = some wanted := by
  by_cases same : other = party
  · simp [same, free, different.symm]
  · simp [same]

end Slots

@[simp]
theorem known_modify (id : ThreadId) (change : Thread Party → Thread Party) :
    (table.modify id change).known = table.known := rfl

@[simp]
theorem known_putFlags (id : ThreadId) (flags : ThreadFlags Party) :
    (table.putFlags id flags).known = table.known := rfl

@[simp]
theorem mem_known_unregister (id other : ThreadId) :
    other ∈ (table.unregister id).known ↔ other ∈ table.known ∧ other ≠ id := by
  simp [unregister, putState, modify]

@[simp]
theorem get?_unregister (id other : ThreadId) :
    (table.unregister id).get? other =
      if other = id then (table.get? id).map fun thread => { thread with state := .stopped }
      else table.get? other :=
  table.get?_putState id other .stopped

@[simp]
theorem mem_known_finish (id other : ThreadId) (ending : ThreadEnding) :
    other ∈ (table.finish id ending).known ↔ other ∈ table.known ∧ other ≠ id := by
  simp [finish]

@[simp]
theorem get?_finish (id other : ThreadId) (ending : ThreadEnding) :
    (table.finish id ending).get? other =
      if other = id then
        (table.get? id).map fun thread => { thread with ending := some ending, state := .stopped }
      else table.get? other := by
  rw [finish, get?_unregister, get?_modify, get?_modify]
  · by_cases same : other = id <;> simp [same, Function.comp_def]
  · intro thread
    rfl
  · intro thread
    rfl

/-! ## The parts agree -/

/-- The records, the numbers and the slots of a table agree. -/
structure Coherent [DecidableEq Party] (table : ThreadTable Party) : Prop where
  next_pos : 0 < table.next
  registered_iff : ∀ id, (table.get? id).isSome ↔ 0 < id.number ∧ id.number < table.next
  known_iff : ∀ id, id ∈ table.known ↔
    ∃ thread, table.get? id = some thread ∧ thread.state ≠ .stopped
  running_iff : ∀ id, (∃ thread, table.get? id = some thread ∧ thread.state = .running) ↔
    ∃ party, table.slot? party = some id
  /-- No two parties call as one thread. -/
  alone : ∀ {id first second}, table.slot? first = some id → table.slot? second = some id →
    first = second
  /-- Nobody waits for the flags of a thread whose body has not begun. -/
  quiet : ∀ {id thread}, table.get? id = some thread → thread.state = .starting →
    thread.flags.waiters = []
  valid : ∀ {id thread}, table.get? id = some thread →
    thread.flags.object.valid = threadFlagMask

/-- A table differs from an earlier one by the record of one thread and all that goes with it. -/
structure Puts [DecidableEq Party] (table : ThreadTable Party) (id : ThreadId)
    (thread : Thread Party) (later : ThreadTable Party) : Prop where
  get?_eq : ∀ other, later.get? other = if other = id then some thread else table.get? other
  next_le : table.next ≤ later.next
  range : ∀ other : ThreadId, 0 < other.number ∧ other.number < later.next ↔
    other = id ∨ 0 < other.number ∧ other.number < table.next
  known_iff : ∀ other, other ∈ later.known ↔
    if other = id then thread.state ≠ .stopped else other ∈ table.known
  slot?_iff : ∀ other party, other ≠ id →
    (later.slot? party = some other ↔ table.slot? party = some other)
  running_iff : thread.state = .running ↔ ∃ party, later.slot? party = some id
  alone : ∀ {first second}, later.slot? first = some id → later.slot? second = some id →
    first = second
  quiet : thread.state = .starting → thread.flags.waiters = []
  valid : thread.flags.object.valid = threadFlagMask

namespace Coherent

variable [DecidableEq Party] {table} {later : ThreadTable Party} {id : ThreadId}
  {thread : Thread Party} {party : Party}

theorem empty : ({} : ThreadTable Party).Coherent where
  next_pos := Nat.one_pos
  registered_iff id := by
    simp [get?]
    omega
  known_iff id := by simp [get?]
  running_iff id := by simp [get?, slot?]
  alone first := by simp [slot?] at first
  quiet found := by simp [get?] at found
  valid found := by simp [get?] at found

theorem puts (coherent : table.Coherent) (puts : table.Puts id thread later) : later.Coherent where
  next_pos := Nat.lt_of_lt_of_le coherent.next_pos puts.next_le
  registered_iff other := by
    rw [puts.get?_eq, puts.range, ← coherent.registered_iff]
    by_cases same : other = id <;> simp [same]
  known_iff other := by
    rw [puts.get?_eq, puts.known_iff]
    by_cases same : other = id
    · simp [same]
    · simpa [same] using coherent.known_iff other
  running_iff other := by
    rw [puts.get?_eq]
    by_cases same : other = id
    · subst same
      simpa using puts.running_iff
    · simpa [same, puts.slot?_iff other _ same] using coherent.running_iff other
  alone {other first second} firstOwn secondOwn := by
    by_cases same : other = id
    · subst same
      exact puts.alone firstOwn secondOwn
    · rw [puts.slot?_iff other _ same] at firstOwn secondOwn
      exact coherent.alone firstOwn secondOwn
  quiet {other record} found starting := by
    rw [puts.get?_eq] at found
    by_cases same : other = id
    · rw [if_pos same, Option.some.injEq] at found
      subst found
      exact puts.quiet starting
    · rw [if_neg same] at found
      exact coherent.quiet found starting
  valid {other record} found := by
    rw [puts.get?_eq] at found
    by_cases same : other = id
    · rw [if_pos same, Option.some.injEq] at found
      subst found
      exact puts.valid
    · rw [if_neg same] at found
      exact coherent.valid found

/-! ## What the operations keep -/

theorem unused (coherent : table.Coherent) : table.get? ⟨table.next⟩ = none := by
  have range := coherent.registered_iff ⟨table.next⟩
  simpa using range

theorem slot?_ne_next (coherent : table.Coherent) (party : Party) :
    table.slot? party ≠ some ⟨table.next⟩ := by
  intro own
  have running := (coherent.running_iff ⟨table.next⟩).mpr ⟨party, own⟩
  simp [coherent.unused] at running

theorem running_of_slot? (coherent : table.Coherent) (own : table.slot? party = some id) :
    ∃ thread, table.get? id = some thread ∧ thread.state = .running :=
  (coherent.running_iff id).mpr ⟨party, own⟩

theorem slot?_ne_of_starting (coherent : table.Coherent) (found : table.get? id = some thread)
    (starting : thread.state = .starting) (party : Party) : table.slot? party ≠ some id := by
  intro own
  rcases coherent.running_of_slot? own with ⟨record, foundAgain, running⟩
  rw [found, Option.some.injEq] at foundAgain
  subst foundAgain
  rw [starting] at running
  cases running

theorem bounded (coherent : table.Coherent) (found : table.get? id = some thread) :
    0 < id.number ∧ id.number < table.next := by
  rw [← coherent.registered_iff, found]
  rfl

theorem register_range (coherent : table.Coherent) (other : ThreadId) :
    0 < other.number ∧ other.number < table.next + 1 ↔
      other = ⟨table.next⟩ ∨ 0 < other.number ∧ other.number < table.next := by
  have positive := coherent.next_pos
  rcases other with ⟨number⟩
  simp only [ThreadId.mk.injEq]
  omega

theorem known_range (coherent : table.Coherent) (found : table.get? id = some thread)
    (other : ThreadId) :
    0 < other.number ∧ other.number < table.next ↔
      other = id ∨ 0 < other.number ∧ other.number < table.next := by
  refine ⟨Or.inr, ?_⟩
  rintro (rfl | within)
  · exact coherent.bounded found
  · exact within

omit [DecidableEq Party] in
theorem mem_known_register (name : Option String) (state : ThreadState) (other : ThreadId) :
    other ∈ (table.register name state).1.known ↔
      if other = ⟨table.next⟩ then True else other ∈ table.known := by
  by_cases same : other = ⟨table.next⟩ <;> simp [ThreadTable.register, same]

theorem register (coherent : table.Coherent) (name : Option String) :
    (table.register name .starting).1.Coherent := by
  have put : table.Puts ⟨table.next⟩ { id := ⟨table.next⟩, name, state := .starting }
      (table.register name .starting).1 := {
    get?_eq other := table.get?_register name .starting other coherent.unused
    next_le := Nat.le_succ _
    range := coherent.register_range
    known_iff other := by simp [mem_known_register]
    slot?_iff other party different := Iff.rfl
    running_iff := by simp [coherent.slot?_ne_next]
    alone own := absurd own (coherent.slot?_ne_next _)
    quiet _ := rfl
    valid := rfl }
  exact coherent.puts put

/-- A party that calls as no thread begins to call as a new one. -/
theorem enter (coherent : table.Coherent) (name : Option String)
    (free : table.slot? party = none) :
    ((table.register name .running).1.occupy party ⟨table.next⟩).Coherent := by
  have put : table.Puts ⟨table.next⟩ { id := ⟨table.next⟩, name, state := .running }
      ((table.register name .running).1.occupy party ⟨table.next⟩) := {
    get?_eq other := table.get?_register name .running other coherent.unused
    next_le := Nat.le_succ _
    range := coherent.register_range
    known_iff other := (mem_known_register name .running other).trans (by simp)
    slot?_iff other caller different := slot?_occupy_iff_of_ne free different
    running_iff := iff_of_true rfl ⟨party, by simp⟩
    alone first second := by
      have own := @slot?_occupy_self_iff _ (table.register name .running).1 _ party
      exact ((own coherent.slot?_ne_next).mp first).trans
        ((own coherent.slot?_ne_next).mp second).symm
    quiet starting := by cases starting
    valid := rfl }
  exact coherent.puts put

/-- The body of a thread that has been registered begins. -/
theorem adopt (coherent : table.Coherent) (found : table.get? id = some thread)
    (starting : thread.state = .starting) (free : table.slot? party = none) :
    (table.adopt party id).Coherent := by
  have known : id ∈ table.known :=
    (coherent.known_iff id).mpr ⟨thread, found, by simp [starting]⟩
  have valid := coherent.valid found
  have put : table.Puts id { thread with state := .running } (table.adopt party id) := {
    get?_eq other := (table.get?_putState id other .running).trans (by simp [found])
    next_le := Nat.le_refl _
    range := coherent.known_range found
    known_iff other := by
      by_cases same : other = id <;> simp [same, known, ThreadTable.adopt, occupy, putState, modify]
    slot?_iff other caller different := slot?_occupy_iff_of_ne free different
    running_iff := iff_of_true rfl ⟨party, by simp [ThreadTable.adopt]⟩
    alone first second := by
      have own := @slot?_occupy_self_iff _ (table.putState id .running) _ party
      have fresh := coherent.slot?_ne_of_starting found starting
      exact ((own fresh).mp first).trans ((own fresh).mp second).symm
    quiet starting := by cases starting
    valid := valid }
  exact coherent.puts put

/-- A thread that has been registered could not be started. -/
theorem fail (coherent : table.Coherent) (found : table.get? id = some thread)
    (starting : thread.state = .starting) : (table.unregister id).Coherent := by
  have fresh := coherent.slot?_ne_of_starting found starting
  have valid := coherent.valid found
  have put : table.Puts id { thread with state := .stopped } (table.unregister id) := {
    get?_eq other := by simp [found]
    next_le := Nat.le_refl _
    range := coherent.known_range found
    known_iff other := by by_cases same : other = id <;> simp [same]
    slot?_iff other caller different := Iff.rfl
    running_iff := by simp [fresh]
    alone own := absurd own (fresh _)
    quiet starting := by cases starting
    valid := valid }
  exact coherent.puts put

/-- The thread as which a party has called ends. -/
theorem leave (coherent : table.Coherent) (found : table.get? id = some thread)
    (own : table.slot? party = some id) (ending : ThreadEnding) :
    ((table.finish id ending).vacate party).Coherent := by
  have others (other : Party) (different : other ≠ party) : table.slot? other ≠ some id :=
    fun same => different (coherent.alone same own)
  have valid := coherent.valid found
  have put : table.Puts id { thread with ending := some ending, state := .stopped }
      ((table.finish id ending).vacate party) := {
    get?_eq other := (get?_finish table id other ending).trans (by simp [found])
    next_le := Nat.le_refl _
    range := coherent.known_range found
    known_iff other := by
      refine (mem_known_finish table id other ending).trans ?_
      by_cases same : other = id <;> simp [same]
    slot?_iff other caller different := by
      by_cases same : caller = party
      · subst same
        simp [own, different.symm]
      · simp [same]
    running_iff := by simpa using others
    alone first := by
      rw [slot?_vacate] at first
      split at first
      · cases first
      · exact absurd first (others _ ‹_›)
    quiet starting := by cases starting
    valid := valid }
  exact coherent.puts put

theorem putFlags (coherent : table.Coherent) (found : table.get? id = some thread)
    {flags : ThreadFlags Party} (quiet : thread.state = .starting → flags.waiters = [])
    (valid : flags.object.valid = threadFlagMask) :
    (table.putFlags id flags).Coherent := by
  have put : table.Puts id { thread with flags } (table.putFlags id flags) := {
    get?_eq other := by simp [found]
    next_le := Nat.le_refl _
    range := coherent.known_range found
    known_iff other := by
      by_cases same : other = id
      · subst same
        simpa [found] using coherent.known_iff other
      · simp [same]
    slot?_iff other caller different := Iff.rfl
    running_iff := by simpa [found] using coherent.running_iff id
    alone := coherent.alone
    quiet := quiet
    valid := valid }
  exact coherent.puts put

end Coherent

end ThreadTable

end Rtos
