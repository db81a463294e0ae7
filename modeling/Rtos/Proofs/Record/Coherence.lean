import Rtos.Proofs.Record.Balance

/-!
# Flags, data and opens

The flag of a record is raised exactly when the record has its data, and an open that is
in progress waits for the flag of the record there is, not for one of an earlier record
of the name. This is so because an open in progress holds its record, which is therefore
not removed. An open that has seen its flag raised finds the data that was published in
the lifetime in which it took its hold.
-/

namespace Rtos

namespace Record

variable {Party : Type}

namespace Slot

section Operations

variable (slot : Slot Party)

theorem isSatisfied_raised (word : Sync.FlagWord) :
    Sync.WaitMode.any.isSatisfied (raised word).bits readyBit = true := by
  have kept : (word.bits ||| readyBit) &&& readyBit = readyBit := by
    apply UInt32.toBitVec_inj.mp
    ext i
    simp
    grind
  simp only [Sync.WaitMode.isSatisfied, raised, kept]
  decide

theorem isRaised_raise {number : Nat} (known : number < slot.flags.length) :
    (slot.raise number).isRaised number = true := by
  simp [isRaised, flag, raise, known, isSatisfied_raised]

end Operations

/-- What is true of an open in progress. -/
structure Placed (slot : Slot Party) (history : History Party) (opening : Opening Party) :
    Prop where
  /-- There is a record, and the open waits for its flag. -/
  flag : ∃ data, slot.content = some (opening.flag, data)
  /-- If it has seen the flag raised, there is data. -/
  woken : opening.stage = .ready → slot.data.isSome
  /-- It took its hold in the lifetime of the record. -/
  begun : .took opening.party ∈ history.lifetime

/--
The flag of the record, its data and the opens in progress agree with each other and
with what has happened in the lifetime of the record.
-/
structure Coherent (slot : Slot Party) (history : History Party) : Prop where
  known : ∀ {number data}, slot.content = some (number, data) → number < slot.flags.length
  raised : ∀ {number data}, slot.content = some (number, data) →
    slot.isRaised number = data.isSome
  placed : ∀ opening ∈ slot.openings, slot.Placed history opening
  published : history.published = slot.data.toList

/-- A record that is removed leaves no open behind that would take its place for it. -/
theorem Balanced.vacant {slot : Slot Party} {history : History Party}
    (balanced : slot.Balanced history) (unheld : slot.holders = 0) :
    ({ slot with record := none } : Slot Party).Coherent (history.after (some .removed)) := by
  have idle := balanced.openings_of_unheld unheld
  constructor <;> simp [content, data, idle]

namespace Coherent

variable {slot : Slot Party} {history : History Party}

theorem start : Coherent ({} : Slot Party) [] := by
  constructor <;> simp [content, data, History.published, History.lifetime]

variable (coherent : slot.Coherent history)

include coherent

/-- Another number of holders and other opens in place make a slot no less coherent. -/
theorem of_placed {next : Slot Party} (content : next.content = slot.content)
    (flags : next.flags = slot.flags)
    (placed : ∀ opening ∈ next.openings, slot.Placed history opening) :
    next.Coherent history := by
  have data : next.data = slot.data := by simp only [data_eq_content, content]
  constructor
  · rw [content, flags]
    exact coherent.known
  · intro number data found
    rw [content] at found
    simpa only [isRaised, flag, flags] using coherent.raised found
  · intro opening present
    rcases placed opening present with ⟨flag, woken, begun⟩
    exact ⟨content ▸ flag, data ▸ woken, begun⟩
  · rw [data]
    exact coherent.published

/-- What neither publishes nor removes leaves a slot as coherent as it was. -/
theorem after {note : Note Party} (stays : note.isRemoved = false)
    (silent : note.published? = none) : slot.Coherent (history.after (some note)) := by
  refine ⟨coherent.known, coherent.raised, ?_, ?_⟩
  · intro opening present
    rcases coherent.placed opening present with ⟨flag, woken, begun⟩
    refine ⟨flag, woken, ?_⟩
    simp only [History.lifetime_after, stays, Bool.false_eq_true, if_false, List.mem_append]
    exact .inl begun
  · simp only [History.published_after, stays, silent, Bool.false_eq_true, if_false,
      Option.toList_none, List.append_nil]
    exact coherent.published

/-- An open that has looked at its flag is in place: raised, the flag tells of data. -/
theorem moveTo [DecidableEq Party] {opening : Opening Party} {stage : Stage}
    (present : opening ∈ slot.openings) (seen : stage = .ready → slot.isRaised opening.flag) :
    (slot.moveTo opening.party stage).Coherent history := by
  have published : stage = .ready → slot.data.isSome := by
    intro ready
    rcases (coherent.placed opening present).flag with ⟨data, found⟩
    have raised := coherent.raised found
    rw [seen ready] at raised
    simp [data_eq_content, found, ← raised]
  refine coherent.of_placed rfl rfl ?_
  intro moved present
  simp only [Slot.moveTo, List.mem_map] at present
  rcases present with ⟨earlier, before, rfl⟩
  rcases coherent.placed earlier before with ⟨flag, woken, begun⟩
  split
  · exact ⟨flag, published, begun⟩
  · exact ⟨flag, woken, begun⟩

theorem leave [DecidableEq Party] (party : Party) : (slot.leave party).Coherent history := by
  refine coherent.of_placed rfl rfl ?_
  intro opening present
  exact coherent.placed opening (List.mem_of_mem_filter present)

theorem put {record : Record} (found : slot.record = some record) (holders : Nat) :
    (slot.put { record with holders }).Coherent history := by
  apply coherent.of_placed
  · simp [content, Slot.put, found]
  · rfl
  · exact coherent.placed

variable (balanced : slot.Balanced history)

include balanced

/-- A record that is made pending is coherent: no open is left from an earlier one. -/
theorem ensure : slot.ensure.1.Coherent history := by
  cases found : slot.record with
  | some record =>
      rw [slot.ensure_of_record found]
      exact coherent
  | none =>
      have idle : slot.openings = [] :=
        balanced.openings_of_unheld (by simp [holders, found])
      have published := coherent.published
      simp only [data, found] at published
      constructor
      all_goals simp [Slot.ensure, found, content, data, idle, published, isRaised, flag]
      decide

theorem ready (data : Data) (pending : slot.data = none) :
    (slot.ready data).Coherent (history.after (some (.published data))) := by
  have made := coherent.ensure balanced
  have content := slot.content_ensure
  have known := made.known content
  constructor
  · intro number later found
    simp only [content_ready, Option.some.injEq, Prod.mk.injEq] at found
    rcases found with ⟨rfl, _⟩
    simpa [Slot.ready, store, raise, Slot.put] using known
  · intro number later found
    simp only [content_ready, Option.some.injEq, Prod.mk.injEq] at found
    rcases found with ⟨rfl, rfl⟩
    exact isRaised_raise _ known
  · intro opening present
    simp only [Slot.ready, store, raise, Slot.put, List.mem_map] at present
    rcases present with ⟨earlier, before, rfl⟩
    rcases made.placed earlier before with ⟨flag, _, begun⟩
    constructor
    · rcases flag with ⟨data, found⟩
      rw [content, Option.some.injEq, Prod.mk.injEq] at found
      simp [found.1]
    · simp
    · simp [begun]
  · have unpublished : history.published = [] := by
      rw [coherent.published, pending]
      rfl
    simp [unpublished]

theorem hold (party : Party) (wanted : ValueType) (patience : Patience) :
    (slot.hold party wanted patience).Coherent (history.after (some (.took party))) := by
  have made : slot.ensure.1.Coherent (history.after (some (.took party))) :=
    (coherent.ensure balanced).after rfl rfl
  apply made.of_placed (slot.content_hold party wanted patience) rfl
  intro opening present
  simp only [Slot.hold, List.mem_append, List.mem_singleton] at present
  rcases present with before | rfl
  · exact made.placed opening before
  · constructor
    · simp [content_ensure]
    · simp
    · simp

omit balanced in
/-- Every transition keeps a balanced slot coherent. -/
theorem transition [DecidableEq Party] (balanced : slot.Balanced history) {name : Bytes}
    {event : Event Party} {next : Slot Party} {answer : Answer}
    (transition : slot.Transition name event next answer) :
    next.Coherent (history.after (slot.note? event answer)) := by
  cases transition with
  | busy party wanted patience begun => simpa [slot.note?_busy begun] using coherent
  | waited event party own => simpa [slot.note?_pending own] using coherent
  | published data pending => exact coherent.ready balanced data pending
  | publishedTwice data record found published => simpa [note?] using coherent
  | took party wanted patience free =>
      rw [slot.note?_hold free]
      exact coherent.hold balanced party wanted patience
  | looked event opening stage present own seen =>
      rw [slot.note?_pending own, History.after_none]
      exact coherent.moveTo present seen
  | returned opening value present woken fetched =>
      exact (coherent.leave opening.party).after rfl rfl
  | aborted opening fault present woken fetched =>
      exact (coherent.leave opening.party).after rfl rfl
  | gaveBack opening error record present failed found held =>
      exact ((coherent.put found _).leave opening.party).after rfl rfl
  | lost opening present unheld =>
      exact (coherent.leave opening.party).after rfl rfl
  | closed record found held => exact (coherent.put found _).after rfl rfl
  | closedTooOften unheld => simpa [note?] using coherent
  | removed record found unheld => exact balanced.vacant (by simp [holders, found, unheld])
  | stayed refused => simpa [note?] using coherent

end Coherent

end Slot

end Record

end Rtos
