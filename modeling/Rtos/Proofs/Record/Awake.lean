import Mathlib.Data.List.Nodup
import Rtos.Proofs.Record.Accounting

/-!
# Opens that are awake

An open is parked only as long as the flag that it waits for is not raised: it parks after a
look that has found the flag low, and the raise wakes it. The flag of a record with data is
raised, so nobody is parked at such a record. Whatever else happens, the data stays until
the record is removed, which it is not while an open is in progress, and the next two steps
of the open are a look that sees the flag raised and the fetch of the data.
-/

namespace Rtos

namespace Record

variable {Party : Type}

/-- An open that neither waits nor has given up. -/
def Opening.Awake (opening : Opening Party) : Prop :=
  opening.stage = .looking ∨ opening.stage = .ready

/-- What an open answers that finds the data. -/
def Data.answer (data : Data) (name : Bytes) (wanted : ValueType) : Slot.Answer :=
  if data.type = wanted then .opened data.value else .broken (.wrongType name wanted)

namespace Slot

/-- No open is parked at a flag that is raised. -/
def Vigilant (slot : Slot Party) : Prop :=
  ∀ opening ∈ slot.openings, opening.stage = .parked → slot.isRaised opening.flag = false

section Operations

variable (slot : Slot Party)

theorem isRaised_ensure (number : Nat) :
    slot.ensure.1.isRaised number = slot.isRaised number :=
  slot.isRaised_store ⟨.unit, .unit⟩ number

theorem isRaised_raise_of_ne {number other : Nat} (differs : other ≠ number) :
    (slot.raise number).isRaised other = slot.isRaised other := by
  simp [isRaised, flag, raise, Ne.symm differs]

theorem isRaised_hold (party : Party) (wanted : ValueType) (patience : Patience)
    (number : Nat) : (slot.hold party wanted patience).isRaised number = slot.isRaised number :=
  slot.isRaised_ensure number

theorem openings_hold (party : Party) (wanted : ValueType) (patience : Patience) :
    (slot.hold party wanted patience).openings =
      slot.openings ++ [{ party, wanted, flag := slot.ensure.2.flag, patience }] := by
  simp [hold]

end Operations

namespace Vigilant

variable {slot : Slot Party} (vigilant : slot.Vigilant)

omit vigilant in
theorem start : Vigilant ({} : Slot Party) := by
  simp [Vigilant]

include vigilant

theorem of_openings {next : Slot Party} (flags : next.flags = slot.flags)
    (openings : ∀ opening ∈ next.openings, opening ∈ slot.openings) : next.Vigilant := by
  intro opening present parked
  simpa only [isRaised, flag, flags] using vigilant opening (openings opening present) parked

theorem raise (number : Nat) : (slot.raise number).Vigilant := by
  intro opening present parked
  simp only [Slot.raise, List.mem_map] at present
  rcases present with ⟨earlier, before, rfl⟩
  unfold Opening.wakeFor at parked ⊢
  split at parked
  · contradiction
  · -- The raise wakes everybody at its flag, so who is still parked waits for another one.
    rename_i asleep
    rw [if_neg asleep]
    have elsewhere : earlier.flag ≠ number := fun own => asleep ⟨parked, own⟩
    rw [slot.isRaised_raise_of_ne elsewhere]
    exact vigilant earlier before parked

theorem ready (data : Data) : (slot.ready data).Vigilant := by
  apply raise
  intro opening present parked
  rw [openings_store] at present
  rw [isRaised_store]
  exact vigilant opening present parked

theorem hold (party : Party) (wanted : ValueType) (patience : Patience) :
    (slot.hold party wanted patience).Vigilant := by
  intro opening present parked
  rw [openings_hold, List.mem_append, List.mem_singleton] at present
  rw [isRaised_hold]
  rcases present with before | rfl
  · exact vigilant opening before parked
  · contradiction

variable [DecidableEq Party]

theorem moveTo {opening : Opening Party} {stage : Stage} (distinct : slot.parties.Nodup)
    (present : opening ∈ slot.openings)
    (unseen : stage = .parked → slot.isRaised opening.flag = false) :
    (slot.moveTo opening.party stage).Vigilant := by
  intro moved member parked
  simp only [Slot.moveTo, List.mem_map] at member
  rcases member with ⟨earlier, before, rfl⟩
  split at parked
  · rename_i own
    have same : earlier = opening := List.inj_on_of_nodup_map distinct before present own
    rw [if_pos own]
    exact same ▸ unseen parked
  · rename_i other
    rw [if_neg other]
    exact vigilant earlier before parked

theorem leave (party : Party) : (slot.leave party).Vigilant :=
  vigilant.of_openings rfl fun _ present => List.mem_of_mem_filter present

/-- Every transition leaves a slot vigilant in which nobody has two opens in progress. -/
theorem transition (distinct : slot.parties.Nodup) {name : Bytes} {event : Event Party}
    {next : Slot Party} {answer : Answer}
    (transition : slot.Transition name event next answer) : next.Vigilant := by
  cases transition with
  | published data pending => exact vigilant.ready data
  | took party wanted patience free => exact vigilant.hold party wanted patience
  | looked event opening stage present own seen unseen =>
      exact vigilant.moveTo distinct present unseen
  | returned opening value present woken fetched => exact vigilant.leave opening.party
  | aborted opening fault present woken fetched => exact vigilant.leave opening.party
  | gaveBack opening error record present failed found held =>
      have held : (slot.put { record with holders := record.holders - 1 }).Vigilant :=
        vigilant.of_openings rfl fun _ => id
      exact held.leave opening.party
  | lost opening present unheld => exact vigilant.leave opening.party
  | closed record found held => exact vigilant.of_openings rfl fun _ => id
  | removed record found unheld => exact vigilant.of_openings rfl fun _ => id
  | _ => exact vigilant

end Vigilant

/-! ## Slots with data -/

section Published

variable {slot : Slot Party} {history : History Party} {data : Data}

theorem Coherent.isRaised_of_data (coherent : slot.Coherent history)
    (found : slot.data = some data) {opening : Opening Party}
    (present : opening ∈ slot.openings) : slot.isRaised opening.flag = true := by
  rcases (coherent.placed opening present).flag with ⟨stored, content⟩
  rw [data_eq_content, content] at found
  rw [coherent.raised content, show stored = some data from found]
  rfl

/-- Nobody is parked at a record with data. -/
theorem Coherent.notParked (coherent : slot.Coherent history) (vigilant : slot.Vigilant)
    (found : slot.data = some data) {opening : Opening Party}
    (present : opening ∈ slot.openings) : opening.stage ≠ .parked := by
  intro parked
  have low := vigilant opening present parked
  rw [coherent.isRaised_of_data found present] at low
  contradiction

variable [DecidableEq Party] {next : Slot Party} {name : Bytes} {event : Event Party}
  {answer : Answer}

/-- Data stays until the record is removed. -/
theorem Transition.data_stays (transition : slot.Transition name event next answer)
    (found : slot.data = some data) : next.data = some data ∨
      event = .destroy ∧ answer = .removed true := by
  cases transition with
  | published later pending => simp [found] at pending
  | took party wanted patience free =>
      left
      rw [data_eq_content, content_hold, content_ensure, ← found]
      rfl
  | gaveBack opening error record present failed kept held =>
      left
      rw [slot.data_of_record kept] at found
      exact found
  | closed record kept held =>
      left
      rw [slot.data_of_record kept] at found
      exact found
  | removed record found unheld => exact .inr ⟨rfl, rfl⟩
  | _ => exact .inl found

theorem Transition.publishes (transition : slot.Transition name (.publish data) next answer)
    (done : answer = .done) : next.data = some data := by
  cases transition with
  | published later pending => rfl
  | _ => contradiction

/-- A record at which an open is in progress is not removed. -/
theorem Transition.not_removed (transition : slot.Transition name event next answer)
    (balanced : slot.Balanced history) {opening : Opening Party}
    (present : opening ∈ slot.openings) : answer ≠ .removed true := by
  have held := balanced.held_of_present present
  cases transition with
  | removed record found unheld =>
      rw [slot.holders_of_record found] at held
      omega
  | _ => simp

omit history data next name event answer in
theorem mem_leave {opening : Opening Party} {party : Party} (present : opening ∈ slot.openings)
    (differs : party ≠ opening.party) : opening ∈ (slot.leave party).openings :=
  List.mem_filter.mpr ⟨present, by simpa using Ne.symm differs⟩

/-- An open in progress at a record with data stays as it is in what others do. -/
theorem Transition.stays (transition : slot.Transition name event next answer)
    (found : slot.data = some data) {opening : Opening Party}
    (present : opening ∈ slot.openings) (other : event ≠ .advance opening.party)
    (timeless : event ≠ .expire opening.party) : opening ∈ next.openings := by
  have own {left : Opening Party} (differs : Event.advance left.party ≠ .advance opening.party) :
      left.party ≠ opening.party := fun same => differs (congrArg Event.advance same)
  cases transition with
  | published later pending => simp [found] at pending
  | took party wanted patience free =>
      rw [openings_hold]
      exact List.mem_append_left _ present
  | looked event moved stage member own seen unseen =>
      have differs : opening.party ≠ moved.party := by
        intro same
        rw [same] at other timeless
        exact own.elim other timeless
      exact List.mem_map.mpr ⟨opening, present, if_neg differs⟩
  | returned left value member woken fetched => exact mem_leave present (own other)
  | aborted left fault member woken fetched => exact mem_leave present (own other)
  | gaveBack left error record member failed kept held => exact mem_leave present (own other)
  | lost left member unheld => exact mem_leave present (own other)
  | _ => exact present

end Published

/-! ## The steps of an open that is awake -/

section Steps

variable [DecidableEq Party] {slot : Slot Party} {opening : Opening Party}

theorem step_hold {party : Party} (free : party ∉ slot.parties) (name : Bytes)
    (interval : Duration) (wanted : ValueType) (patience : Patience) :
    (slot.step name interval (.hold party wanted patience)).slot =
      slot.hold party wanted patience := by
  rw [← slot.opening?_isSome] at free
  simp only [step, if_neg free]

theorem opening?_of_mem (distinct : slot.parties.Nodup) (present : opening ∈ slot.openings) :
    slot.opening? opening.party = some opening := by
  have begun : (slot.opening? opening.party).isSome :=
    (slot.opening?_isSome opening.party).mpr (List.mem_map_of_mem present)
  rcases Option.isSome_iff_exists.mp begun with ⟨found, first⟩
  rcases mem_of_opening? first with ⟨member, own⟩
  rw [first, List.inj_on_of_nodup_map distinct member present own]

variable (name : Bytes) (interval : Duration)

theorem advance_of_looking (found : slot.opening? opening.party = some opening)
    (looking : opening.stage = .looking) (raised : slot.isRaised opening.flag = true) :
    slot.advance name interval opening.party =
      { slot := slot.moveTo opening.party .ready, answer := .pending } := by
  simp [advance, found, looking, look, raised]

/-- An open that has seen the flag raised ends with what the data makes of it. -/
theorem answer_advance_of_ready (found : slot.opening? opening.party = some opening)
    (ready : opening.stage = .ready) {data : Data} (stored : slot.data = some data) :
    (slot.advance name interval opening.party).answer = data.answer name opening.wanted := by
  have fetched : slot.record.bind (·.data) = some data := stored
  by_cases same : data.type = opening.wanted <;>
    simp [advance, found, ready, conclude, fetch, fetched, Data.answer, same]

theorem expire_of_awake (found : slot.opening? opening.party = some opening)
    (awake : opening.Awake) :
    slot.expire name interval opening.party = { slot, answer := .pending } := by
  rcases awake with looking | ready
  · simp [expire, found, looking]
  · simp [expire, found, ready]

end Steps

end Slot

end Record

theorem Registry.Reached.vigilant {Party : Type} [DecidableEq Party] {registry : Registry Party}
    {histories : Bytes → Record.History Party} (reached : registry.Reached histories)
    (name : Bytes) : (registry.slot name).Vigilant := by
  induction reached with
  | start interval => exact .start
  | step reached target event permitted ih =>
      rename_i registry histories
      by_cases same : name = target
      · subst same
        have moved := (registry.slot name).step_transition name registry.interval event
        simpa using ih.transition (reached.sound name).1.distinct moved
      · simpa [same] using ih

end Rtos
