import Rtos.Record.Registry

/-!
# Views of slots

Four things are said of a slot: how many hold its record, what the record consists of
besides, its data, and whose opens are in progress. For each of them there is what the
operations make of it.
-/

namespace Rtos

namespace Record

variable {Party : Type}

@[simp]
theorem Opening.party_wakeFor (number : Nat) (opening : Opening Party) :
    (opening.wakeFor number).party = opening.party := by
  unfold Opening.wakeFor
  split <;> rfl

@[simp]
theorem Opening.flag_wakeFor (number : Nat) (opening : Opening Party) :
    (opening.wakeFor number).flag = opening.flag := by
  unfold Opening.wakeFor
  split <;> rfl

namespace Slot

/-- How many hold the record, none if there is no record. -/
def holders (slot : Slot Party) : Nat :=
  slot.record.elim 0 (·.holders)

/-- The flag and the data of the record: all there is to it but its holders. -/
def content (slot : Slot Party) : Option (Nat × Option Data) :=
  slot.record.map fun record => (record.flag, record.data)

/-- The data of the record, if there is a record and its data was published. -/
def data (slot : Slot Party) : Option Data :=
  slot.record.bind (·.data)

/-- The parties whose opens are in progress. -/
def parties (slot : Slot Party) : List Party :=
  slot.openings.map (·.party)

/-- The slot with data for its record, which is made if there was none. -/
def store (slot : Slot Party) (data : Data) : Slot Party :=
  slot.ensure.1.put { slot.ensure.2 with data := some data }

/-- The slot with data for its record and the flag of the record raised. -/
def ready (slot : Slot Party) (data : Data) : Slot Party :=
  (slot.store data).raise slot.ensure.2.flag

variable (slot : Slot Party)

theorem holders_of_record {record : Record} (found : slot.record = some record) :
    slot.holders = record.holders := by
  simp [holders, found]

theorem content_of_record {record : Record} (found : slot.record = some record) :
    slot.content = some (record.flag, record.data) := by
  simp [content, found]

theorem data_of_record {record : Record} (found : slot.record = some record) :
    slot.data = record.data := by
  simp [data, found]

theorem data_eq_content : slot.data = slot.content.bind (·.2) := by
  unfold data content
  cases slot.record <;> rfl

/-- Either the record of a slot is held, or the slot counts no holders. -/
theorem held_or_unheld :
    (∃ record, slot.record = some record ∧ 0 < record.holders) ∨ slot.holders = 0 := by
  cases found : slot.record with
  | none => exact .inr (by simp [holders, found])
  | some record =>
      rcases Nat.eq_zero_or_pos record.holders with unheld | held
      · exact .inr (by simpa [holders, found] using unheld)
      · exact .inl ⟨record, rfl, held⟩

theorem fetch_ok {name : Bytes} {wanted : ValueType} {value : Value}
    (fetched : slot.fetch name wanted = .ok value) :
    ∃ data, slot.data = some data ∧ data.type = wanted ∧ data.value = value := by
  unfold fetch at fetched
  split at fetched
  · contradiction
  · rename_i data found
    split at fetched
    · rename_i same
      exact ⟨data, found, same, Except.ok.inj fetched⟩
    · contradiction

theorem fetch_error {name : Bytes} {wanted : ValueType} {fault : Fault}
    (published : slot.data.isSome) (fetched : slot.fetch name wanted = .error fault) :
    fault = .wrongType name wanted := by
  unfold fetch at fetched
  split at fetched
  · rename_i missing
    simp [data, missing] at published
  · split at fetched
    · contradiction
    · exact (Except.error.inj fetched).symm

/-! ### Making sure of a record -/

theorem ensure_of_record {record : Record} (found : slot.record = some record) :
    slot.ensure = (slot, record) := by
  simp [ensure, found]

theorem ensure_record : slot.ensure.1.record = some slot.ensure.2 := by
  unfold ensure
  split
  · assumption
  · rfl

@[simp]
theorem holders_ensure : slot.ensure.2.holders = slot.holders := by
  unfold ensure holders
  split
  · simp [*]
  · simp [*]

@[simp]
theorem data_ensure : slot.ensure.2.data = slot.data := by
  unfold ensure data
  split
  · simp [*]
  · simp [*]

theorem content_ensure : slot.ensure.1.content = some (slot.ensure.2.flag, slot.data) := by
  rw [slot.ensure.1.content_of_record slot.ensure_record, data_ensure]

@[simp]
theorem openings_ensure : slot.ensure.1.openings = slot.openings := by
  unfold ensure
  split <;> rfl

/-! ### What the operations make of the views -/

@[simp]
theorem holders_put (record : Record) : (slot.put record).holders = record.holders := rfl

@[simp]
theorem parties_put (record : Record) : (slot.put record).parties = slot.parties := rfl

@[simp]
theorem parties_vacant : ({ slot with record := none } : Slot Party).parties = slot.parties := rfl

@[simp]
theorem holders_store (data : Data) : (slot.store data).holders = slot.holders :=
  slot.holders_ensure

@[simp]
theorem holders_ready (data : Data) : (slot.ready data).holders = slot.holders :=
  slot.holders_ensure

@[simp]
theorem content_ready (data : Data) :
    (slot.ready data).content = some (slot.ensure.2.flag, some data) := rfl

@[simp]
theorem data_ready (data : Data) : (slot.ready data).data = some data := rfl

@[simp]
theorem parties_ready (data : Data) : (slot.ready data).parties = slot.parties := by
  simp [ready, store, raise, put, parties, Function.comp_def]

@[simp]
theorem holders_hold (party : Party) (wanted : ValueType) (patience : Patience) :
    (slot.hold party wanted patience).holders = slot.holders + 1 := by
  rw [← slot.holders_ensure]
  rfl

@[simp]
theorem content_hold (party : Party) (wanted : ValueType) (patience : Patience) :
    (slot.hold party wanted patience).content = slot.ensure.1.content := by
  rw [content_ensure, ← slot.data_ensure]
  rfl

@[simp]
theorem parties_hold (party : Party) (wanted : ValueType) (patience : Patience) :
    (slot.hold party wanted patience).parties = slot.parties ++ [party] := by
  simp [hold, parties]

variable [DecidableEq Party]

@[simp]
theorem holders_moveTo (party : Party) (stage : Stage) :
    (slot.moveTo party stage).holders = slot.holders := rfl

@[simp]
theorem parties_moveTo (party : Party) (stage : Stage) :
    (slot.moveTo party stage).parties = slot.parties := by
  simp only [parties, moveTo, List.map_map]
  apply List.map_congr_left
  intro opening _
  simp only [Function.comp_apply]
  split <;> rfl

@[simp]
theorem holders_leave (party : Party) : (slot.leave party).holders = slot.holders := rfl

@[simp]
theorem parties_leave (party : Party) :
    (slot.leave party).parties = slot.parties.filter (· != party) := by
  simp only [parties, leave, ne_eq, decide_not, List.filter_map]
  rfl

theorem leave_put (party : Party) (record : Record) :
    (slot.put record).leave party = (slot.leave party).put record := rfl

theorem mem_of_opening? {slot : Slot Party} {party : Party} {opening : Opening Party}
    (found : slot.opening? party = some opening) :
    opening ∈ slot.openings ∧ opening.party = party := by
  refine ⟨List.mem_of_find?_eq_some found, ?_⟩
  simpa using List.find?_some found

theorem opening?_isSome (party : Party) :
    (slot.opening? party).isSome ↔ party ∈ slot.parties := by
  simp [opening?, parties]

end Slot

end Record

end Rtos
