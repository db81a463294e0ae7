import Rtos.Proofs.Record.History
import Rtos.Proofs.Record.View

/-!
# Transitions of slots

All that an event can do to a slot, with the condition under which it does it. What is
said about events is proved from these cases, so that the operations are taken apart here
and nowhere else.
-/

namespace Rtos

namespace Record

variable {Party : Type}

namespace Slot

variable [DecidableEq Party]

/-- What an event does to a slot, and the answer. -/
inductive Transition (slot : Slot Party) (name : Bytes) :
    Event Party → Slot Party → Answer → Prop where
  | busy (party : Party) (wanted : ValueType) (patience : Patience)
      (begun : party ∈ slot.parties) :
      Transition slot name (.hold party wanted patience) slot .pending
  | waited (event : Event Party) (party : Party)
      (own : event = .advance party ∨ event = .expire party) :
      Transition slot name event slot .pending
  | published (data : Data) (pending : slot.data = none) :
      Transition slot name (.publish data) (slot.ready data) .done
  | publishedTwice (data : Data) (record : Record) (found : slot.record = some record)
      (published : record.data.isSome) :
      Transition slot name (.publish data) slot (.broken (.publishedTwice name record.holders))
  | took (party : Party) (wanted : ValueType) (patience : Patience)
      (free : party ∉ slot.parties) :
      Transition slot name (.hold party wanted patience) (slot.hold party wanted patience)
        .pending
  | looked (event : Event Party) (opening : Opening Party) (stage : Stage)
      (present : opening ∈ slot.openings)
      (own : event = .advance opening.party ∨ event = .expire opening.party)
      (seen : stage = .ready → slot.isRaised opening.flag)
      (unseen : stage = .parked → slot.isRaised opening.flag = false) :
      Transition slot name event (slot.moveTo opening.party stage) .pending
  | returned (opening : Opening Party) (value : Value) (present : opening ∈ slot.openings)
      (woken : opening.stage = .ready) (fetched : slot.fetch name opening.wanted = .ok value) :
      Transition slot name (.advance opening.party) (slot.leave opening.party) (.opened value)
  | aborted (opening : Opening Party) (fault : Fault) (present : opening ∈ slot.openings)
      (woken : opening.stage = .ready)
      (fetched : slot.fetch name opening.wanted = .error fault) :
      Transition slot name (.advance opening.party) (slot.leave opening.party) (.broken fault)
  | gaveBack (opening : Opening Party) (error : Error) (record : Record)
      (present : opening ∈ slot.openings) (failed : opening.stage = .failed error)
      (found : slot.record = some record) (held : 0 < record.holders) :
      Transition slot name (.advance opening.party)
        ((slot.put { record with holders := record.holders - 1 }).leave opening.party)
        (.failed error)
  | lost (opening : Opening Party) (present : opening ∈ slot.openings)
      (unheld : slot.holders = 0) :
      Transition slot name (.advance opening.party) (slot.leave opening.party)
        (.broken (.closedTooOften name))
  | closed (record : Record) (found : slot.record = some record) (held : 0 < record.holders) :
      Transition slot name .close (slot.put { record with holders := record.holders - 1 }) .done
  | closedTooOften (unheld : slot.holders = 0) :
      Transition slot name .close slot (.broken (.closedTooOften name))
  | removed (record : Record) (found : slot.record = some record)
      (unheld : record.holders = 0) :
      Transition slot name .destroy { slot with record := none } (.removed true)
  | stayed (refused : ∀ record ∈ slot.record, 0 < record.holders) :
      Transition slot name .destroy slot (.removed false)

variable (slot : Slot Party) (name : Bytes) (interval : Duration)

omit [DecidableEq Party] in
theorem publish_of_pending (data : Data) (pending : slot.data = none) :
    slot.publish name data =
      { slot := slot.ready data, answer := .done,
        events := [.created name slot.holders] } := by
  simp [publish, ready, store, pending]

theorem publish_transition (data : Data) :
    slot.Transition name (.publish data) (slot.publish name data).slot
      (slot.publish name data).answer := by
  cases pending : slot.data with
  | none =>
      rw [slot.publish_of_pending name data pending]
      exact .published data pending
  | some earlier =>
      cases found : slot.record with
      | none => simp [Slot.data, found] at pending
      | some record =>
          rw [slot.data_of_record found] at pending
          simp only [publish, slot.ensure_of_record found, pending]
          exact .publishedTwice data record found (by simp [pending])

theorem note?_hold {party : Party} (free : party ∉ slot.parties) (wanted : ValueType)
    (patience : Patience) (answer : Answer) :
    slot.note? (.hold party wanted patience) answer = some (.took party) := by
  simpa [note?, opening?_isSome] using free

theorem note?_busy {party : Party} (begun : party ∈ slot.parties) (wanted : ValueType)
    (patience : Patience) (answer : Answer) :
    slot.note? (.hold party wanted patience) answer = none := by
  simpa [note?, opening?_isSome] using begun

theorem note?_pending {event : Event Party} {party : Party}
    (own : event = .advance party ∨ event = .expire party) :
    slot.note? event .pending = none := by
  rcases own with rfl | rfl <;> rfl

theorem hold_transition (party : Party) (wanted : ValueType) (patience : Patience) :
    slot.Transition name (.hold party wanted patience)
      (slot.step name interval (.hold party wanted patience)).slot
      (slot.step name interval (.hold party wanted patience)).answer := by
  simp only [step]
  split
  · rename_i busy
    exact .busy party wanted patience ((slot.opening?_isSome party).mp busy)
  · rename_i free
    simp only [opening?_isSome] at free
    exact .took party wanted patience free

theorem look_transition {event : Event Party} {opening : Opening Party}
    (present : opening ∈ slot.openings)
    (own : event = .advance opening.party ∨ event = .expire opening.party) (expired : Bool) :
    slot.Transition name event (slot.look name interval opening expired).slot
      (slot.look name interval opening expired).answer := by
  unfold look
  split
  · rename_i raised
    exact .looked event opening .ready present own (fun _ => raised) nofun
  · rename_i low
    split
    · split
      · exact .looked event opening .looking present own nofun nofun
      · exact .looked event opening _ present own nofun nofun
    · exact .looked event opening .parked present own nofun fun _ => eq_false_of_ne_true low

theorem conclude_transition {opening : Opening Party} (present : opening ∈ slot.openings)
    (woken : opening.stage = .ready) :
    slot.Transition name (.advance opening.party) (slot.conclude name opening).slot
      (slot.conclude name opening).answer := by
  unfold conclude
  cases fetched : slot.fetch name opening.wanted with
  | ok value => exact .returned opening value present woken fetched
  | error fault => exact .aborted opening fault present woken fetched

omit [DecidableEq Party] in
theorem giveBack_of_record {record : Record} (found : slot.record = some record)
    (held : 0 < record.holders) :
    slot.giveBack name = .ok (slot.put { record with holders := record.holders - 1 }) := by
  simp [giveBack, found, Nat.ne_of_gt held]

omit [DecidableEq Party] in
theorem giveBack_of_unheld (unheld : slot.holders = 0) :
    slot.giveBack name = .error (.closedTooOften name) := by
  unfold giveBack
  split
  · rfl
  · rename_i record found
    simp_all [holders]

theorem withdraw_transition {opening : Opening Party} {error : Error}
    (present : opening ∈ slot.openings) (failed : opening.stage = .failed error) :
    slot.Transition name (.advance opening.party) (slot.withdraw name opening error).slot
      (slot.withdraw name opening error).answer := by
  unfold withdraw
  rcases slot.held_or_unheld with ⟨record, found, held⟩ | unheld
  · rw [slot.giveBack_of_record name found held]
    exact .gaveBack opening error record present failed found held
  · rw [slot.giveBack_of_unheld name unheld]
    exact .lost opening present unheld

theorem advance_transition (party : Party) :
    slot.Transition name (.advance party) (slot.advance name interval party).slot
      (slot.advance name interval party).answer := by
  unfold advance
  split
  · exact .waited _ party (.inl rfl)
  · rename_i opening found
    rcases mem_of_opening? found with ⟨present, rfl⟩
    split
    · exact slot.look_transition name interval present (.inl rfl) false
    · exact .waited _ _ (.inl rfl)
    · rename_i woken
      exact slot.conclude_transition name present woken
    · rename_i error failed
      exact slot.withdraw_transition name present failed

theorem expire_transition (party : Party) :
    slot.Transition name (.expire party) (slot.expire name interval party).slot
      (slot.expire name interval party).answer := by
  unfold expire
  split
  · exact .waited _ party (.inr rfl)
  · rename_i opening found
    rcases mem_of_opening? found with ⟨present, rfl⟩
    split
    · exact slot.look_transition name interval present (.inr rfl) true
    · exact .waited _ _ (.inr rfl)

theorem close_transition :
    slot.Transition name .close (slot.close name).slot (slot.close name).answer := by
  unfold close
  rcases slot.held_or_unheld with ⟨record, found, held⟩ | unheld
  · rw [slot.giveBack_of_record name found held]
    exact .closed record found held
  · rw [slot.giveBack_of_unheld name unheld]
    exact .closedTooOften unheld

theorem destroy_transition :
    slot.Transition name .destroy (slot.destroy name).slot (slot.destroy name).answer := by
  unfold destroy
  split
  · rename_i vacant
    exact .stayed (by simp [vacant])
  · rename_i record found
    split
    · rename_i unheld
      exact .removed record found unheld
    · rename_i held
      exact .stayed (by simpa [found] using Nat.pos_of_ne_zero held)

/-- An event does to a slot one of the things that the cases tell. -/
theorem step_transition (event : Event Party) :
    slot.Transition name event (slot.step name interval event).slot
      (slot.step name interval event).answer := by
  cases event with
  | publish data => exact slot.publish_transition name data
  | hold party wanted patience => exact slot.hold_transition name interval party wanted patience
  | advance party => exact slot.advance_transition name interval party
  | expire party => exact slot.expire_transition name interval party
  | close => exact slot.close_transition name
  | destroy => exact slot.destroy_transition name

end Slot

end Record

end Rtos
