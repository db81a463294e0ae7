import Rtos.Proofs.Record.Coherence
import Rtos.Proofs.Record.Interleaving

/-!
# Holder accounting

What the users of a registry rely on, whatever the order in which its calls take their
steps: the number of holders of a record is the number of opens that still hold it, its
flag is raised when it has data, what is held is neither removed nor replaced, an open
returns what was published while it held the record, and one that fails leaves no hold
behind.
-/

namespace Rtos

namespace Record

namespace Slot

variable {Party : Type}

/-- The record of a slot is still there in another one, with its flag and any data. -/
def Keeps (slot next : Slot Party) : Prop :=
  ∀ number data, slot.content = some (number, data) →
    ∃ later, next.content = some (number, later) ∧ (data.isSome → later = data)

theorem Keeps.of_content {slot next : Slot Party} (same : next.content = slot.content) :
    slot.Keeps next := by
  intro number data found
  exact ⟨data, same.trans found, fun _ => rfl⟩

theorem content_ensure_of_content {slot : Slot Party} {number : Nat} {data : Option Data}
    (found : slot.content = some (number, data)) :
    slot.ensure.1.content = some (number, data) ∧ slot.ensure.2.flag = number := by
  cases present : slot.record with
  | none => simp [content, present] at found
  | some record =>
      rw [slot.content_of_record present, Option.some.injEq, Prod.mk.injEq] at found
      rw [slot.ensure_of_record present, slot.content_of_record present]
      simp [found]

/-- What a slot and its history account for, while a create is about to raise the flag. -/
structure Accounted (slot : Slot Party) (history : History Party) (creating : Option Data) :
    Prop where
  /-- The holders are the opens that have taken their hold, but for those that have given
  it back and for those that were closed. -/
  holders : slot.holders + history.countP Note.isGaveBack + history.countP Note.isClosed =
    history.countP Note.isTook
  /-- The flag is raised if there is data, once the create that stored it has raised it. -/
  ready : ∀ record, slot.record = some record →
    (slot.isRaised record.flag ↔ record.data.isSome ∧ creating = none)
  /-- The data is what was published in the lifetime of the record, or is about to be. -/
  published : history.published ++ creating.toList = slot.data.toList

theorem Coherent.accounts {slot : Slot Party} {history : History Party}
    (coherent : slot.Coherent history) (balanced : slot.Balanced history) :
    slot.Accounted history none where
  holders := balanced.holds
  ready record found := by simp [coherent.raised (slot.content_of_record found)]
  published := by simpa using coherent.published

theorem Coherent.accounts_store {slot : Slot Party} {history : History Party}
    (coherent : slot.Coherent history) (balanced : slot.Balanced history) (data : Data)
    (pending : slot.data = none) : (slot.store data).Accounted history (some data) where
  holders := by
    rw [holders_store]
    exact balanced.holds
  ready record found := by
    cases found
    have lowered : slot.ensure.1.isRaised slot.ensure.2.flag = slot.data.isSome :=
      (coherent.ensure balanced).raised slot.content_ensure
    rw [pending] at lowered
    have low : (slot.store data).isRaised slot.ensure.2.flag = false := lowered
    simpa using low
  published := by
    rw [coherent.published, pending]
    rfl

variable [DecidableEq Party]

/-- What an event that leads from a slot to another with an answer keeps to. -/
structure Faithful (slot : Slot Party) (history : History Party) (name : Bytes)
    (event : Event Party) (next : Slot Party) (answer : Answer) : Prop where
  /-- A record stays, and so does its data, unless it is destroyed while nobody holds it. -/
  kept : slot.Keeps next ∨ event = .destroy ∧ slot.holders = 0
  /-- A destroy tells whether there was a record that nobody held. -/
  destroyed : event = .destroy → ∃ decision, answer = .removed decision ∧
    (decision = true ↔ ∃ record, slot.record = some record ∧ record.holders = 0)
  /-- An open that begins adds one holder. -/
  took : ∀ party wanted patience, event = .hold party wanted patience →
    party ∉ slot.parties → next.holders = slot.holders + 1
  /-- An open that returns has the one value published in the lifetime it took its hold in. -/
  returned : ∀ value, answer = .opened value → ∃ party data, event = .advance party ∧
    .took party ∈ history.lifetime ∧ history.published = [data] ∧ data.value = value
  /-- An open that fails takes back the one holder it added, and changes nothing else. -/
  failed : ∀ error, answer = .failed error → ∃ party record, event = .advance party ∧
    .took party ∈ history.lifetime ∧ slot.record = some record ∧ 0 < record.holders ∧
    next = (slot.put { record with holders := record.holders - 1 }).leave party
  /-- Only publishing twice and opening as another type are mistakes. -/
  faults : ∀ fault, answer = .broken fault →
    (∃ data, event = .publish data ∧ fault = .publishedTwice name slot.holders) ∨
    (∃ party wanted, event = .advance party ∧ fault = .wrongType name wanted)

namespace Transition

variable {slot next : Slot Party} {history : History Party} {name : Bytes}
  {event : Event Party} {answer : Answer} (transition : slot.Transition name event next answer)

include transition

theorem kept : slot.Keeps next ∨ event = .destroy ∧ slot.holders = 0 := by
  cases transition with
  | published data pending =>
      refine .inl fun number earlier found => ?_
      have made := content_ensure_of_content found
      rw [data_eq_content, found] at pending
      refine ⟨some data, by simp [made.2], ?_⟩
      simp [show earlier = none from pending]
  | took party wanted patience free =>
      refine .inl fun number earlier found => ?_
      exact ⟨earlier, by simp [content_ensure_of_content found], fun _ => rfl⟩
  | gaveBack opening error record present failed found held =>
      exact .inl (.of_content (by simp [content, leave, put, found]))
  | closed record found held => exact .inl (.of_content (by simp [content, put, found]))
  | removed record found unheld => exact .inr ⟨rfl, by simp [holders, found, unheld]⟩
  | _ => exact .inl (.of_content rfl)

theorem destroyed (destroy : event = .destroy) : ∃ decision, answer = .removed decision ∧
    (decision = true ↔ ∃ record, slot.record = some record ∧ record.holders = 0) := by
  cases transition with
  | waited event party own => simp [destroy] at own
  | removed record found unheld => exact ⟨true, rfl, by simp [found, unheld]⟩
  | stayed refused =>
      refine ⟨false, rfl, by simp, ?_⟩
      rintro ⟨record, found, unheld⟩
      have held := refused record found
      omega
  | looked event opening stage present own seen => simp [destroy] at own
  | _ => contradiction

theorem added {party : Party} {wanted : ValueType} {patience : Patience}
    (hold : event = .hold party wanted patience) (free : party ∉ slot.parties) :
    next.holders = slot.holders + 1 := by
  cases transition with
  | busy other wanted patience begun =>
      cases hold
      exact absurd begun free
  | waited event party own => simp [hold] at own
  | took party wanted patience free => simp
  | looked event opening stage present own seen => simp [hold] at own
  | _ => contradiction

/-- The data of a record is what was published in its lifetime, and nothing else was. -/
theorem opened (coherent : slot.Coherent history) {value : Value}
    (opened : answer = .opened value) : ∃ party data, event = .advance party ∧
      .took party ∈ history.lifetime ∧ history.published = [data] ∧ data.value = value := by
  cases transition with
  | returned opening fetchedValue present woken fetched =>
      cases opened
      rcases slot.fetch_ok fetched with ⟨data, found, _, value⟩
      refine ⟨opening.party, data, rfl, (coherent.placed opening present).begun, ?_, value⟩
      rw [coherent.published, found]
      rfl
  | _ => contradiction

theorem failed (coherent : slot.Coherent history) {error : Error}
    (failed : answer = .failed error) : ∃ party record, event = .advance party ∧
      .took party ∈ history.lifetime ∧ slot.record = some record ∧ 0 < record.holders ∧
      next = (slot.put { record with holders := record.holders - 1 }).leave party := by
  cases transition with
  | gaveBack opening error record present stage found held =>
      have begun := (coherent.placed opening present).begun
      exact ⟨opening.party, record, rfl, begun, found, held, rfl⟩
  | _ => contradiction

/-- An open in progress finds its hold and its data, and a close that is permitted a holder. -/
theorem faults (balanced : slot.Balanced history) (coherent : slot.Coherent history)
    (permitted : history.Permits event) {fault : Fault} (broken : answer = .broken fault) :
    (∃ data, event = .publish data ∧ fault = .publishedTwice name slot.holders) ∨
      (∃ party wanted, event = .advance party ∧ fault = .wrongType name wanted) := by
  cases transition with
  | publishedTwice data record found published =>
      cases broken
      exact .inl ⟨data, rfl, by rw [slot.holders_of_record found]⟩
  | aborted opening fault present woken fetched =>
      cases broken
      have published := (coherent.placed opening present).woken woken
      exact .inr ⟨opening.party, opening.wanted, rfl, slot.fetch_error published fetched⟩
  | lost opening present unheld =>
      have held := balanced.held_of_present present
      omega
  | closedTooOften unheld =>
      have held := balanced.held_of_permits permitted
      omega
  | _ => contradiction

omit transition in
theorem faithful (balanced : slot.Balanced history) (coherent : slot.Coherent history)
    (permitted : history.Permits event)
    (transition : slot.Transition name event next answer) :
    slot.Faithful history name event next answer where
  kept := transition.kept
  destroyed := transition.destroyed
  took _ _ _ := transition.added
  returned _ := transition.opened coherent
  failed _ := transition.failed coherent
  faults _ := transition.faults balanced coherent permitted

end Transition

/-- A look is faithful, also to a slot with data for which no flag was raised yet. -/
theorem Faithful.of_isLook {slot : Slot Party} {history : History Party} {name : Bytes}
    {event : Event Party} (interval : Duration) (look : slot.isLook event) :
    slot.Faithful history name event (slot.step name interval event).slot
      (slot.step name interval event).answer := by
  rcases slot.step_quiet name interval look with ⟨pending, record⟩
  constructor
  · exact .inl (.of_content (by simp [content, record]))
  · rintro rfl
    simp [isLook] at look
  · rintro party wanted patience rfl
    simp [isLook] at look
  · simp [pending]
  · simp [pending]
  · simp [pending]

end Slot

end Record

namespace Registry

variable {Party : Type} [DecidableEq Party] {registry : Registry Party}
  {histories : Bytes → Record.History Party}

/-- Every slot of a registry that is reached is balanced and coherent. -/
theorem Reached.sound (reached : registry.Reached histories) (name : Bytes) :
    (registry.slot name).Balanced (histories name) ∧
      (registry.slot name).Coherent (histories name) := by
  induction reached with
  | start interval => exact ⟨.start, .start⟩
  | step reached target event permitted ih =>
      rename_i registry histories
      rcases ih with ⟨balanced, coherent⟩
      by_cases same : name = target
      · subst same
        have moved := (registry.slot name).step_transition name registry.interval event
        constructor
        · simpa [note?] using balanced.transition permitted moved
        · simpa [note?] using coherent.transition balanced moved
      · simpa [same] using ⟨balanced, coherent⟩

/--
What every reachable registry accounts for, and how far its next step can go: any
permitted event while no create is about to raise a flag, and a look at any time.
-/
theorem Interleaved.accounted {creation : Option (Bytes × Record.Data)}
    (run : registry.Interleaved creation histories) :
    (∀ name, (registry.slot name).Accounted (histories name) (creating creation name)) ∧
    ∀ name event,
      creation = none ∧ (histories name).Permits event ∨ (registry.slot name).isLook event →
      (registry.slot name).Faithful (histories name) name event
          ((registry.step name event).registry.slot name) (registry.step name event).answer ∧
        ∀ other, other ≠ name →
          (registry.step name event).registry.slot other = registry.slot other := by
  rcases run.exists_reached with ⟨quiet, reached, follows⟩
  constructor
  · intro name
    rcases reached.sound name with ⟨balanced, coherent⟩
    rw [follows.slots, slotDuring]
    split
    · rename_i idle
      rw [idle]
      exact coherent.accounts balanced
    · rename_i data begun
      rw [begun]
      have creates := creation_of_creating begun
      exact coherent.accounts_store balanced data (follows.pending creates)
  · intro name event allowed
    constructor
    · rw [slot_step, if_pos rfl, answer_step]
      rcases allowed with ⟨rfl, permitted⟩ | look
      · rcases reached.sound name with ⟨balanced, coherent⟩
        rw [follows.slots, slotDuring_none]
        have moved := (quiet.slot name).step_transition name registry.interval event
        exact moved.faithful balanced coherent permitted
      · exact .of_isLook _ look
    · intro other differs
      simp [differs]

/--
An open that has looked between the two steps of a create and is woken by the second
returns what was created.
-/
theorem accounted_of_woken :
    ∃ (registry : Registry Nat) (histories : Bytes → Record.History Nat),
      histories [115] = [.took 0, .published ⟨.unit, .unit⟩] ∧
      (registry.slot [115]).holders = 1 ∧
      (registry.step [115] (.advance 0)).answer = .opened .unit ∧
      registry.Interleaved none histories ∧
      (registry.slot [115]).Accounted (histories [115]) none ∧
      (registry.slot [115]).Faithful (histories [115]) [115] (.advance 0)
        ((registry.step [115] (.advance 0)).registry.slot [115])
        (registry.step [115] (.advance 0)).answer := by
  have held := (Interleaved.start ⟨1⟩).step [115] (.hold 0 .unit .unlimited) nofun
  have stored := held.store [115] ⟨.unit, .unit⟩ (by rfl)
  have parked := stored.look [115] (.advance 0) (by rfl)
  have raised := parked.raise _ (by rfl)
  have ready := raised.step [115] (.advance 0) nofun
  have accounted := ready.accounted
  refine ⟨_, _, ?_, ?_, ?_, ready, accounted.1 [115], ?_⟩
  · rfl
  · rfl
  · rfl
  · exact (accounted.2 [115] (.advance 0) (.inl ⟨rfl, nofun⟩)).1

end Registry

end Rtos
