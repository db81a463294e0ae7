import Rtos.Proofs.Record.Transition

/-!
# Creates in two steps

A create holds the lock of its registry while it stores the data and then raises the flag
of the record. The lock keeps every other operation out, but an open looks at its flag
without it, and so may look between the two. It finds the flag as it was before the
create. A look in between is therefore as good as a look before, and what happens in runs
in which creates take two steps happens in runs in which they take one.
-/

namespace Rtos

namespace Record

namespace Slot

variable {Party : Type} [DecidableEq Party]

/-- Whether in an event an open looks at its flag, which takes no lock of the registry. -/
def isLook (slot : Slot Party) : Event Party → Bool
  | .advance party => (slot.opening? party).any (·.stage = .looking)
  | .expire _ => true
  | _ => false

variable (slot : Slot Party) (data : Data)

omit [DecidableEq Party] in
/-- Stored data does not show in the flags; a flag that is made is not raised. -/
theorem flag_store (number : Nat) : (slot.store data).flag number = slot.flag number := by
  unfold store ensure
  split
  · rfl
  · rename_i vacant
    simp only [flag, put, List.getElem?_append]
    split
    · rfl
    · rename_i outside
      cases number - slot.flags.length with
      | zero => simp [List.getElem?_eq_none (Nat.le_of_not_lt outside)]
      | succ excess => simp [List.getElem?_eq_none (Nat.le_of_not_lt outside)]

omit [DecidableEq Party] in
theorem isRaised_store (number : Nat) :
    (slot.store data).isRaised number = slot.isRaised number := by
  simp only [isRaised, flag_store]

omit [DecidableEq Party] in
@[simp]
theorem openings_store : (slot.store data).openings = slot.openings :=
  slot.openings_ensure

theorem opening?_store (party : Party) :
    (slot.store data).opening? party = slot.opening? party := by
  simp [opening?]

theorem moveTo_store (party : Party) (stage : Stage) :
    (slot.store data).moveTo party stage = (slot.moveTo party stage).store data := by
  cases found : slot.record <;> simp [store, ensure, moveTo, put, found]

theorem isLook_store (event : Event Party) :
    (slot.store data).isLook event = slot.isLook event := by
  cases event <;> simp [isLook, opening?_store]

omit data in
theorem permits_of_isLook {slot : Slot Party} {event : Event Party} (look : slot.isLook event)
    (history : History Party) : history.Permits event := by
  rintro rfl
  simp [isLook] at look

variable (name : Bytes) (interval : Duration)

theorem look_store (opening : Opening Party) (expired : Bool) :
    (slot.store data).look name interval opening expired =
      { slot.look name interval opening expired with
        slot := (slot.look name interval opening expired).slot.store data } := by
  simp only [look, isRaised_store, moveTo_store]
  split
  · rfl
  · split
    · split <;> rfl
    · rfl

theorem look_quiet (opening : Opening Party) (expired : Bool) :
    (slot.look name interval opening expired).answer = .pending ∧
      (slot.look name interval opening expired).slot.record = slot.record := by
  unfold look
  split
  · exact ⟨rfl, rfl⟩
  · split
    · split <;> exact ⟨rfl, rfl⟩
    · exact ⟨rfl, rfl⟩

/-- What an open looks for depends on the opens in progress, not on the record. -/
theorem step_of_isLook {event : Event Party} (look : slot.isLook event) :
    ∃ found : Option (Opening Party × Bool), ∀ other : Slot Party,
      other.openings = slot.openings → other.step name interval event =
        match found with
        | none => { slot := other, answer := .pending }
        | some (opening, expired) => other.look name interval opening expired := by
  have there {other : Slot Party} (same : other.openings = slot.openings) (party : Party) :
      other.opening? party = slot.opening? party := by
    simp only [opening?, same]
  cases event with
  | advance party =>
      cases found : slot.opening? party with
      | none => simp [isLook, found] at look
      | some opening =>
          have looking : opening.stage = .looking := by simpa [isLook, found] using look
          refine ⟨some (opening, false), ?_⟩
          intro other same
          simp only [step, advance, there same, found, looking]
  | expire party =>
      cases found : slot.opening? party with
      | none =>
          refine ⟨none, ?_⟩
          intro other same
          simp only [step, expire, there same, found]
      | some opening =>
          by_cases waits : opening.stage = .parked ∧ !(opening.timeout interval).isForever
          · refine ⟨some (opening, true), ?_⟩
            intro other same
            simp only [step, expire, there same, found, if_pos waits]
          · refine ⟨none, ?_⟩
            intro other same
            simp only [step, expire, there same, found, if_neg waits]
  | publish later => simp [isLook] at look
  | hold party wanted patience => simp [isLook] at look
  | close => simp [isLook] at look
  | destroy => simp [isLook] at look

theorem step_store {event : Event Party} (look : slot.isLook event) :
    (slot.store data).step name interval event =
      { slot.step name interval event with
        slot := (slot.step name interval event).slot.store data } := by
  rcases slot.step_of_isLook name interval look with ⟨found, steps⟩
  rw [steps _ (slot.openings_store data), steps _ rfl]
  rcases found with _ | ⟨opening, expired⟩
  · rfl
  · exact slot.look_store data name interval opening expired

theorem step_quiet {event : Event Party} (look : slot.isLook event) :
    (slot.step name interval event).answer = .pending ∧
      (slot.step name interval event).slot.record = slot.record := by
  rcases slot.step_of_isLook name interval look with ⟨found, steps⟩
  rw [steps _ rfl]
  rcases found with _ | ⟨opening, expired⟩
  · exact ⟨rfl, rfl⟩
  · exact slot.look_quiet name interval opening expired

end Slot

end Record

namespace Registry

variable {Party : Type} [DecidableEq Party]

/--
The registries that events can lead to when a create takes two steps. While one is about
to raise the flag of a name for some data, no other event but a look can happen.
-/
inductive Interleaved : Registry Party → Option (Bytes × Record.Data) →
    (Bytes → Record.History Party) → Prop where
  | start (interval : Duration) : Interleaved { interval } none fun _ => []
  | step {registry : Registry Party} {histories : Bytes → Record.History Party}
      (run : Interleaved registry none histories) (name : Bytes)
      (event : Record.Slot.Event Party) (permitted : (histories name).Permits event) :
      Interleaved (registry.step name event).registry none
        (Function.update histories name
          ((histories name).after (registry.note? name event)))
  | store {registry : Registry Party} {histories : Bytes → Record.History Party}
      (run : Interleaved registry none histories) (name : Bytes) (data : Record.Data)
      (pending : (registry.slot name).data = none) :
      Interleaved (registry.put name ((registry.slot name).store data)) (some (name, data))
        histories
  | look {registry : Registry Party} {creation : Bytes × Record.Data}
      {histories : Bytes → Record.History Party}
      (run : Interleaved registry (some creation) histories) (name : Bytes)
      (event : Record.Slot.Event Party) (look : (registry.slot name).isLook event) :
      Interleaved (registry.step name event).registry (some creation) histories
  | raise {registry : Registry Party} {name : Bytes} {data : Record.Data}
      {histories : Bytes → Record.History Party}
      (run : Interleaved registry (some (name, data)) histories) (record : Record)
      (found : (registry.slot name).record = some record) :
      Interleaved (registry.put name ((registry.slot name).raise record.flag)) none
        (Function.update histories name
          ((histories name).after (some (.published data))))

/-- The data for which a create is about to raise the flag of a name. -/
def creating (creation : Option (Bytes × Record.Data)) (name : Bytes) : Option Record.Data :=
  creation.bind fun (creator, data) => if name = creator then some data else none

theorem creation_of_creating {creation : Option (Bytes × Record.Data)} {name : Bytes}
    {data : Record.Data} (begun : creating creation name = some data) :
    creation = some (name, data) := by
  rcases creation with _ | ⟨creator, stored⟩
  · simp [creating] at begun
  · simp only [creating, Option.bind_some, Option.ite_none_right_eq_some,
      Option.some.injEq] at begun
    simp [begun]

/-- The slot of a name as a create has left it that has not raised the flag yet. -/
def slotDuring (registry : Registry Party) (creation : Option (Bytes × Record.Data))
    (name : Bytes) : Record.Slot Party :=
  match creating creation name with
  | none => registry.slot name
  | some data => (registry.slot name).store data

omit [DecidableEq Party] in
@[simp]
theorem slotDuring_none (registry : Registry Party) (name : Bytes) :
    registry.slotDuring none name = registry.slot name := rfl

omit [DecidableEq Party] in
@[simp]
theorem slotDuring_some (registry : Registry Party) (creator name : Bytes)
    (data : Record.Data) :
    registry.slotDuring (some (creator, data)) name =
      if name = creator then (registry.slot name).store data else registry.slot name := by
  by_cases same : name = creator
  · simp [slotDuring, creating, same]
  · simp [slotDuring, creating, same]

theorem isLook_slotDuring (registry : Registry Party) (creation : Option (Bytes × Record.Data))
    (name : Bytes) (event : Record.Slot.Event Party) :
    (registry.slotDuring creation name).isLook event = (registry.slot name).isLook event := by
  unfold slotDuring
  split
  · rfl
  · exact Record.Slot.isLook_store _ _ event

theorem note?_of_isLook {registry : Registry Party} {name : Bytes}
    {event : Record.Slot.Event Party} (look : (registry.slot name).isLook event) :
    registry.note? name event = none := by
  have quietly := (Record.Slot.step_quiet _ name registry.interval look).1
  rw [note?, answer_step, quietly]
  cases event with
  | hold party wanted patience => simp [Record.Slot.isLook] at look
  | _ => rfl

theorem note?_of_pending {registry : Registry Party} {name : Bytes} {data : Record.Data}
    (pending : (registry.slot name).data = none) :
    registry.note? name (.publish data) = some (.published data) := by
  simp [note?, Record.Slot.step, Record.Slot.publish_of_pending _ name data pending,
    Record.Slot.note?]

/-- A registry differs from a quiet one only in what a create has stored. -/
structure Follows (registry quiet : Registry Party) (creation : Option (Bytes × Record.Data)) :
    Prop where
  interval : registry.interval = quiet.interval
  slots : ∀ name, registry.slot name = quiet.slotDuring creation name
  pending : ∀ {creator data}, creation = some (creator, data) → (quiet.slot creator).data = none

namespace Follows

variable {registry quiet : Registry Party}

theorem step (follows : registry.Follows quiet none) (name : Bytes)
    (event : Record.Slot.Event Party) :
    (registry.step name event).registry.Follows (quiet.step name event).registry none := by
  refine ⟨follows.interval, ?_, nofun⟩
  intro wanted
  simp [follows.slots, follows.interval]

theorem note? (follows : registry.Follows quiet none) (name : Bytes)
    (event : Record.Slot.Event Party) :
    registry.note? name event = quiet.note? name event := by
  simp [Registry.note?, follows.slots, follows.interval]

omit [DecidableEq Party] in
theorem store (follows : registry.Follows quiet none) (name : Bytes) (data : Record.Data)
    (pending : (registry.slot name).data = none) :
    (registry.put name ((registry.slot name).store data)).Follows quiet
      (some (name, data)) := by
  refine ⟨follows.interval, ?_, ?_⟩
  · intro wanted
    by_cases same : wanted = name
    · simp [follows.slots, same]
    · simp [follows.slots, same]
  · rintro creator data ⟨rfl, rfl⟩
    simpa [follows.slots] using pending

theorem look {creation : Bytes × Record.Data}
    (follows : registry.Follows quiet (some creation)) {name : Bytes}
    {event : Record.Slot.Event Party} (look : (quiet.slot name).isLook event) :
    (registry.step name event).registry.Follows (quiet.step name event).registry
      (some creation) := by
  rcases creation with ⟨creator, data⟩
  refine ⟨follows.interval, ?_, ?_⟩
  · intro wanted
    by_cases own : wanted = name
    · subst own
      by_cases same : wanted = creator
      · simp [follows.slots, same, follows.interval,
          Record.Slot.step_store _ _ _ _ (same ▸ look)]
      · simp [follows.slots, same, follows.interval]
    · simp [follows.slots, own]
  · rintro creator data ⟨rfl, rfl⟩
    have quietly := (Record.Slot.step_quiet _ name quiet.interval look).2
    have pending := follows.pending rfl
    by_cases same : creator = name
    · subst same
      simpa [Record.Slot.data, quietly] using pending
    · simpa [same] using pending

theorem raise {name : Bytes} {data : Record.Data}
    (follows : registry.Follows quiet (some (name, data))) {record : Record}
    (found : (registry.slot name).record = some record) :
    (registry.put name ((registry.slot name).raise record.flag)).Follows
      (quiet.step name (.publish data)).registry none := by
  refine ⟨follows.interval, ?_, nofun⟩
  intro wanted
  by_cases same : wanted = name
  · subst same
    have own : (registry.slot wanted).record = ((quiet.slot wanted).store data).record := by
      simp [follows.slots]
    have flag : record.flag = (quiet.slot wanted).ensure.2.flag := by
      rw [found] at own
      rw [Option.some.inj own]
    have published := (quiet.slot wanted).publish_of_pending wanted data (follows.pending rfl)
    simp [follows.slots, flag, Record.Slot.step, published, Record.Slot.ready]
  · simp [follows.slots, same]

end Follows

/-- What happens when creates take two steps happens when they take one. -/
theorem Interleaved.exists_reached {registry : Registry Party}
    {creation : Option (Bytes × Record.Data)} {histories : Bytes → Record.History Party}
    (run : registry.Interleaved creation histories) :
    ∃ quiet, quiet.Reached histories ∧ registry.Follows quiet creation := by
  induction run with
  | start interval => exact ⟨_, .start interval, rfl, fun _ => rfl, nofun⟩
  | step run name event permitted ih =>
      rcases ih with ⟨quiet, reached, follows⟩
      rw [follows.note?]
      exact ⟨_, reached.step name event permitted, follows.step name event⟩
  | store run name data pending ih =>
      rcases ih with ⟨quiet, reached, follows⟩
      exact ⟨quiet, reached, follows.store name data pending⟩
  | look run name event look ih =>
      rcases ih with ⟨quiet, reached, follows⟩
      rw [follows.slots, isLook_slotDuring] at look
      have same := reached.step name event (Record.Slot.permits_of_isLook look _)
      rw [note?_of_isLook look, Record.History.after_none, Function.update_eq_self] at same
      exact ⟨_, same, follows.look look⟩
  | raise run record found ih =>
      rename_i registry name data histories
      rcases ih with ⟨quiet, reached, follows⟩
      have published := reached.step name (.publish data) nofun
      rw [note?_of_pending (follows.pending rfl)] at published
      exact ⟨_, published, follows.raise found⟩

end Registry

end Rtos
