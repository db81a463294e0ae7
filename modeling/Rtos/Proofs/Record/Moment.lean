import Rtos.Proofs.Record.Awake

/-!
# Moments and what follows from them

A moment is a registry with a create that may be under way and with the histories of all
names. What can happen next is what can happen in runs in which creates take two steps; an
event leaves behind its name and its answer. Some happenings lead from a moment to another,
and all that is said of a name's slot there is proved from what one of them can do to it.
-/

namespace Rtos

namespace Registry

variable {Party : Type}

/-- An event under a name, with its answer. -/
structure Happening (Party : Type) where
  name : Bytes
  event : Record.Slot.Event Party
  answer : Record.Slot.Answer

structure Moment (Party : Type) where
  registry : Registry Party
  /-- The name and the data for which a create is about to raise the flag. -/
  creation : Option (Bytes × Record.Data) := none
  histories : Bytes → Record.History Party := fun _ => []

namespace Moment

def slot (moment : Moment Party) (name : Bytes) : Record.Slot Party :=
  moment.registry.slot name

/-- No create is about to raise the flag of a name. -/
def Settled (moment : Moment Party) (name : Bytes) : Prop :=
  creating moment.creation name = none

variable [DecidableEq Party]

/-- A moment that some run has. -/
def Possible (moment : Moment Party) : Prop :=
  moment.registry.Interleaved moment.creation moment.histories

/-- What can happen next, if it is an event, and the moment to which it leads. -/
inductive Next (moment : Moment Party) : Option (Happening Party) → Moment Party → Prop where
  | step (idle : moment.creation = none) (name : Bytes) (event : Record.Slot.Event Party)
      (permitted : (moment.histories name).Permits event) :
      Next moment (some ⟨name, event, (moment.registry.step name event).answer⟩)
        { moment with
          registry := (moment.registry.step name event).registry
          histories := Function.update moment.histories name
            ((moment.histories name).after (moment.registry.note? name event)) }
  | look (busy : moment.creation.isSome) (name : Bytes) (event : Record.Slot.Event Party)
      (look : (moment.slot name).isLook event) :
      Next moment (some ⟨name, event, (moment.registry.step name event).answer⟩)
        { moment with registry := (moment.registry.step name event).registry }
  | store (idle : moment.creation = none) (name : Bytes) (data : Record.Data)
      (pending : (moment.slot name).data = none) :
      Next moment none
        { moment with
          registry := moment.registry.put name ((moment.slot name).store data)
          creation := some (name, data) }
  | raise (name : Bytes) (data : Record.Data) (busy : moment.creation = some (name, data))
      (record : Record) (found : (moment.slot name).record = some record) :
      Next moment none
        { registry := moment.registry.put name ((moment.slot name).raise record.flag)
          creation := none
          histories := Function.update moment.histories name
            ((moment.histories name).after (some (.published data))) }

/-- What leads from a moment to another, the earliest first. -/
inductive Leads : Moment Party → List (Happening Party) → Moment Party → Prop where
  | stay (moment : Moment Party) : Leads moment [] moment
  | go {moment between later : Moment Party} {happening? : Option (Happening Party)}
      {happenings : List (Happening Party)} (next : moment.Next happening? between)
      (leads : Leads between happenings later) :
      Leads moment (happening?.toList ++ happenings) later

variable {moment later : Moment Party} {happening? : Option (Happening Party)}
  {happenings : List (Happening Party)} {name : Bytes}

theorem Possible.next (possible : moment.Possible) (next : moment.Next happening? later) :
    later.Possible := by
  rcases moment with ⟨registry, creation, histories⟩
  cases next with
  | step idle name event permitted =>
      cases idle
      exact .step possible name event permitted
  | look busy name event look =>
      rcases Option.isSome_iff_exists.mp busy with ⟨begun, rfl⟩
      exact .look possible name event look
  | store idle name data pending =>
      cases idle
      exact .store possible name data pending
  | raise name data busy record found =>
      cases busy
      exact .raise possible record found

theorem Possible.leads (possible : moment.Possible) (leads : moment.Leads happenings later) :
    later.Possible := by
  induction leads with
  | stay moment => exact possible
  | go next leads ih => exact ih (possible.next next)

theorem Leads.trans {between : Moment Party} {first second : List (Happening Party)}
    (leads : moment.Leads first between) (goes : between.Leads second later) :
    moment.Leads (first ++ second) later := by
  induction leads with
  | stay moment => exact goes
  | go next leads ih =>
      rw [List.append_assoc]
      exact .go next (ih goes)

/-- What can happen next does to the slot of a name that no create is about to raise. -/
inductive Touches (moment : Moment Party) (name : Bytes) :
    Option (Happening Party) → Moment Party → Prop where
  | elsewhere (happening? : Option (Happening Party)) (later : Moment Party)
      (other : ∀ happening ∈ happening?, happening.name ≠ name)
      (same : later.slot name = moment.slot name) (settled : later.Settled name) :
      Touches moment name happening? later
  | stored (later : Moment Party) (pending : (moment.slot name).data = none) :
      Touches moment name none later
  | here (event : Record.Slot.Event Party) (later : Moment Party)
      (permitted : (moment.histories name).Permits event)
      (moved : later.slot name =
        ((moment.slot name).step name moment.registry.interval event).slot)
      (settled : later.Settled name) :
      Touches moment name
        (some ⟨name, event,
          ((moment.slot name).step name moment.registry.interval event).answer⟩) later

theorem Next.touches (next : moment.Next happening? later) (settled : moment.Settled name) :
    moment.Touches name happening? later := by
  cases next with
  | step idle target event permitted =>
      by_cases same : target = name
      · subst same
        exact .here event _ permitted (by simp [slot]) settled
      · exact .elsewhere _ _ (by simpa using same) (by simp [slot, Ne.symm same]) settled
  | look busy target event look =>
      by_cases same : target = name
      · subst same
        have permitted := Record.Slot.permits_of_isLook look (moment.histories target)
        exact .here event _ permitted (by simp [slot]) settled
      · exact .elsewhere _ _ (by simpa using same) (by simp [slot, Ne.symm same]) settled
  | store idle target data pending =>
      by_cases same : target = name
      · exact .stored _ (same ▸ pending)
      · refine .elsewhere _ _ (by simp) (by simp [slot, Ne.symm same]) ?_
        simp [Settled, creating, Ne.symm same]
  | raise target data busy record found =>
      -- The name has no create under way, so the flag is not raised for it.
      have differs : name ≠ target := by
        rintro rfl
        simp [Settled, creating, busy] at settled
      exact .elsewhere _ _ (by simp) (by simp [slot, differs]) rfl

/-- What is said of a slot that no create is about to raise. -/
structure Sound (moment : Moment Party) (name : Bytes) : Prop where
  balanced : (moment.slot name).Balanced (moment.histories name)
  coherent : (moment.slot name).Coherent (moment.histories name)
  vigilant : (moment.slot name).Vigilant

theorem Possible.sound (possible : moment.Possible) (settled : moment.Settled name) :
    moment.Sound name := by
  rcases possible.exists_reached with ⟨quiet, reached, follows⟩
  rcases reached.sound name with ⟨balanced, coherent⟩
  have same : moment.slot name = quiet.slot name := by
    rw [slot, follows.slots, slotDuring, show creating moment.creation name = none from settled]
  exact ⟨same ▸ balanced, same ▸ coherent, same ▸ reached.vigilant name⟩

end Moment

end Registry

end Rtos
