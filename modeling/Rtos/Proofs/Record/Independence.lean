import Mathlib.Data.Finset.Card
import Rtos.Machine.Object
import Rtos.Proofs.Record.View

/-!
# Independence of names

What is done under a name is done as if there were no other names. Two registries that are
alike at a name stay alike there and report the same, whatever is done under that name; and
what is done under another name leaves the first as it was, and nobody who asks about the
first can tell. So a run of a registry looks, at each name, like the run of what was done
under this name alone.

A deed is one step, taken under the lock of the registry or beside it. The opens of many
threads and the creates, which store their data before they raise the flag, come as
sequences of deeds in any order, and names are any bytes.
-/

namespace Rtos

namespace Record

/-- What is done under a name in one step. -/
inductive Deed (Party : Type) where
  | event (event : Slot.Event Party)
  /-- A create stores its data and has still to raise the flag. -/
  | store (data : Data)
  /-- A create that has stored its data raises the flag. -/
  | raise
  /-- The open of a party goes on until it has ended or waits. -/
  | proceed (party : Party)
  /-- Every open goes on until it has ended or waits. -/
  | settle
  /-- Somebody asks whether there is a record. -/
  | contains
  /-- Somebody asks how many hold the record. -/
  | holders

/-- What is told of a deed. -/
inductive Report (Party : Type) where
  | reaction (answer : Slot.Answer) (events : List LogEvent)
  | ended (opens : List (Party × Slot.Answer)) (events : List LogEvent)
  | truth (decision : Bool)
  | count (holders : Option Nat)

namespace Slot

variable {Party : Type} (slot : Slot Party) (name : Bytes) (data : Data)

/-- The first half of a create. -/
def publishFirst : Reaction Party :=
  match slot.data with
  | some _ =>
      { slot := slot.ensure.1, answer := .broken (.publishedTwice name slot.holders) }
  | none => { slot := slot.store data, answer := .pending }

/-- The second half of a create. -/
def publishLast : Reaction Party :=
  match slot.record with
  | some record =>
      { slot := slot.raise record.flag
        answer := .done
        events := [.created name record.holders] }
  | none => { slot, answer := .pending }

/-- Nothing in between, the two halves are a create. -/
theorem publish_eq_halves :
    slot.publish name data =
      match (slot.publishFirst name data).answer with
      | .pending => (slot.publishFirst name data).slot.publishLast name
      | _ => slot.publishFirst name data := by
  have data_eq := slot.data_ensure
  have holders_eq := slot.holders_ensure
  rcases ensured : slot.ensure with ⟨made, record⟩
  rw [ensured] at data_eq holders_eq
  simp only [publish, publishFirst, store, ensured, ← data_eq, ← holders_eq]
  cases record.data with
  | none => rfl
  | some published => rfl

end Slot

end Record

namespace Registry

open Record (Deed Report)

variable {Party : Type} [DecidableEq Party]

omit [DecidableEq Party] in
/-- The registry after a reaction, and what is told of it. -/
def Reaction.told (reaction : Reaction Party) : Registry Party × Report Party :=
  (reaction.registry, .reaction reaction.answer reaction.events)

/-- What a deed under a name does. -/
def perform (registry : Registry Party) (name : Bytes) :
    Deed Party → Registry Party × Report Party
  | .event event => (registry.step name event).told
  | .store data => (registry.react name ((registry.slot name).publishFirst name data)).told
  | .raise => (registry.react name ((registry.slot name).publishLast name)).told
  | .proceed party => (registry.proceed name party).told
  | .settle =>
      let (slot, ended, events) := (registry.slot name).settle name registry.interval
      (registry.put name slot, .ended ended events)
  | .contains => (registry, .truth (registry.contains name))
  | .holders => (registry, .count (registry.holders? name))

/-- What some deeds do, one after the other, and what is told of each. -/
def run (registry : Registry Party) :
    List (Bytes × Deed Party) → Registry Party × List (Bytes × Report Party)
  | [] => (registry, [])
  | (name, deed) :: deeds =>
      let (next, report) := registry.perform name deed
      let (last, reports) := next.run deeds
      (last, (name, report) :: reports)

/-- Two registries that nobody can tell apart who asks about one name only. -/
structure Alike (name : Bytes) (left right : Registry Party) : Prop where
  interval_eq : left.interval = right.interval
  slot_eq : left.slot name = right.slot name

namespace Alike

variable {name : Bytes} {left right : Registry Party}

omit [DecidableEq Party] in
theorem put (alike : Alike name left right) (slot : Record.Slot Party) :
    Alike name (left.put name slot) (right.put name slot) where
  interval_eq := alike.interval_eq
  slot_eq := by simp

/-- What is done under the name keeps the registries alike, and the same is told of it. -/
theorem perform (alike : Alike name left right) (deed : Deed Party) :
    Alike name (left.perform name deed).1 (right.perform name deed).1 ∧
      (left.perform name deed).2 = (right.perform name deed).2 := by
  have interval := alike.interval_eq
  have slot := alike.slot_eq
  cases deed with
  | event event =>
      simp only [Registry.perform, Reaction.told, step, react, slot, interval, and_true]
      exact alike.put _
  | store data =>
      simp only [Registry.perform, Reaction.told, react, slot, and_true]
      exact alike.put _
  | raise =>
      simp only [Registry.perform, Reaction.told, react, slot, and_true]
      exact alike.put _
  | proceed party =>
      simp only [Registry.perform, Reaction.told, Registry.proceed, react, slot, interval, and_true]
      exact alike.put _
  | settle =>
      simp only [Registry.perform, slot, interval, and_true]
      exact alike.put _
  | contains =>
      simp only [Registry.perform, contains, slot, and_true]
      exact alike
  | holders =>
      simp only [Registry.perform, holders?, slot, and_true]
      exact alike

omit [DecidableEq Party] in
theorem put_of_ne {other : Bytes} (apart : name ≠ other) (alike : Alike name left right)
    (slot : Record.Slot Party) : Alike name (left.put other slot) right where
  interval_eq := alike.interval_eq
  slot_eq := by simp [apart, alike.slot_eq]

/-- What is done under another name cannot be told. -/
theorem perform_of_ne {other : Bytes} (apart : name ≠ other) (alike : Alike name left right)
    (deed : Deed Party) : Alike name (left.perform other deed).1 right := by
  cases deed with
  | contains => exact alike
  | holders => exact alike
  | _ => exact alike.put_of_ne apart _

/-- A run is alike to the run of what is done under the name. -/
theorem run (alike : Alike name left right) (deeds : List (Bytes × Deed Party)) :
    Alike name (left.run deeds).1 (right.run (deeds.filter (·.1 = name))).1 ∧
      (left.run deeds).2.filter (·.1 = name) = (right.run (deeds.filter (·.1 = name))).2 := by
  induction deeds generalizing left right with
  | nil => exact ⟨alike, rfl⟩
  | cons head deeds ih =>
      rcases head with ⟨other, deed⟩
      by_cases same : other = name
      · subst same
        rcases alike.perform deed with ⟨next, report⟩
        rcases ih next with ⟨last, reports⟩
        simp only [Registry.run, decide_true, List.filter_cons_of_pos, reports, report, and_true]
        exact last
      · have next := alike.perform_of_ne (Ne.symm same) deed
        simp only [Registry.run, same, decide_false, Bool.false_eq_true, not_false_eq_true,
          List.filter_cons_of_neg]
        exact ih next

end Alike

/-! ## The number of records -/

theorem map_fst_filterMap_sublist {Key Stored Found : Type}
    {change : Key × Stored → Option (Key × Found)}
    (keeps : ∀ entry found, change entry = some found → found.1 = entry.1)
    (entries : List (Key × Stored)) :
    ((entries.filterMap change).map (·.1)).Sublist (entries.map (·.1)) := by
  induction entries with
  | nil => exact List.nil_sublist _
  | cons entry entries ih =>
      cases changed : change entry with
      | none => simpa [List.filterMap_cons, changed] using ih.cons entry.1
      | some found => simpa [List.filterMap_cons, changed, keeps entry found changed] using ih

section Names

variable (registry : Registry Party)

/-- The names of which there are records. -/
def names : List Bytes :=
  registry.records.map (·.1)

omit [DecidableEq Party] in
theorem names_distinct : registry.names.Nodup := by
  refine List.Nodup.sublist ?_ registry.slots.listing_distinct
  apply map_fst_filterMap_sublist
  rintro ⟨name, slot⟩ found kept
  rcases Option.map_eq_some_iff.mp kept with ⟨record, _, rfl⟩
  rfl

omit [DecidableEq Party] in
theorem mem_names (name : Bytes) : name ∈ registry.names ↔ registry.contains name := by
  simp only [names, records, List.mem_map, List.mem_filterMap, contains, slot]
  constructor
  · rintro ⟨⟨key, record⟩, ⟨⟨_, slot⟩, present, found⟩, rfl⟩
    rw [Record.Directory.mem_listing] at present
    simp only [Option.map_eq_some_iff, Prod.mk.injEq] at found
    rcases found with ⟨_, found, rfl, rfl⟩
    simp [present, found]
  · intro present
    cases placed : registry.slots.get? name with
    | none => simp [placed] at present
    | some slot =>
        rw [placed, Option.getD_some] at present
        rcases Option.isSome_iff_exists.mp present with ⟨record, found⟩
        refine ⟨(name, record), ⟨(name, slot), ?_, ?_⟩, rfl⟩
        · exact (registry.slots.mem_listing name slot).mpr placed
        · simp [found]

end Names

/--
Names are independent. Whatever is done, in whatever order and under whatever names, what
is told of the deeds under one name, and the record of that name with its data, its holders
and its opens, are as if nothing else had been done. The size of the registry is the number
of names of which there is a record if nothing is done but under them.
-/
theorem names_independent (interval : Duration) (deeds : List (Bytes × Deed Party)) :
    let fresh : Registry Party := { interval }
    let own (name : Bytes) := fresh.run (deeds.filter (·.1 = name))
    (∀ name, (fresh.run deeds).2.filter (·.1 = name) = (own name).2 ∧
      (fresh.run deeds).1.slot name = (own name).1.slot name) ∧
      ∃ names : Finset Bytes, (∀ name, name ∈ names ↔ (own name).1.contains name) ∧
        (fresh.run deeds).1.size = names.card := by
  intro fresh own
  have alike (name : Bytes) :
      Alike name (fresh.run deeds).1 (own name).1 ∧
        (fresh.run deeds).2.filter (·.1 = name) = (own name).2 :=
    Alike.run ⟨rfl, rfl⟩ deeds
  refine ⟨?_, (fresh.run deeds).1.names.toFinset, ?_, ?_⟩
  · intro name
    exact ⟨(alike name).2, (alike name).1.slot_eq⟩
  · intro name
    rw [List.mem_toFinset, mem_names, contains, (alike name).1.slot_eq]
    rfl
  · rw [List.toFinset_card_of_nodup (names_distinct _), names, List.length_map]
    rfl

-- A NUL at the end of a name makes it another name, with a record and holders of its own.
example :
    let deeds : List (Bytes × Deed Nat) :=
      [([97], .event (.hold 1 .unit .unlimited)), ([97, 0], .event (.hold 2 .unit .unlimited)),
        ([97], .event (.hold 3 .unit .unlimited))]
    let registry := (run { interval := ⟨1⟩ } deeds).1
    registry.size = 2 ∧
      registry.holders? [97] = some 2 ∧ registry.holders? [97, 0] = some 1 := by decide

/-! ## The calls that do the deeds -/

/-- The registry comes to rest by a deed under each of its busy names. -/
theorem settleNames_eq_run (registry : Registry Party) (names : List Bytes) :
    (registry.settleNames names).1 =
      (registry.run (names.map fun name => (name, .settle))).1 := by
  induction names generalizing registry with
  | nil => rfl
  | cons name names ih => exact ih _

end Registry

namespace Machine.Attempt

/-- An open is some deeds under its name, and its answer is the one to the last of them. -/
theorem openRecord_eq_run (attempt : Attempt) (registry : Registry Label) (name : Bytes)
    (wanted : ValueType) (patience : Record.Patience) :
    let reaction := attempt.openRecord registry name wanted patience
    ∃ (deeds : List (Record.Deed Label)) (events : List LogEvent),
      reaction.registry = (registry.run (deeds.map fun deed => (name, deed))).1 ∧
      (registry.run (deeds.map fun deed => (name, deed))).2.getLast? =
        some (name, .reaction reaction.answer events) := by
  unfold openRecord
  dsimp only
  split
  · exact ⟨[.event (.hold attempt.actor wanted patience), .proceed attempt.actor,
      .event (.expire attempt.actor), .proceed attempt.actor], _, rfl, rfl⟩
  · exact ⟨[.event (.hold attempt.actor wanted patience), .proceed attempt.actor], _, rfl, rfl⟩

end Machine.Attempt

end Rtos
