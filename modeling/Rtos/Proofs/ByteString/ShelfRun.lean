import Mathlib.Algebra.Group.Nat.Defs
import Mathlib.Logic.Function.Basic
import Rtos.ByteString.Shelf
import Rtos.Proofs.ByteString.CheckedCommand

/-!
# Runs on named strings

Any number of strings under names, any sequence of steps on them. Three runs are compared:
that of the strings, that of plain bytes under the same names, and that of the bare buffers
with checked positions. After each step every string holds the plain bytes under its name
(`Holds.after`), and the buffers are those of the strings as long as there is room for them
(`checkedAfter_buffersOf`).
-/

namespace Rtos

namespace Shelf

open ByteString (Stop)

namespace Step

variable {Thing Image : Type}

/-- The second name of a step, if it is another one than the first. -/
def partner (step : Step) : Option String :=
  step.other.filter (· != step.target)

/-- The second of the things under names that a step works with. -/
def second (step : Step) (blank : Thing) (things : String → Thing) : Thing :=
  (step.other.map things).getD blank

/-- The things under names, with what a step makes of those under its names. -/
def settle (step : Step) (things : String → Thing) (results : Thing × Thing) :
    String → Thing :=
  match step.partner with
  | none => Function.update things step.target results.1
  | some name => Function.update (Function.update things name results.2) step.target results.1

/-- The plain bytes after a step. -/
def onBytes (step : Step) (plain : String → Bytes) : String → Bytes :=
  step.settle plain (step.command.onBytes (plain step.target) (step.second [] plain))

/-- The room that a step needs. -/
def demand (step : Step) (plain : String → Bytes) : Nat :=
  step.command.demand (plain step.target) (step.second [] plain)

/-- The buffers after a step with checked positions. -/
def checked (step : Step) (buffers : String → Bytes) : Except Stop (String → Bytes) :=
  (step.command.checked (buffers step.target) (step.second [0] buffers)).map
    (step.settle buffers)

end Step

/-! ## The runs -/

/-- The shelf after a sequence of steps. -/
def after (shelf : Shelf) (steps : List Step) : Shelf :=
  steps.foldl (fun shelf step => (shelf.run step).1) shelf

/-- The plain bytes after a sequence of steps. -/
def bytesAfter (plain : String → Bytes) (steps : List Step) : String → Bytes :=
  steps.foldl (fun plain step => step.onBytes plain) plain

/-- The buffers after a sequence of steps with checked positions. -/
def checkedAfter (buffers : String → Bytes) (steps : List Step) :
    Except Stop (String → Bytes) :=
  steps.foldlM (fun buffers step => step.checked buffers) buffers

/-- The room that each step of a sequence needs. -/
def demands (plain : String → Bytes) : List Step → List Nat
  | [] => []
  | step :: steps => step.demand plain :: demands (step.onBytes plain) steps

/-- The answers to a longer sequence go on from the shelf that the shorter one leaves. -/
theorem runAll_append (shelf : Shelf) (steps more : List Step) :
    shelf.runAll (steps ++ more) = shelf.runAll steps ++ (shelf.after steps).runAll more := by
  induction steps generalizing shelf with
  | nil => rfl
  | cons step steps ih =>
    simp only [List.cons_append, runAll, ih, after, List.foldl_cons]

/-! ## Strings and plain bytes -/

variable {shelf : Shelf} {plain : String → Bytes}

/-- Every string holds the bytes under its name. -/
def Holds (shelf : Shelf) (plain : String → Bytes) : Prop :=
  ∀ name, (shelf.get name).Holds (plain name)

theorem lookup_filter_of_ne {name searched : String} (distinct : searched ≠ name)
    (entries : List (String × ByteString)) :
    (entries.filter (·.1 != name)).lookup searched = entries.lookup searched := by
  induction entries with
  | nil => rfl
  | cons entry entries ih =>
    rw [List.filter_cons, List.lookup_cons]
    split
    case isTrue kept => rw [List.lookup_cons, ih]
    case isFalse dropped =>
      have same : entry.1 = name := by simpa using dropped
      rw [same, beq_false_of_ne distinct]
      exact ih

/-- The string that was put under a name is found there, and the others where they were. -/
theorem get_put (shelf : Shelf) (name : String) (string : ByteString) :
    (shelf.put name string).get = Function.update shelf.get name string := by
  funext searched
  rw [put, get, List.lookup_cons]
  by_cases same : searched = name
  · rw [same, Function.update_self, beq_self_eq_true]
    rfl
  · rw [beq_false_of_ne same, Function.update_of_ne same, lookup_filter_of_ne same]
    rfl

theorem holds_empty : Holds {} fun _ => [] :=
  fun _ => ByteString.Holds.empty

theorem Holds.otherOf (holds : shelf.Holds plain) (step : Step) :
    (shelf.otherOf step).Holds (step.second [] plain) := by
  rw [Shelf.otherOf, Step.second]
  split
  case h_1 alone => rw [alone]; exact ByteString.Holds.empty
  case h_2 name named =>
    rw [named]
    split
    · exact (holds name).copy
    · exact holds name

theorem Holds.update (holds : shelf.Holds plain) (name : String) {string : ByteString}
    {bytes : Bytes} (stringHolds : string.Holds bytes) :
    (shelf.put name string).Holds (Function.update plain name bytes) := by
  intro searched
  rw [get_put, Function.update_apply, Function.update_apply]
  split
  · exact stringHolds
  · exact holds searched

/-- A step does to the strings under its names what it does to the bytes. -/
theorem Holds.run (holds : shelf.Holds plain) (step : Step) :
    (shelf.run step).1.Holds (step.onBytes plain) := by
  have results := step.command.run_holds (holds step.target) (holds.otherOf step)
  unfold Shelf.run Step.onBytes Step.settle Step.partner
  cases step.other.filter (· != step.target) with
  | none => exact holds.update step.target results.1
  | some name => exact (holds.update name results.2).update step.target results.1

/-- Every string reached holds the bytes that the same steps make of plain bytes. -/
theorem Holds.after (holds : shelf.Holds plain) (steps : List Step) :
    (shelf.after steps).Holds (bytesAfter plain steps) := by
  induction steps generalizing shelf plain with
  | nil => exact holds
  | cons step steps ih => exact ih (holds.run step)

/-! ## Buffers and plain bytes -/

/-- The buffers of plain bytes: each has its terminator. -/
def buffersOf (plain : String → Bytes) : String → Bytes :=
  fun name => plain name ++ [0]

/-- There is room for the buffer under every name. -/
def HasRoom (plain : String → Bytes) : Prop :=
  ∀ name, (plain name).length < Bytes.roomLimit

theorem Holds.buffers (holds : shelf.Holds plain) :
    (fun name => (shelf.get name).buffer) = buffersOf plain :=
  funext holds

theorem buffersOf_update (plain : String → Bytes) (name : String) (bytes : Bytes) :
    buffersOf (Function.update plain name bytes) =
      Function.update (buffersOf plain) name (bytes ++ [0]) := by
  funext searched
  rw [buffersOf, Function.update_apply, Function.update_apply]
  split <;> rfl

theorem second_buffersOf (step : Step) (plain : String → Bytes) :
    step.second [0] (buffersOf plain) = step.second [] plain ++ [0] := by
  rw [Step.second, Step.second]
  cases step.other <;> rfl

theorem settle_buffersOf (step : Step) (plain : String → Bytes) (bytes others : Bytes) :
    step.settle (buffersOf plain) (bytes ++ [0], others ++ [0]) =
      buffersOf (step.settle plain (bytes, others)) := by
  rw [Step.settle, Step.settle]
  split <;> simp only [buffersOf_update]

theorem HasRoom.update (room : HasRoom plain) (name : String) {bytes : Bytes}
    (bytesRoom : bytes.length < Bytes.roomLimit) :
    HasRoom (Function.update plain name bytes) := by
  intro searched
  rw [Function.update_apply]
  split
  · exact bytesRoom
  · exact room searched

theorem HasRoom.second (room : HasRoom plain) (step : Step) :
    (step.second [] plain).length < Bytes.roomLimit := by
  rw [Step.second]
  cases step.other with
  | none => exact (by decide : 0 < Bytes.roomLimit)
  | some name => exact room name

/-- If there is room for what a step needs, there is room for everything afterwards. -/
theorem HasRoom.onBytes (room : HasRoom plain) {step : Step}
    (fits : step.demand plain ≤ Bytes.roomLimit) : HasRoom (step.onBytes plain) := by
  have stringRoom := ByteString.Command.length_onBytes_lt fits
  have otherRoom := ByteString.Command.length_onBytes_snd_lt step.command
    (room step.target) (room.second step)
  rw [Step.onBytes, Step.settle]
  split
  · exact room.update step.target stringRoom
  · exact (room.update _ otherRoom).update step.target stringRoom

theorem checked_buffersOf (room : HasRoom plain) {step : Step}
    (holdable : step.command.IsHoldable) :
    step.checked (buffersOf plain) =
      if step.demand plain ≤ Bytes.roomLimit then .ok (buffersOf (step.onBytes plain))
      else .error .noRoom := by
  rw [Step.checked, second_buffersOf, buffersOf,
    ByteString.Command.checked_eq holdable (room step.target) (room.second step), Step.demand]
  split
  case isTrue fits => exact congrArg Except.ok (settle_buffersOf step plain _ _)
  case isFalse => rfl

/--
The buffers reached with checked positions are those of the plain bytes, unless there is no
room for what a step needs.
-/
theorem checkedAfter_buffersOf (room : HasRoom plain) {steps : List Step}
    (holdable : ∀ step ∈ steps, step.command.IsHoldable) :
    checkedAfter (buffersOf plain) steps =
      if ∀ demand ∈ demands plain steps, demand ≤ Bytes.roomLimit then
        .ok (buffersOf (bytesAfter plain steps))
      else .error .noRoom := by
  induction steps generalizing plain with
  | nil => rw [if_pos (by simp [demands])]; rfl
  | cons step steps ih =>
    rw [List.forall_mem_cons] at holdable
    rw [checkedAfter, List.foldlM_cons, checked_buffersOf room holdable.1, demands]
    simp only [List.forall_mem_cons]
    by_cases fits : step.demand plain ≤ Bytes.roomLimit
    · simp only [fits, if_true, true_and]
      exact ih (room.onBytes fits) holdable.2
    · simp only [fits, if_false, false_and]
      rfl

/-! ## Named strings are plain bytes -/

/--
Whatever is done to named strings, each of them is afterwards the plain bytes on which the
same was done, and one terminator. On the bare buffers, no position is outside of its bytes
and none wraps: the same buffers are reached, or there is no room for what a step needs.
-/
theorem after_refines_bytes (steps : List Step) :
    (∀ name,
      let string := (after {} steps).get name
      let plain := bytesAfter (fun _ => []) steps name
      string.buffer = plain ++ [0] ∧ string.buffer ≠ [] ∧
        string.size = string.buffer.length - 1 ∧ string.content = plain ∧
        string.asCString = Bytes.untilNul plain) ∧
    ((∀ step ∈ steps, step.command.IsHoldable) →
      checkedAfter (fun _ => [0]) steps =
        if ∀ demand ∈ demands (fun _ => []) steps, demand ≤ Bytes.roomLimit then
          .ok fun name => ((after {} steps).get name).buffer
        else .error .noRoom) := by
  have holds := holds_empty.after steps
  constructor
  · intro name
    have string := holds name
    refine ⟨string, ?_, rfl, string.content_eq, string.asCString_eq⟩
    rw [string]
    exact List.concat_ne_nil _ _
  · intro holdable
    have room : HasRoom fun _ => [] := fun _ => (by decide : 0 < Bytes.roomLimit)
    rw [holds.buffers]
    exact checkedAfter_buffersOf room holdable

/-- A run with huge positions, an embedded NUL and a needle that its replacement contains. -/
theorem after_refines_bytes_of_hugePositions :
    let steps : List Step :=
      [⟨"a", none, .ofBytes [97, 0, 98, 98]⟩, ⟨"b", some "a", .append⟩,
        ⟨"b", none, .replaceAll [98] [98, 98]⟩, ⟨"a", some "b", .swap⟩,
        ⟨"b", none, .middle 1 (2 ^ 64 - 1)⟩, ⟨"a", some "a", .setSubstring (2 ^ 64 - 1) 1⟩]
    (∀ step ∈ steps, step.command.IsHoldable) ∧
      checkedAfter (fun _ => [0]) steps =
        .ok fun name => ((after {} steps).get name).buffer := by
  intro steps
  have holdable : ∀ step ∈ steps, step.command.IsHoldable := by decide
  have fits : ∀ demand ∈ demands (fun _ => []) steps, demand ≤ Bytes.roomLimit := by decide
  exact ⟨holdable, ((after_refines_bytes steps).2 holdable).trans (if_pos fits)⟩

end Shelf

end Rtos
