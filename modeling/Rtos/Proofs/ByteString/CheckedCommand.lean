import Rtos.Proofs.ByteString.Checked
import Rtos.Proofs.ByteString.Meaning

/-!
# Commands with checked positions

Every command on strings as a machine carries it out on the bare buffers. A command is
given bytes for which there is room. It then comes to its end with what it means on plain
bytes, or there is no room for that (`checked_eq`). No position lies outside of the bytes
that it is used on, and none wraps, whatever the positions are that the command is given.
-/

namespace Rtos

namespace ByteString

open Checked

namespace Command

/-- The bytes that a command is given and keeps. -/
def sources : Command → List Bytes
  | ofBytes bytes | ofCString bytes | setBytes bytes | setCString bytes
  | setCStringPrefix bytes _ | pushBytes bytes | appendCString bytes | trim bytes
  | replaceRange _ _ bytes | refill bytes => [bytes]
  | replaceFirst needle replacement _ | replaceAll needle replacement => [needle, replacement]
  | print format _ | appendPrint format _ => [format]
  | _ => []

/-- Whether there is room for what a command is given. -/
def IsHoldable (command : Command) : Prop :=
  ∀ source ∈ command.sources, source.length ≤ Bytes.roomLimit

instance (command : Command) : Decidable command.IsHoldable :=
  inferInstanceAs (Decidable (∀ source ∈ command.sources, source.length ≤ Bytes.roomLimit))

/-- The room that a command needs for its string. -/
def demand (command : Command) (bytes others : Bytes) : Nat :=
  match command with
  | withCapacity room => max room 1
  | _ => (command.onBytes bytes others).1.length + 1

/-- The output of a format, if it can be applied and there is room for its output. -/
def printed (format : Bytes) (arguments : List Format.Argument) : Except Stop (Option Bytes) :=
  match Format.print format arguments with
  | .error _ => .ok none
  | .ok output => (hold output).map some

/-- A command on the buffers of its string and of the second one. -/
def checked (command : Command) (buffer other : Bytes) : Except Stop (Bytes × Bytes) :=
  match command with
  | withCapacity room =>
      if Bytes.roomLimit < max room 1 then .error .noRoom else .ok ([0], other)
  | ofBytes bytes => (Checked.ofBytes bytes).map (·, other)
  | ofCString bytes => do (Checked.ofBytes (← Checked.cString bytes bytes.length)).map (·, other)
  | copy => (hold other).map (·, other)
  | take => .ok (other, [0])
  | swap => .ok (other, buffer)
  | clear => .ok ([0], other)
  | reserve room => (Checked.reserve buffer room).map (·, other)
  | setBytes bytes => (Checked.setBytes bytes).map (·, other)
  | setCString bytes => do
      (Checked.setBytes (← Checked.cString bytes bytes.length)).map (·, other)
  | setCStringPrefix bytes limit => do
      (Checked.setBytes (← Checked.cString bytes limit)).map (·, other)
  | set => do (Checked.setBytes (← Checked.content other)).map (·, other)
  | setSubstring offset count => (Checked.setSubstring other offset count).map (·, other)
  | setByte position byte => (Checked.setByte buffer position byte).map (·, other)
  | pushByte byte => (Checked.pushByte buffer byte).map (·, other)
  | pushBytes bytes => (Checked.pushBytes buffer bytes).map (·, other)
  | pushCharacter character =>
      (Checked.pushBytes buffer (Utf8.encode character)).map (·, other)
  | append => do (Checked.pushBytes buffer (← Checked.content other)).map (·, other)
  | appendCString bytes => do
      (Checked.pushBytes buffer (← Checked.cString bytes bytes.length)).map (·, other)
  | left count => (Checked.left buffer count).map (·, other)
  | right count => (Checked.right buffer count).map (·, other)
  | middle position count => (Checked.middle buffer position count).map (·, other)
  | trim removed => (Checked.trim buffer removed).map (·, other)
  | trimWhitespace => (Checked.trim buffer whitespace).map (·, other)
  | replaceRange position count bytes =>
      (Checked.replaceRange buffer position count bytes).map (·, other)
  | replaceFirst needle replacement start =>
      (Checked.replaceFirst buffer needle replacement start).map (·, other)
  | replaceAll needle replacement =>
      (Checked.replaceAll buffer needle replacement).map (·, other)
  | print format arguments => do
      match ← printed format arguments with
      | none => .ok (buffer, other)
      | some output => (Checked.setBytes output).map (·, other)
  | appendPrint format arguments => do
      match ← printed format arguments with
      | none => .ok (buffer, other)
      | some output =>
          let scratch ← Checked.setBytes output
          (Checked.pushBytes buffer (← Checked.content scratch)).map (·, other)
  | refill bytes => (Checked.pushBytes [0] bytes).map (·, other)
  | _ => do
      let _ ← Checked.content buffer
      .ok (buffer, other)

/-- The end of a command whose string becomes some bytes, if there is room for them. -/
def settled (bytes others : Bytes) : Except Stop (Bytes × Bytes) :=
  if bytes.length + 1 ≤ Bytes.roomLimit then .ok (bytes ++ [0], others ++ [0])
  else .error .noRoom

/-- A command comes to its end with what it means on plain bytes, if there is room for that. -/
def Settles (command : Command) (bytes others : Bytes) : Prop :=
  command.checked (bytes ++ [0]) (others ++ [0]) =
    settled (command.onBytes bytes others).1 (command.onBytes bytes others).2

variable {bytes others : Bytes}

theorem map_hold (bytes others : Bytes) :
    (hold (bytes ++ [0])).map (·, others ++ [0]) = settled bytes others := by
  rw [hold, settled, List.length_append, List.length_singleton]
  split <;> rfl

theorem settled_of_room (others : Bytes) (room : bytes.length < Bytes.roomLimit) :
    settled bytes others = .ok (bytes ++ [0], others ++ [0]) :=
  if_pos room

theorem length_untilNul_le (bytes : Bytes) : (Bytes.untilNul bytes).length ≤ bytes.length :=
  (List.takeWhile_prefix _).length_le

theorem cString_length (bytes : Bytes) :
    Checked.cString bytes bytes.length = .ok (Bytes.untilNul bytes) := by
  rw [cString_eq, List.take_of_length_le (length_untilNul_le bytes)]

/-! ## Groups of commands -/

section Groups

variable {command : Command}

/-- Commands that need no more room than there is already. -/
theorem settles_of_ok (room : (command.onBytes bytes others).1.length < Bytes.roomLimit)
    (runs : command.checked (bytes ++ [0]) (others ++ [0]) =
      .ok ((command.onBytes bytes others).1 ++ [0], (command.onBytes bytes others).2 ++ [0])) :
    command.Settles bytes others := by
  rw [Settles, runs, settled_of_room _ room]

/-- Commands that make one new buffer. -/
theorem settles_of_hold {made : Except Stop Bytes}
    (holds : made = hold ((command.onBytes bytes others).1 ++ [0]))
    (runs : command.checked (bytes ++ [0]) (others ++ [0]) =
      made.map (·, (command.onBytes bytes others).2 ++ [0])) :
    command.Settles bytes others := by
  rw [Settles, runs, holds, map_hold]

/-- Commands that first read bytes, of a string or of a C string, and then make a new buffer. -/
theorem settles_of_read {read : Except Stop Bytes} {make : Bytes → Except Stop Bytes}
    {source : Bytes} (reads : read = .ok source)
    (holds : make source = hold ((command.onBytes bytes others).1 ++ [0]))
    (runs : command.checked (bytes ++ [0]) (others ++ [0]) =
      do (make (← read)).map (·, (command.onBytes bytes others).2 ++ [0])) :
    command.Settles bytes others := by
  rw [reads, ok_bind] at runs
  exact settles_of_hold holds runs

end Groups

/-! ### Formats -/

theorem printed_of_ok {format : Bytes} {arguments : List Format.Argument} {output : Bytes}
    (prints : Format.print format arguments = .ok output) :
    printed format arguments =
      if output.length ≤ Bytes.roomLimit then .ok (some output) else .error .noRoom := by
  simp only [printed, prints, hold]
  split <;> rfl

theorem settles_print (room : bytes.length < Bytes.roomLimit) (format : Bytes)
    (arguments : List Format.Argument) : (print format arguments).Settles bytes others := by
  cases prints : Format.print format arguments with
  | error failure =>
    apply settles_of_ok
    · simp only [onBytes, prints]
      exact room
    · simp only [checked, onBytes, printed, prints]
      rfl
  | ok output =>
    simp only [Settles, checked, onBytes, prints, printed_of_ok prints]
    split
    case isTrue outputRoom =>
      simp only [ok_bind]
      rw [setBytes_eq outputRoom, map_hold]
    case isFalse outputFull =>
      exact (if_neg fun fits => outputFull (Nat.le_of_succ_le fits)).symm

/-- What is appended was first printed into a string of its own, for which there was room too. -/
theorem settles_appendPrint (room : bytes.length < Bytes.roomLimit) (format : Bytes)
    (arguments : List Format.Argument) : (appendPrint format arguments).Settles bytes others := by
  cases prints : Format.print format arguments with
  | error failure =>
    apply settles_of_ok
    · simp only [onBytes, prints]
      exact room
    · simp only [checked, onBytes, printed, prints]
      rfl
  | ok output =>
    have full (scratchFull : ¬ output.length + 1 ≤ Bytes.roomLimit) :
        settled (bytes ++ output) others = .error .noRoom := by
      refine if_neg fun fits => scratchFull ?_
      rw [List.length_append] at fits
      omega
    simp only [Settles, checked, onBytes, prints, printed_of_ok prints]
    split
    case isTrue outputRoom =>
      simp only [ok_bind]
      rw [setBytes_eq outputRoom, hold, List.length_append, List.length_singleton]
      split
      case isTrue scratchRoom =>
        rw [ok_bind, content_concat, ok_bind, pushBytes_concat, map_hold]
      case isFalse scratchFull => exact (full scratchFull).symm
    case isFalse outputFull => exact (full fun fits => outputFull (Nat.le_of_succ_le fits)).symm

/-! ### C strings -/

theorem settles_ofCString {source : Bytes} (room : source.length ≤ Bytes.roomLimit) :
    (ofCString source).Settles bytes others := by
  refine settles_of_read (cString_length source) ?_ rfl
  exact ofBytes_eq (Nat.le_trans (length_untilNul_le source) room)

theorem settles_setCString {source : Bytes} (room : source.length ≤ Bytes.roomLimit) :
    (setCString source).Settles bytes others := by
  refine settles_of_read (cString_length source) ?_ rfl
  exact setBytes_eq (Nat.le_trans (length_untilNul_le source) room)

theorem settles_setCStringPrefix {source : Bytes} (room : source.length ≤ Bytes.roomLimit)
    (limit : Nat) : (setCStringPrefix source limit).Settles bytes others := by
  refine settles_of_read (cString_eq source limit) ?_ rfl
  apply setBytes_eq
  calc ((Bytes.untilNul source).take limit).length
      ≤ (Bytes.untilNul source).length := List.length_take_le' _ _
    _ ≤ source.length := length_untilNul_le source
    _ ≤ Bytes.roomLimit := room

/-! ## All commands -/

/-- The room for a new string is all that it needs; otherwise nothing is made. -/
theorem checked_withCapacity (capacity : Nat) (bytes others : Bytes) :
    (withCapacity capacity).checked (bytes ++ [0]) (others ++ [0]) =
      if (withCapacity capacity).demand bytes others ≤ Bytes.roomLimit then
        .ok (((withCapacity capacity).onBytes bytes others).1 ++ [0], others ++ [0])
      else .error .noRoom := by
  have demandEq : (withCapacity capacity).demand bytes others = max capacity 1 := rfl
  rw [demandEq, checked]
  split
  case isTrue beyond => rw [if_neg (Nat.not_le.mpr beyond)]
  case isFalse notBeyond =>
    have fits := Nat.not_lt.mp notBeyond
    rw [if_pos fits, onBytes, if_neg (by omega)]
    rfl

theorem settles {command : Command} (other : ∀ capacity, command ≠ withCapacity capacity)
    (holdable : command.IsHoldable) (room : bytes.length < Bytes.roomLimit)
    (otherRoom : others.length < Bytes.roomLimit) : command.Settles bytes others := by
  cases command with
  | withCapacity capacity => exact absurd rfl (other capacity)
  | take => exact settles_of_ok otherRoom rfl
  | swap => exact settles_of_ok otherRoom rfl
  | clear => exact settles_of_ok (by decide : ([] : Bytes).length < _) rfl
  | reserve capacity =>
    apply settles_of_ok
    · exact room
    · rw [checked, reserve_eq]
      rfl
  | copy => exact settles_of_hold rfl rfl
  | ofBytes source =>
    have sourceRoom := holdable source (List.mem_singleton_self _)
    exact settles_of_hold (ofBytes_eq sourceRoom) rfl
  | setBytes source =>
    have sourceRoom := holdable source (List.mem_singleton_self _)
    exact settles_of_hold (setBytes_eq sourceRoom) rfl
  | refill source => exact settles_of_hold (pushBytes_concat [] source) rfl
  | ofCString source => exact settles_ofCString (holdable source (List.mem_singleton_self _))
  | setCString source => exact settles_setCString (holdable source (List.mem_singleton_self _))
  | setCStringPrefix source limit =>
    exact settles_setCStringPrefix (holdable source (List.mem_singleton_self _)) limit
  | set => exact settles_of_read (content_concat others) (setBytes_eq (Nat.le_of_lt otherRoom)) rfl
  | setSubstring offset count => exact settles_of_hold (setSubstring_concat otherRoom _ _) rfl
  | setByte position byte => exact settles_of_hold (setByte_concat room position byte) rfl
  | pushByte byte => exact settles_of_hold (pushByte_concat bytes byte) rfl
  | pushBytes source => exact settles_of_hold (pushBytes_concat bytes source) rfl
  | pushCharacter character => exact settles_of_hold (pushBytes_concat bytes _) rfl
  | append => exact settles_of_read (content_concat others) (pushBytes_concat bytes others) rfl
  | appendCString source =>
    exact settles_of_read (cString_length source) (pushBytes_concat bytes _) rfl
  | left count => exact settles_of_hold (left_concat room count) rfl
  | right count => exact settles_of_hold (right_concat room count) rfl
  | middle position count => exact settles_of_hold (middle_concat room position count) rfl
  | trim removed => exact settles_of_hold (trim_concat room removed) rfl
  | trimWhitespace => exact settles_of_hold (trim_concat room whitespace) rfl
  | replaceRange position count replacement =>
    exact settles_of_hold (replaceRange_concat room position count replacement) rfl
  | replaceFirst needle replacement start =>
    exact settles_of_hold (replaceFirst_concat room replacement start) rfl
  | replaceAll needle replacement =>
    have replacementRoom := holdable replacement (by simp [sources])
    exact settles_of_hold (replaceAll_concat replacementRoom room) rfl
  | print format arguments => exact settles_print room format arguments
  | appendPrint format arguments => exact settles_appendPrint room format arguments
  | _ =>
    -- a question reads the string and changes nothing
    apply settles_of_ok
    · exact room
    · simp only [checked, content_concat, ok_bind, onBytes]

/--
A command comes to its end with what it means on plain bytes if there is room for that, and
otherwise stops for want of room and of nothing else.
-/
theorem checked_eq {command : Command} (holdable : command.IsHoldable)
    (room : bytes.length < Bytes.roomLimit) (otherRoom : others.length < Bytes.roomLimit) :
    command.checked (bytes ++ [0]) (others ++ [0]) =
      if command.demand bytes others ≤ Bytes.roomLimit then
        .ok ((command.onBytes bytes others).1 ++ [0], (command.onBytes bytes others).2 ++ [0])
      else .error .noRoom := by
  cases command with
  | withCapacity capacity => exact checked_withCapacity capacity bytes others
  | _ => exact settles (by simp) holdable room otherRoom

theorem onBytes_snd (command : Command) (bytes others : Bytes) :
    (command.onBytes bytes others).2 = others ∨ (command.onBytes bytes others).2 = bytes ∨
      (command.onBytes bytes others).2 = [] := by
  cases command <;> simp [onBytes]

theorem length_onBytes_snd_lt (command : Command) (room : bytes.length < Bytes.roomLimit)
    (otherRoom : others.length < Bytes.roomLimit) :
    (command.onBytes bytes others).2.length < Bytes.roomLimit := by
  rcases command.onBytes_snd bytes others with same | exchanged | emptied
  · rw [same]
    exact otherRoom
  · rw [exchanged]
    exact room
  · rw [emptied]
    decide

theorem length_onBytes_lt {command : Command}
    (fits : command.demand bytes others ≤ Bytes.roomLimit) :
    (command.onBytes bytes others).1.length < Bytes.roomLimit := by
  cases command with
  | withCapacity room =>
    have roomFits : room ≤ Bytes.roomLimit := Nat.le_trans (Nat.le_max_left _ _) fits
    rw [onBytes, if_neg (Nat.not_lt.mpr roomFits)]
    exact (by decide : 0 < Bytes.roomLimit)
  | _ => exact fits

end Command

end ByteString

end Rtos
