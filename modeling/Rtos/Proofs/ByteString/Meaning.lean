import Rtos.ByteString.Command
import Rtos.Proofs.ByteString.Content

/-!
# Commands on plain bytes

Every command on strings has a meaning on plain bytes, in which there are no buffers, no
terminators and no spans: bytes are dropped, taken, appended and joined. A command that
fails means nothing, and neither does a question.

`run_holds` is the one law of commands: strings that hold some bytes hold, after a
command, what the command means on these bytes.
-/

namespace Rtos

namespace ByteString

namespace Command

/-- What a command means on the bytes of its string and of the second one. -/
def onBytes (command : Command) (bytes others : Bytes) : Bytes × Bytes :=
  match command with
  | withCapacity room => (if Bytes.roomLimit < room then bytes else [], others)
  | ofBytes source => (source, others)
  | ofCString source => (Bytes.untilNul source, others)
  | copy => (others, others)
  | take => (others, [])
  | swap => (others, bytes)
  | clear => ([], others)
  | setBytes source => (source, others)
  | setCString source => (Bytes.untilNul source, others)
  | setCStringPrefix source limit => ((Bytes.untilNul source).take limit, others)
  | set => (others, others)
  | setSubstring offset count => ((others.drop offset).take count, others)
  | setByte position byte => (bytes.set position byte, others)
  | pushByte byte => (bytes ++ [byte], others)
  | pushBytes source => (bytes ++ source, others)
  | pushCharacter character => (bytes ++ Utf8.encode character, others)
  | append => (bytes ++ others, others)
  | appendCString source => (bytes ++ Bytes.untilNul source, others)
  | left count => (bytes.take count, others)
  | right count => (bytes.drop (bytes.length - count), others)
  | middle position count => ((bytes.drop position).take count, others)
  | trim removed => (Bytes.trimmed removed bytes, others)
  | trimWhitespace => (Bytes.trimmed whitespace bytes, others)
  | replaceRange position count replacement =>
      (if bytes.length < position then bytes
        else bytes.take position ++ replacement ++ bytes.drop (position + count), others)
  | replaceFirst needle replacement start =>
      (match Bytes.leastOccurrence? needle bytes start with
        | none => bytes
        | some offset =>
            bytes.take offset ++ replacement ++ bytes.drop (offset + needle.length), others)
  | replaceAll needle replacement =>
      (if needle = [] then bytes
        else replacement.intercalate (Bytes.partsBetween needle bytes), others)
  | print format arguments =>
      (match Format.print format arguments with
        | .ok output => output
        | .error _ => bytes, others)
  | appendPrint format arguments =>
      (match Format.print format arguments with
        | .ok output => bytes ++ output
        | .error _ => bytes, others)
  | refill source => (source, others)
  | _ => (bytes, others)

variable {string other : ByteString} {bytes others : Bytes}

/-- Both strings hold, after a command, what it means on the bytes that they held before. -/
def Follows (command : Command) (string other : ByteString) (bytes others : Bytes) : Prop :=
  (command.run string other).string.Holds (command.onBytes bytes others).1 ∧
    (command.run string other).other.Holds (command.onBytes bytes others).2

/-! ## Commands that may leave the string as it is -/

section MayFail

variable (holds : string.Holds bytes) (otherHolds : other.Holds others)
include holds otherHolds

theorem follows_withCapacity (room : Nat) :
    (withCapacity room).Follows string other bytes others := by
  simp only [Follows, run, onBytes]
  split
  · exact ⟨holds, otherHolds⟩
  · exact ⟨Holds.withCapacity room, otherHolds⟩

theorem follows_reserve (room : Nat) : (reserve room).Follows string other bytes others := by
  simp only [Follows, run, onBytes]
  cases reserved : string.reserve room with
  | ok next => exact ⟨holds.reserve reserved, otherHolds⟩
  | error error => exact ⟨holds, otherHolds⟩

theorem follows_setByte (position : Nat) (byte : UInt8) :
    (setByte position byte).Follows string other bytes others := by
  simp only [Follows, run, onBytes]
  rcases holds.setByte position byte with
    ⟨_, next, overwritten, nextHolds⟩ | ⟨outside, failed⟩
  · rw [overwritten]
    exact ⟨nextHolds, otherHolds⟩
  · rw [failed, List.set_eq_of_length_le outside]
    exact ⟨holds, otherHolds⟩

theorem follows_replaceRange (position count : Nat) (replacement : Bytes) :
    (replaceRange position count replacement).Follows string other bytes others := by
  simp only [Follows, run, onBytes]
  rcases holds.replaceRange position count replacement with
    ⟨inside, next, replaced, nextHolds⟩ | ⟨outside, failed⟩
  · rw [replaced, if_neg (Nat.not_lt.mpr inside)]
    exact ⟨nextHolds, otherHolds⟩
  · rw [failed, if_pos outside]
    exact ⟨holds, otherHolds⟩

theorem follows_replaceFirst (needle replacement : Bytes) (start : Nat) :
    (replaceFirst needle replacement start).Follows string other bytes others := by
  simp only [Follows, run, onBytes]
  cases least : Bytes.leastOccurrence? needle bytes start with
  | none =>
    rw [holds.replaceFirst_of_none least]
    exact ⟨holds, otherHolds⟩
  | some offset => exact ⟨(holds.replaceFirst_of_some least).1, otherHolds⟩

theorem follows_replaceAll (needle replacement : Bytes) :
    (replaceAll needle replacement).Follows string other bytes others := by
  simp only [Follows, run, onBytes]
  split
  case isTrue empty =>
    subst empty
    exact ⟨holds, otherHolds⟩
  case isFalse nonempty => exact ⟨(holds.replaceAll replacement nonempty).1, otherHolds⟩

theorem follows_print (format : Bytes) (arguments : List Format.Argument) :
    (print format arguments).Follows string other bytes others := by
  simp only [Follows, run, onBytes, ByteString.print]
  cases Format.print format arguments with
  | ok output => exact ⟨Holds.setBytes string output, otherHolds⟩
  | error failure => exact ⟨holds, otherHolds⟩

theorem follows_appendPrint (format : Bytes) (arguments : List Format.Argument) :
    (appendPrint format arguments).Follows string other bytes others := by
  simp only [Follows, run, onBytes, ByteString.appendPrint, ByteString.print]
  cases Format.print format arguments with
  | ok output => exact ⟨holds.append (Holds.setBytes ByteString.empty output), otherHolds⟩
  | error failure => exact ⟨holds, otherHolds⟩

end MayFail

/-! ## All commands -/

/-- Strings that hold some bytes hold after a command what it means on these bytes. -/
theorem run_holds (command : Command) (holds : string.Holds bytes)
    (otherHolds : other.Holds others) : command.Follows string other bytes others := by
  cases command with
  | withCapacity room => exact follows_withCapacity holds otherHolds room
  | ofBytes source => exact ⟨Holds.ofBytes source, otherHolds⟩
  | ofCString source => exact ⟨Holds.ofBytes _, otherHolds⟩
  | copy => exact ⟨otherHolds.copy, otherHolds⟩
  | take => exact ⟨otherHolds, Holds.empty⟩
  | swap => exact ⟨otherHolds, holds⟩
  | clear => exact ⟨Holds.clear string, otherHolds⟩
  | reserve room => exact follows_reserve holds otherHolds room
  | setBytes source => exact ⟨Holds.setBytes string source, otherHolds⟩
  | setCString source => exact ⟨Holds.setBytes string _, otherHolds⟩
  | setCStringPrefix source limit => exact ⟨Holds.setBytes string _, otherHolds⟩
  | set =>
    simp only [Follows, run, onBytes, otherHolds.content_eq]
    exact ⟨Holds.setBytes string others, otherHolds⟩
  | setSubstring offset count =>
    exact ⟨Holds.setSubstring string otherHolds offset count, otherHolds⟩
  | setByte position byte => exact follows_setByte holds otherHolds position byte
  | pushByte byte => exact ⟨holds.pushByte byte, otherHolds⟩
  | pushBytes source => exact ⟨holds.pushBytes source, otherHolds⟩
  | pushCharacter character => exact ⟨holds.pushBytes _, otherHolds⟩
  | append => exact ⟨holds.append otherHolds, otherHolds⟩
  | appendCString source => exact ⟨holds.pushBytes _, otherHolds⟩
  | left count => exact ⟨holds.left count, otherHolds⟩
  | right count => exact ⟨holds.right count, otherHolds⟩
  | middle position count => exact ⟨holds.middle position count, otherHolds⟩
  | trim removed => exact ⟨holds.trim removed, otherHolds⟩
  | trimWhitespace => exact ⟨holds.trim whitespace, otherHolds⟩
  | replaceRange position count replacement =>
    exact follows_replaceRange holds otherHolds position count replacement
  | replaceFirst needle replacement start =>
    exact follows_replaceFirst holds otherHolds needle replacement start
  | replaceAll needle replacement => exact follows_replaceAll holds otherHolds needle replacement
  | print format arguments => exact follows_print holds otherHolds format arguments
  | appendPrint format arguments => exact follows_appendPrint holds otherHolds format arguments
  | refill source => exact ⟨(Holds.clear string).pushBytes source, otherHolds⟩
  | _ => exact ⟨holds, otherHolds⟩

end Command

end ByteString

end Rtos
