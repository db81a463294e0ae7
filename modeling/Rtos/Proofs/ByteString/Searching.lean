import Mathlib.Algebra.Group.Nat.Defs
import Mathlib.Order.Bounds.Basic
import Rtos.ByteString.Command
import Rtos.Proofs.ByteString.Substitution

/-!
# Exact searches

A needle occurs at a position if it stands there and all of it is inside the sequence. The
searches from the front answer with the least such position at or behind a start, and the
search from the back answers with the greatest position at or before a limit. A search that
answers with nothing says that there is no such position at all. What else asks for an
occurrence agrees with them: the tests for a beginning and for an end, and the replacement
of the first occurrence.
-/

namespace Rtos

namespace Bytes

/-- A needle stands at a position, with all of its bytes inside the sequence. -/
def Occurs (needle bytes : Bytes) (position : Nat) : Prop :=
  (bytes.drop position).take needle.length = needle ∧ position + needle.length ≤ bytes.length

variable {haystack needle bytes : Bytes} {byte : UInt8} {start position : Nat}

/-! ## Searching from the front -/

theorem occurs_iff :
    Occurs needle bytes position ↔
      position ≤ bytes.length ∧ occursAt needle bytes position = true := by
  constructor
  · rintro ⟨stands, inside⟩
    refine ⟨by omega, ?_⟩
    apply List.isPrefixOf_iff_prefix.mpr
    exact List.prefix_iff_eq_take.mpr stands.symm
  · rintro ⟨inside, occurs⟩
    refine ⟨?_, add_length_le_of_occursAt inside occurs⟩
    exact (List.prefix_iff_eq_take.mp (List.isPrefixOf_iff_prefix.mp occurs)).symm

theorem find?_eq_some_iff :
    find? haystack needle start = some position ↔
      IsLeast {place | start ≤ place ∧ Occurs needle haystack place} position := by
  rw [find?_eq_leastOccurrence?, leastOccurrence?, List.find?_range'_eq_some, List.mem_range'_1]
  constructor
  · rintro ⟨occurs, ⟨behind, before⟩, first⟩
    refine ⟨⟨behind, occurs_iff.mpr ⟨by omega, occurs⟩⟩, ?_⟩
    rintro place ⟨placeBehind, placeOccurs⟩
    apply Nat.le_of_not_lt
    intro earlier
    have absent := first place placeBehind earlier
    rw [(occurs_iff.mp placeOccurs).2] at absent
    contradiction
  · rintro ⟨⟨behind, occurs⟩, least⟩
    rcases occurs_iff.mp occurs with ⟨inside, occursHere⟩
    refine ⟨occursHere, by omega, ?_⟩
    intro place placeBehind earlier
    rw [Bool.not_eq_true', ← Bool.not_eq_true]
    intro occursThere
    have later := least ⟨placeBehind, occurs_iff.mpr ⟨by omega, occursThere⟩⟩
    omega

theorem find?_eq_none_iff :
    find? haystack needle start = none ↔
      ∀ place, start ≤ place → ¬Occurs needle haystack place := by
  rw [find?_eq_leastOccurrence?, leastOccurrence?, List.find?_range'_eq_none]
  constructor
  · intro absent place behind occurs
    rcases occurs_iff.mp occurs with ⟨inside, occursHere⟩
    have absentHere := absent place behind (by omega)
    rw [occursHere] at absentHere
    contradiction
  · intro absent place behind before
    rw [Bool.not_eq_true', ← Bool.not_eq_true]
    intro occursHere
    exact absent place behind (occurs_iff.mpr ⟨by omega, occursHere⟩)

theorem find?_nil (haystack : Bytes) (start : Nat) :
    find? haystack [] start = if start ≤ haystack.length then some start else none := by
  rw [find?_eq_leastOccurrence?]
  split
  case isTrue inside => exact leastOccurrence?_nil inside
  case isFalse outside => exact leastOccurrence?_eq_none_of_lt [] (Nat.lt_of_not_le outside)

theorem occurrence?_singleton (byte : UInt8) (bytes : Bytes) :
    occurrence? [byte] bytes.length bytes = bytes.findIdx? (· == byte) := by
  induction bytes with
  | nil => rfl
  | cons first rest ih =>
      have same : [byte].isPrefixOf (first :: rest) = (first == byte) := by
        simp [List.isPrefixOf, Bool.beq_comm]
      rw [List.length_cons, occurrence?, same, List.tail_cons, ih, List.findIdx?_cons]

/-- Looking for one byte is looking for the needle that is this byte. -/
theorem findByte?_eq_find? (haystack : Bytes) (byte : UInt8) (start : Nat) :
    findByte? haystack byte start = find? haystack [byte] start := by
  have offsets : fittingOffsets [byte] haystack.length - start = (haystack.drop start).length := by
    simp [fittingOffsets]
  rw [findByte?, find?, offsets, occurrence?_singleton]

/-! ## Searching from the back -/

theorem lastOccurrence?_eq_none_iff :
    lastOccurrence? byte bytes = none ↔ ∀ place : Nat, bytes[place]? ≠ some byte := by
  induction bytes with
  | nil => simp [lastOccurrence?]
  | cons first rest ih =>
      have places : (∀ place : Nat, (first :: rest)[place]? ≠ some byte) ↔
          first ≠ byte ∧ ∀ place : Nat, rest[place]? ≠ some byte := by
        constructor
        · intro absent
          refine ⟨fun same => absent 0 (congrArg some same), ?_⟩
          intro place
          exact absent (place + 1)
        · rintro ⟨apart, absent⟩ place
          cases place with
          | zero => exact fun same => apart (Option.some.inj same)
          | succ place => exact absent place
      rw [places, ← ih, lastOccurrence?]
      cases lastOccurrence? byte rest <;> simp

theorem lastOccurrence?_eq_some_iff :
    lastOccurrence? byte bytes = some position ↔
      IsGreatest {place | bytes[place]? = some byte} position := by
  induction bytes generalizing position with
  | nil => simp [lastOccurrence?, IsGreatest]
  | cons first rest ih =>
      rw [lastOccurrence?]
      cases later : lastOccurrence? byte rest with
      | some offset =>
          rcases ih.mp later with ⟨here, greatest⟩
          have greatestOfAll :
              IsGreatest {place | (first :: rest)[place]? = some byte} (offset + 1) := by
            refine ⟨here, ?_⟩
            intro place placeHere
            cases place with
            | zero => exact Nat.zero_le _
            | succ place => exact Nat.succ_le_succ (greatest placeHere)
          constructor
          · intro same
            cases same
            exact greatestOfAll
          · intro other
            rw [other.unique greatestOfAll]
      | none =>
          have absent := lastOccurrence?_eq_none_iff.mp later
          have onlyFirst : ∀ place : Nat, (first :: rest)[place]? = some byte → place = 0 := by
            intro place placeHere
            cases place with
            | zero => rfl
            | succ place => exact absurd placeHere (absent place)
          simp only [beq_iff_eq, Option.ite_none_right_eq_some, Option.some.injEq]
          constructor
          · rintro ⟨rfl, rfl⟩
            refine ⟨rfl, ?_⟩
            intro place placeHere
            exact Nat.le_of_eq (onlyFirst place placeHere)
          · rintro ⟨here, _⟩
            cases onlyFirst position here
            exact ⟨Option.some.inj here, rfl⟩

theorem getElem?_take_succ_eq_some_iff {last : Nat} :
    (bytes.take (last + 1))[position]? = some byte ↔
      position ≤ last ∧ bytes[position]? = some byte := by
  rw [List.getElem?_take, Option.ite_none_right_eq_some, Nat.lt_succ_iff]

theorem findByteLast?_eq_some_iff {limit : Option Nat} :
    findByteLast? haystack byte limit = some position ↔
      IsGreatest {place | (∀ last ∈ limit, place ≤ last) ∧ haystack[place]? = some byte}
        position := by
  cases limit with
  | none => simp [findByteLast?, lastOccurrence?_eq_some_iff]
  | some last => simp [findByteLast?, lastOccurrence?_eq_some_iff, getElem?_take_succ_eq_some_iff]

theorem findByteLast?_eq_none_iff {limit : Option Nat} :
    findByteLast? haystack byte limit = none ↔
      ∀ place, (∀ last ∈ limit, place ≤ last) → haystack[place]? ≠ some byte := by
  cases limit with
  | none => simp [findByteLast?, lastOccurrence?_eq_none_iff]
  | some last => simp [findByteLast?, lastOccurrence?_eq_none_iff, getElem?_take_succ_eq_some_iff]

/-- A limit at the end or behind it is none. -/
theorem findByteLast?_of_length_le {last : Nat} (byte : UInt8)
    (behind : haystack.length ≤ last + 1) :
    findByteLast? haystack byte (some last) = findByteLast? haystack byte none := by
  rw [findByteLast?, findByteLast?, List.take_of_length_le behind]

/-! ## Beginnings and ends -/

theorem isPrefixOf_iff_find? :
    needle.isPrefixOf haystack = true ↔ find? haystack needle 0 = some 0 := by
  rw [find?_eq_some_iff]
  constructor
  · intro begins
    refine ⟨⟨Nat.le_refl 0, occurs_iff.mpr ⟨Nat.zero_le _, begins⟩⟩, ?_⟩
    intro place _
    exact Nat.zero_le place
  · rintro ⟨⟨_, occurs⟩, _⟩
    exact (occurs_iff.mp occurs).2

theorem isSuffixOf_iff_find? :
    needle.isSuffixOf haystack = true ↔
      needle.length ≤ haystack.length ∧
        find? haystack needle (haystack.length - needle.length) =
          some (haystack.length - needle.length) := by
  rw [List.isSuffixOf_iff_suffix, find?_eq_some_iff]
  constructor
  · intro ends
    have fits := ends.length_le
    refine ⟨fits, ⟨Nat.le_refl _, ?_, by omega⟩, fun place places => places.1⟩
    rw [← List.suffix_iff_eq_drop.mp ends, List.take_length]
  · rintro ⟨fits, ⟨_, stands, _⟩, _⟩
    have whole : (haystack.drop (haystack.length - needle.length)).length ≤ needle.length := by
      rw [List.length_drop]
      omega
    rw [List.take_of_length_le whole] at stands
    exact List.suffix_iff_eq_drop.mpr stands.symm

end Bytes

namespace ByteString

open Bytes

/-- All searches in some bytes, for a needle, a byte, a start and a limit, mean the same. -/
structure SearchesExactly (string : ByteString) (haystack needle replacement : Bytes)
    (byte : UInt8) (start : Nat) (limit : Option Nat) : Prop where
  /-- The string is asked about its bytes, and stays as it is. -/
  answers : ∀ other,
    (Command.find needle start).run string other =
        .answered string other (.offset (find? haystack needle start)) ∧
      (Command.findByte byte start).run string other =
        .answered string other (.offset (findByte? haystack byte start)) ∧
      (Command.findByteLast byte limit).run string other =
        .answered string other (.offset (findByteLast? haystack byte limit))
  /-- The search for a needle finds the least position at which the needle occurs. -/
  find_some : ∀ position, find? haystack needle start = some position ↔
    IsLeast {place | start ≤ place ∧ Occurs needle haystack place} position
  find_none : find? haystack needle start = none ↔
    ∀ place, start ≤ place → ¬Occurs needle haystack place
  find_empty : find? haystack [] start = if start ≤ haystack.length then some start else none
  findByte : findByte? haystack byte start = find? haystack [byte] start
  /-- The search from the back finds the greatest position up to the limit. -/
  findLast_some : ∀ position, findByteLast? haystack byte limit = some position ↔
    IsGreatest {place | (∀ last ∈ limit, place ≤ last) ∧ haystack[place]? = some byte}
      position
  findLast_none : findByteLast? haystack byte limit = none ↔
    ∀ place, (∀ last ∈ limit, place ≤ last) → haystack[place]? ≠ some byte
  /-- A limit at the end of the bytes or behind it changes nothing. -/
  findLast_behind : ∀ last, haystack.length ≤ last + 1 →
    findByteLast? haystack byte (some last) = findByteLast? haystack byte none
  startsWith : ∀ other, ((Command.startsWith needle).run string other).reply =
    .truth (decide (find? haystack needle 0 = some 0))
  endsWith : ∀ other, ((Command.endsWith needle).run string other).reply =
    .truth (decide (needle.length ≤ haystack.length ∧
      find? haystack needle (haystack.length - needle.length) =
        some (haystack.length - needle.length)))
  /-- The replacement of the first occurrence answers where that was. -/
  replaceFirst : (string.replaceFirst needle replacement start).2 = find? haystack needle start
  replaceFirst_none : find? haystack needle start = none →
    (string.replaceFirst needle replacement start).1 = string
  /-- The bytes of the first occurrence are exchanged, and no others. -/
  replaceFirst_some : ∀ position, find? haystack needle start = some position →
    ∃ before after, haystack = before ++ needle ++ after ∧ before.length = position ∧
      (string.replaceFirst needle replacement start).1.Holds (before ++ replacement ++ after)

/--
The searches are exact, wherever they start and however far behind the end that is, and the
other operations that ask for an occurrence agree with them.
-/
theorem searches_agree {string : ByteString} {haystack : Bytes} (holds : string.Holds haystack)
    (needle replacement : Bytes) (byte : UInt8) (start : Nat) (limit : Option Nat) :
    SearchesExactly string haystack needle replacement byte start limit where
  answers other := by
    rw [Command.run, Command.run, Command.run, holds.content_eq]
    exact ⟨rfl, rfl, rfl⟩
  find_some _ := find?_eq_some_iff
  find_none := find?_eq_none_iff
  find_empty := find?_nil haystack start
  findByte := findByte?_eq_find? haystack byte start
  findLast_some _ := findByteLast?_eq_some_iff
  findLast_none := findByteLast?_eq_none_iff
  findLast_behind _ := findByteLast?_of_length_le byte
  startsWith other := by
    rw [Command.run, holds.content_eq]
    apply congrArg Reply.truth
    apply Bool.eq_iff_iff.mpr
    exact isPrefixOf_iff_find?.trans decide_eq_true_iff.symm
  endsWith other := by
    rw [Command.run, holds.content_eq]
    apply congrArg Reply.truth
    apply Bool.eq_iff_iff.mpr
    exact isSuffixOf_iff_find?.trans decide_eq_true_iff.symm
  replaceFirst := by
    rw [find?_eq_leastOccurrence?]
    cases least : leastOccurrence? needle haystack start with
    | none => rw [holds.replaceFirst_of_none least]
    | some position => exact (holds.replaceFirst_of_some least).2
  replaceFirst_none := by
    intro absent
    rw [find?_eq_leastOccurrence?] at absent
    rw [holds.replaceFirst_of_none absent]
  replaceFirst_some := by
    intro position found
    have occurs := (find?_eq_some_iff.mp found).1.2
    have inside := (find?_bounds found).2
    rw [find?_eq_leastOccurrence?] at found
    refine ⟨haystack.take position, haystack.drop (position + needle.length), ?_, ?_, ?_⟩
    · exact eq_of_occursAt (occurs_iff.mp occurs).2
    · exact List.length_take_of_le (by omega)
    · exact (holds.replaceFirst_of_some found).1

/-- A start as far behind the end as a word can be finds nothing, and such a limit is none. -/
theorem searches_agree_farBehind :
    (ofBytes [97, 98, 97]).Holds [97, 98, 97] ∧
      SearchesExactly (ofBytes [97, 98, 97]) [97, 98, 97] [97] [0, 0] 97 (2 ^ 64 - 1)
        (some (2 ^ 64 - 1)) := by
  have holds := Holds.ofBytes [97, 98, 97]
  exact ⟨holds, searches_agree holds [97] [0, 0] 97 (2 ^ 64 - 1) (some (2 ^ 64 - 1))⟩

end ByteString

end Rtos
