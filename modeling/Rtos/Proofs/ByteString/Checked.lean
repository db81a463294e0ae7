import Rtos.ByteString.Text
import Rtos.Proofs.ByteString.Content

/-!
# Edits with checked positions

The edits once more, the way a machine carries them out on the bare buffer. Positions are
words of 64 bits: a sum or a difference that is no word stops the program, and so does a
position outside of the bytes that it is used on. A buffer for which there is no room stops
the program too, and that is a stop of its own.

Each edit is computed here on a buffer with its terminator. The edits that do not grow a
buffer always come to their end, and the others do so if there is room for the result
(`hold`). No sum wraps, because each has two summands for which there is room.
-/

namespace Rtos

namespace ByteString

/-- Why an edit stops the program. -/
inductive Stop where
  /-- A position lies outside of the bytes that it is used on. -/
  | outOfRange
  /-- A sum or a difference of positions is no word. -/
  | wrapped
  /-- There is no room for so many bytes. -/
  | noRoom
  deriving DecidableEq

namespace Checked

/-- The number of words. -/
def wordCount : Nat := Nat.pow 2 64

/-- The sum of two positions. -/
def add (left right : Nat) : Except Stop Nat :=
  if left + right < wordCount then .ok (left + right) else .error .wrapped

/-- The difference of two positions. -/
def sub (left right : Nat) : Except Stop Nat :=
  if right ≤ left then .ok (left - right) else .error .wrapped

/-- The bytes from one position up to another. -/
def slice (bytes : Bytes) (start stop : Nat) : Except Stop Bytes :=
  if start ≤ stop ∧ stop ≤ bytes.length then .ok ((bytes.take stop).drop start)
  else .error .outOfRange

/-- The bytes with another one at a position. -/
def write (bytes : Bytes) (position : Nat) (byte : UInt8) : Except Stop Bytes :=
  if position < bytes.length then .ok (bytes.set position byte) else .error .outOfRange

/-- Bytes in a buffer, if there is room for them. -/
def hold (bytes : Bytes) : Except Stop Bytes :=
  if bytes.length ≤ Bytes.roomLimit then .ok bytes else .error .noRoom

/-- A buffer with more bytes at its end. -/
def extend (buffer more : Bytes) : Except Stop Bytes :=
  hold (buffer ++ more)

/-- A buffer without the bytes in front of a position. -/
def drain (buffer : Bytes) (stop : Nat) : Except Stop Bytes :=
  if stop ≤ buffer.length then .ok (buffer.drop stop) else .error .outOfRange

/-- A buffer with other bytes in the place of those from one position up to another. -/
def exchange (buffer : Bytes) (start stop : Nat) (replacement : Bytes) : Except Stop Bytes :=
  if start ≤ stop ∧ stop ≤ buffer.length then
    hold (buffer.take start ++ replacement ++ buffer.drop stop)
  else .error .outOfRange

/-! ## The edits -/

/-- The number of bytes in front of the terminator. -/
def size (buffer : Bytes) : Except Stop Nat :=
  sub buffer.length 1

/-- The bytes in front of the terminator. -/
def content (buffer : Bytes) : Except Stop Bytes := do
  slice buffer 0 (← size buffer)

/-- The C string at the start of the bytes, of which at most so many are taken. -/
def cString (bytes : Bytes) (limit : Nat) : Except Stop Bytes :=
  slice bytes 0 (min (bytes.findIdx (· == 0)) limit)

def pushBytes (buffer more : Bytes) : Except Stop Bytes := do
  extend (← extend buffer.dropLast more) [0]

def ofBytes (bytes : Bytes) : Except Stop Bytes := do
  let _ ← add bytes.length 1
  pushBytes [0] bytes

def reserve (buffer : Bytes) (room : Nat) : Except Stop Bytes := do
  let _ ← sub (max room buffer.length) buffer.length
  .ok buffer

def setBytes (bytes : Bytes) : Except Stop Bytes := do
  let _ ← add bytes.length 1
  extend (← extend [] bytes) [0]

def setSubstring (source : Bytes) (offset count : Nat) : Except Stop Bytes := do
  let bytes ← content source
  let start := min offset bytes.length
  let stop ← add start (min count (← sub bytes.length start))
  setBytes (← slice bytes start stop)

def setByte (buffer : Bytes) (position : Nat) (byte : UInt8) : Except Stop Bytes := do
  if (← size buffer) ≤ position then .ok buffer else write buffer position byte

def pushByte (buffer : Bytes) (byte : UInt8) : Except Stop Bytes := do
  extend (← write buffer (← sub buffer.length 1) byte) [0]

def left (buffer : Bytes) (count : Nat) : Except Stop Bytes := do
  if count < (← size buffer) then extend (buffer.take count) [0] else .ok buffer

def right (buffer : Bytes) (count : Nat) : Except Stop Bytes := do
  let length ← size buffer
  if count < length then drain buffer (← sub length count) else .ok buffer

def middle (buffer : Bytes) (position count : Nat) : Except Stop Bytes := do
  let length ← size buffer
  let start := min position length
  let stop ← add start (min count (← sub length start))
  extend (← drain (buffer.take stop) start) [0]

/-- The position behind the last byte that a test leaves, or a given one if it leaves none. -/
def behindLast (test : UInt8 → Bool) (bytes : Bytes) (otherwise : Nat) : Except Stop Nat :=
  match bytes.reverse.findIdx? (fun byte => !test byte) with
  | none => .ok otherwise
  | some fromEnd => add (bytes.length - 1 - fromEnd) 1

def trim (buffer set : Bytes) : Except Stop Bytes := do
  let bytes ← content buffer
  let start := bytes.findIdx (fun byte => !set.contains byte)
  let stop ← behindLast (set.contains ·) bytes start
  middle buffer start (← sub stop start)

def replaceRange (buffer : Bytes) (position count : Nat) (replacement : Bytes) :
    Except Stop Bytes := do
  let length ← size buffer
  if length < position then .ok buffer
  else
    let stop ← add position (min count (← sub length position))
    exchange buffer position stop replacement

/-- The offset of the first occurrence of a needle at or after a starting offset. -/
def find (bytes needle : Bytes) (start : Nat) : Except Stop (Option Nat) := do
  if bytes.length < start then .ok none
  else if needle = [] then .ok (some start)
  else
    match Bytes.leastOccurrence? needle (← slice bytes start bytes.length) 0 with
    | none => .ok none
    | some offset => .ok (some (← add start offset))

def replaceFirst (buffer needle replacement : Bytes) (start : Nat) : Except Stop Bytes := do
  match ← find (← content buffer) needle start with
  | none => .ok buffer
  | some offset => exchange buffer offset (← add offset needle.length) replacement

/--
Replaces the occurrences behind a position in the buffer itself, at most so many, and
counts them. The search goes on behind the bytes that were put in.
-/
def replaceBehind (needle replacement : Bytes) :
    Nat → Bytes → Nat → Nat → Except Stop (Bytes × Nat)
  | 0, buffer, _, count => .ok (buffer, count)
  | rounds + 1, buffer, start, count => do
      match ← find (← content buffer) needle start with
      | none => .ok (buffer, count)
      | some offset =>
          let next ← exchange buffer offset (← add offset needle.length) replacement
          replaceBehind needle replacement rounds next (← add offset replacement.length)
            (← add count 1)

def replaceAll (buffer needle replacement : Bytes) : Except Stop Bytes := do
  if needle = [] then .ok buffer
  else
    let (next, _) ← replaceBehind needle replacement buffer.length buffer 0 0
    .ok next

/-! ## Single steps -/

variable {bytes : Bytes}

@[simp]
theorem ok_bind {α β : Type} (value : α) (next : α → Except Stop β) :
    (Except.ok value >>= next) = next value := rfl

theorem add_of_room {left right : Nat} (leftRoom : left ≤ Bytes.roomLimit)
    (rightRoom : right ≤ Bytes.roomLimit) : add left right = .ok (left + right) := by
  have twice : Bytes.roomLimit + Bytes.roomLimit < wordCount := by decide
  exact if_pos (by omega)

theorem sub_of_le {left right : Nat} (le : right ≤ left) :
    sub left right = .ok (left - right) :=
  if_pos le

theorem hold_of_room (room : bytes.length ≤ Bytes.roomLimit) : hold bytes = .ok bytes :=
  if_pos room

@[simp]
theorem size_concat (bytes : Bytes) : size (bytes ++ [0]) = .ok bytes.length := by
  rw [size, List.length_append, List.length_singleton, sub_of_le (Nat.le_add_left _ _),
    Nat.add_sub_cancel]

@[simp]
theorem content_concat (bytes : Bytes) : content (bytes ++ [0]) = .ok bytes := by
  rw [content, size_concat, ok_bind, slice, if_pos (by simp), List.take_left, List.drop_zero]

theorem extend_extend (buffer more : Bytes) (byte : UInt8) :
    (do extend (← extend buffer more) [byte]) = hold (buffer ++ more ++ [byte]) := by
  rw [extend, hold]
  split
  · rfl
  case isFalse full =>
    rw [hold, if_neg]
    · rfl
    · rw [List.length_append]
      exact fun room => full (Nat.le_of_add_right_le room)

/-- A buffer that did not grow is one for which there is room. -/
theorem ok_eq_hold {shorter : Bytes} (room : bytes.length < Bytes.roomLimit)
    (le : shorter.length ≤ bytes.length) : .ok (shorter ++ [0]) = hold (shorter ++ [0]) := by
  rw [hold_of_room]
  rw [List.length_append, List.length_singleton]
  exact Nat.le_trans (Nat.succ_le_succ le) room

theorem findIdx_not_eq (test : UInt8 → Bool) (bytes : Bytes) :
    bytes.findIdx (fun byte => !test byte) = (bytes.takeWhile test).length := by
  rw [List.takeWhile_eq_take_findIdx_not, List.length_take, Nat.min_eq_left]
  exact List.findIdx_le_length

/-! ## Whole edits -/

theorem pushBytes_concat (bytes more : Bytes) :
    pushBytes (bytes ++ [0]) more = hold (bytes ++ more ++ [0]) := by
  rw [pushBytes, List.dropLast_concat, extend_extend]

theorem ofBytes_eq (room : bytes.length ≤ Bytes.roomLimit) :
    ofBytes bytes = hold (bytes ++ [0]) := by
  rw [ofBytes, add_of_room room (by decide), ok_bind]
  exact pushBytes_concat [] bytes

theorem setBytes_eq (room : bytes.length ≤ Bytes.roomLimit) :
    setBytes bytes = hold (bytes ++ [0]) := by
  rw [setBytes, add_of_room room (by decide), ok_bind, extend_extend, List.nil_append]

theorem cString_eq (bytes : Bytes) (limit : Nat) :
    cString bytes limit = .ok ((Bytes.untilNul bytes).take limit) := by
  have untilNul : Bytes.untilNul bytes = bytes.take (bytes.findIdx (· == 0)) := by
    rw [Bytes.untilNul, List.takeWhile_eq_take_findIdx_not]
    simp only [bne, Bool.not_not]
  have bounded : bytes.findIdx (· == 0) ≤ bytes.length := List.findIdx_le_length
  rw [cString, slice, if_pos ⟨Nat.zero_le _, by omega⟩, List.drop_zero, untilNul,
    List.take_take,
    Nat.min_comm]

theorem reserve_eq (buffer : Bytes) (room : Nat) : reserve buffer room = .ok buffer := by
  rw [reserve, sub_of_le (Nat.le_max_right _ _), ok_bind]

theorem setSubstring_concat (room : bytes.length < Bytes.roomLimit) (offset count : Nat) :
    setSubstring (bytes ++ [0]) offset count = hold ((bytes.drop offset).take count ++ [0]) := by
  have startLe : min offset bytes.length ≤ bytes.length := Nat.min_le_right _ _
  simp only [setSubstring, content_concat, ok_bind]
  rw [sub_of_le startLe, ok_bind, add_of_room (by omega) (by omega), ok_bind, slice,
    if_pos (by omega), ok_bind, ← Bytes.drop_take_clamp]
  apply setBytes_eq
  rw [List.length_drop, List.length_take]
  omega

theorem setByte_concat (room : bytes.length < Bytes.roomLimit) (position : Nat) (byte : UInt8) :
    setByte (bytes ++ [0]) position byte = hold (bytes.set position byte ++ [0]) := by
  rw [setByte, size_concat, ok_bind, ← ok_eq_hold room (Nat.le_of_eq List.length_set)]
  split
  case isTrue outside => rw [List.set_eq_of_length_le outside]
  case isFalse inside =>
    rw [Nat.not_le] at inside
    rw [write, if_pos (by rw [List.length_append]; omega), List.set_append_left _ _ inside]

theorem pushByte_concat (bytes : Bytes) (byte : UInt8) :
    pushByte (bytes ++ [0]) byte = hold (bytes ++ [byte] ++ [0]) := by
  rw [pushByte, List.length_append, List.length_singleton, sub_of_le (Nat.le_add_left _ _),
    ok_bind, Nat.add_sub_cancel, write, if_pos (by simp), ok_bind,
    List.set_append_right _ _ (Nat.le_refl _), Nat.sub_self]
  rfl

theorem left_concat (room : bytes.length < Bytes.roomLimit) (count : Nat) :
    left (bytes ++ [0]) count = hold (bytes.take count ++ [0]) := by
  rw [left, size_concat, ok_bind]
  split
  case isTrue shorter =>
    rw [List.take_append_of_le_length (Nat.le_of_lt shorter), extend]
  case isFalse notShorter =>
    rw [List.take_of_length_le (Nat.not_lt.mp notShorter), ok_eq_hold room (Nat.le_refl _)]

theorem right_concat (room : bytes.length < Bytes.roomLimit) (count : Nat) :
    right (bytes ++ [0]) count = hold (bytes.drop (bytes.length - count) ++ [0]) := by
  rw [right, size_concat, ok_bind,
    ← ok_eq_hold room (by rw [List.length_drop]; exact Nat.sub_le _ _)]
  split
  case isTrue shorter =>
    rw [sub_of_le (Nat.le_of_lt shorter), ok_bind, drain,
      if_pos (by rw [List.length_append]; omega),
      List.drop_append_of_le_length (Nat.sub_le _ _)]
  case isFalse notShorter =>
    rw [Nat.sub_eq_zero_of_le (Nat.not_lt.mp notShorter), List.drop_zero]

theorem middle_concat (room : bytes.length < Bytes.roomLimit) (position count : Nat) :
    middle (bytes ++ [0]) position count = hold ((bytes.drop position).take count ++ [0]) := by
  have startLe : min position bytes.length ≤ bytes.length := Nat.min_le_right _ _
  simp only [middle, size_concat, ok_bind]
  rw [sub_of_le startLe, ok_bind, add_of_room (by omega) (by omega), ok_bind,
    List.take_append_of_le_length (by omega), drain, if_pos (by rw [List.length_take]; omega),
    ok_bind, extend, ← Bytes.drop_take_clamp]
  rfl

theorem replaceRange_concat (room : bytes.length < Bytes.roomLimit) (position count : Nat)
    (replacement : Bytes) :
    replaceRange (bytes ++ [0]) position count replacement =
      hold ((if bytes.length < position then bytes
        else bytes.take position ++ replacement ++ bytes.drop (position + count)) ++ [0]) := by
  rw [replaceRange, size_concat, ok_bind]
  split
  case isTrue outside => exact ok_eq_hold room (Nat.le_refl _)
  case isFalse notOutside =>
    have inside := Nat.not_lt.mp notOutside
    rw [sub_of_le inside, ok_bind, add_of_room (by omega) (by omega), ok_bind, exchange,
      if_pos (by rw [List.length_append]; omega), List.take_append_of_le_length inside,
      List.drop_append_of_le_length (by omega), ← List.length_drop, ← List.drop_drop,
      Bytes.drop_min_length, List.drop_drop]
    simp only [List.append_assoc]

theorem behindLast_eq (test : UInt8 → Bool) (room : bytes.length < Bytes.roomLimit)
    (otherwise : Nat) :
    behindLast test bytes otherwise =
      .ok (if (bytes.reverse.takeWhile test).length = bytes.length then otherwise
        else bytes.length - (bytes.reverse.takeWhile test).length) := by
  have bounded : (bytes.reverse.takeWhile test).length ≤ bytes.reverse.length :=
    (List.takeWhile_prefix test).length_le
  rw [List.length_reverse] at bounded
  have index : bytes.reverse.findIdx? (fun byte => !test byte) =
      Option.guard (· < bytes.length) (bytes.reverse.takeWhile test).length := by
    rw [List.findIdx?_eq_guard_findIdx_lt, findIdx_not_eq, List.length_reverse]
  rw [behindLast, index]
  by_cases all : (bytes.reverse.takeWhile test).length = bytes.length
  · rw [if_pos all, all]
    simp [Option.guard]
  · have some : (bytes.reverse.takeWhile test).length < bytes.length := by omega
    rw [if_neg all]
    simp only [Option.guard, some, decide_true, if_true]
    rw [add_of_room (by omega) (by decide)]
    congr 1
    omega

theorem trim_concat (room : bytes.length < Bytes.roomLimit) (set : Bytes) :
    trim (bytes ++ [0]) set = hold (Bytes.trimmed set bytes ++ [0]) := by
  have kept (count : Nat) : middle (bytes ++ [0])
      (bytes.takeWhile (set.contains ·)).length count =
        hold ((bytes.dropWhile (set.contains ·)).take count ++ [0]) := by
    rw [middle_concat room, Bytes.drop_length_takeWhile]
  simp only [trim, content_concat, ok_bind, findIdx_not_eq, behindLast_eq _ room]
  rw [Bytes.trimmed_eq_take]
  split
  case isTrue all =>
    rw [sub_of_le (Nat.le_refl _), ok_bind, kept, all, Nat.sub_self, Nat.sub_self, Nat.max_zero,
      Nat.sub_self]
  case isFalse stays =>
    have apart := Nat.le_sub_of_add_le (Bytes.leading_add_trailing_le stays)
    rw [sub_of_le apart, ok_bind, kept, Nat.max_eq_right apart]

theorem find_eq (room : bytes.length < Bytes.roomLimit) (needle : Bytes) (start : Nat) :
    find bytes needle start = .ok (Bytes.leastOccurrence? needle bytes start) := by
  rw [find]
  split
  case isTrue beyond => rw [Bytes.leastOccurrence?_eq_none_of_lt needle beyond]
  case isFalse notBeyond =>
    have inside := Nat.not_lt.mp notBeyond
    split
    case isTrue empty => rw [empty, Bytes.leastOccurrence?_nil inside]
    case isFalse nonempty =>
      rw [slice, if_pos ⟨inside, Nat.le_refl _⟩, ok_bind, List.take_length,
        ← Bytes.leastOccurrence?_drop needle inside]
      cases least : Bytes.leastOccurrence? needle (bytes.drop start) 0 with
      | none => rfl
      | some offset =>
        have bounds := (Bytes.leastOccurrence?_bounds least).2
        rw [List.length_drop] at bounds
        simp only [add_of_room (show start ≤ Bytes.roomLimit by omega)
          (show offset ≤ Bytes.roomLimit by omega), ok_bind, Option.map_some]

theorem exchange_concat {offset count : Nat} (inside : offset + count ≤ bytes.length)
    (replacement : Bytes) :
    exchange (bytes ++ [0]) offset (offset + count) replacement =
      hold (bytes.take offset ++ replacement ++ bytes.drop (offset + count) ++ [0]) := by
  rw [exchange, if_pos (by rw [List.length_append]; omega),
    List.take_append_of_le_length (by omega), List.drop_append_of_le_length inside]
  simp only [List.append_assoc]

theorem replaceFirst_concat (room : bytes.length < Bytes.roomLimit) {needle : Bytes}
    (replacement : Bytes) (start : Nat) :
    replaceFirst (bytes ++ [0]) needle replacement start =
      hold ((match Bytes.leastOccurrence? needle bytes start with
        | none => bytes
        | some offset =>
            bytes.take offset ++ replacement ++ bytes.drop (offset + needle.length)) ++ [0]) := by
  rw [replaceFirst, content_concat, ok_bind, find_eq room, ok_bind]
  cases least : Bytes.leastOccurrence? needle bytes start with
  | none => exact ok_eq_hold room (Nat.le_refl _)
  | some offset =>
    have bounds := (Bytes.leastOccurrence?_bounds least).2
    simp only [add_of_room (show offset ≤ Bytes.roomLimit by omega)
      (show needle.length ≤ Bytes.roomLimit by omega), ok_bind]
    exact exchange_concat bounds replacement

/--
The loop puts the replacement between the parts of what stands behind the position. What is
in front of the position stays, and every pass leaves less behind it.
-/
theorem replaceBehind_concat {needle replacement : Bytes} (nonempty : needle ≠ [])
    (replacementRoom : replacement.length ≤ Bytes.roomLimit) (rounds : Nat) (done : Bytes)
    {rest : Bytes} {count : Nat} (enough : rest.length < rounds)
    (room : (done ++ rest).length < Bytes.roomLimit)
    (countRoom : count + rest.length ≤ Bytes.roomLimit) :
    (replaceBehind needle replacement rounds (done ++ rest ++ [0]) done.length count).map (·.1) =
      hold (done ++ replacement.intercalate (Bytes.partsBetween needle rest) ++ [0]) := by
  have positive := List.length_pos_iff.mpr nonempty
  induction rounds generalizing done rest count with
  | zero => exact absurd enough (Nat.not_lt_zero _)
  | succ rounds ih =>
    have inside : done.length ≤ (done ++ rest).length := by
      rw [List.length_append]
      exact Nat.le_add_right _ _
    rw [replaceBehind, content_concat, ok_bind, find_eq room, ok_bind,
      ← Bytes.leastOccurrence?_drop needle inside, List.drop_left]
    rw [List.length_append] at room
    cases least : Bytes.leastOccurrence? needle rest 0 with
    | none =>
      rw [Bytes.partsBetween_of_leastOccurrence?_eq_none least]
      simp only [Option.map_none, List.intercalate_singleton]
      rw [hold_of_room (by simp only [List.length_append, List.length_singleton]; omega)]
      rfl
    | some offset =>
      have bounds := (Bytes.leastOccurrence?_bounds least).2
      have others := Bytes.partsBetween_ne_nil needle (rest.drop (offset + needle.length))
      have replaced : exchange (done ++ rest ++ [0]) (done.length + offset)
          (done.length + offset + needle.length) replacement =
          hold (done ++ rest.take offset ++ replacement ++
            rest.drop (offset + needle.length) ++ [0]) := by
        rw [exchange_concat (by rw [List.length_append]; omega), List.take_length_add_append,
          Nat.add_assoc, List.drop_length_add_append]
      have front : (done ++ rest.take offset ++ replacement).length =
          done.length + offset + replacement.length := by
        simp only [List.length_append, List.length_take]
        omega
      have behind : (rest.drop (offset + needle.length)).length =
          rest.length - (offset + needle.length) := List.length_drop
      simp only [Option.map_some]
      rw [add_of_room (by omega) (by omega), ok_bind, replaced,
        Bytes.partsBetween_of_leastOccurrence? nonempty least, Bytes.intercalate_cons _ _ others]
      simp only [← List.append_assoc]
      by_cases fits : (done ++ rest.take offset ++ replacement ++
          rest.drop (offset + needle.length) ++ [0]).length ≤ Bytes.roomLimit
      · rw [hold_of_room fits, ok_bind, add_of_room (by omega) replacementRoom, ok_bind,
          add_of_room (by omega) (by decide), ok_bind, ← front]
        rw [List.length_append, List.length_singleton] at fits
        exact ih _ (by omega) (Nat.lt_of_succ_le fits) (by omega)
      -- What does not fit has a replacement longer than the needle, and nothing makes up for it.
      · have grown := Bytes.length_le_intercalate nonempty replacement
          (by simp only [List.length_append, List.length_singleton] at fits front; omega) 0
          (rest.drop (offset + needle.length))
        rw [hold, if_neg fits, hold, if_neg]
        · rfl
        · rw [Bytes.partsFrom_eq_drop, List.drop_zero] at grown
          rw [List.length_append, List.length_append] at fits ⊢
          omega

theorem replaceAll_concat {needle replacement : Bytes}
    (replacementRoom : replacement.length ≤ Bytes.roomLimit)
    (room : bytes.length < Bytes.roomLimit) :
    replaceAll (bytes ++ [0]) needle replacement =
      hold ((if needle = [] then bytes
        else replacement.intercalate (Bytes.partsBetween needle bytes)) ++ [0]) := by
  rw [replaceAll]
  split
  case isTrue empty => exact ok_eq_hold room (Nat.le_refl _)
  case isFalse nonempty =>
    have enough : bytes.length < (bytes ++ [0]).length := by simp
    have replaced := replaceBehind_concat nonempty replacementRoom (bytes ++ [0]).length []
      enough room (Nat.le_of_lt (Nat.lt_of_le_of_lt (Nat.zero_add _).le room))
    rw [List.nil_append, List.nil_append] at replaced
    rw [← replaced]
    rfl

end Checked

end ByteString

end Rtos
