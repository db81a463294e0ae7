import Mathlib.Data.List.DropRight
import Mathlib.Data.List.TakeWhile
import Rtos.ByteString.Trim
import Rtos.Proofs.Bytes.Occurrence

/-!
# What a string holds

A string holds some bytes if its buffer is these bytes and one terminating NUL. Every edit
of the buffer is compared here with an edit of the bytes: if the string held the bytes
before, it holds the edited bytes afterwards. So no edit loses the terminator, however its
positions lie.

The positions of an edit are those of its span; a clamped span is the part of the bytes
that dropping and taking leaves (`drop_take_clamp`).
-/

namespace Rtos

namespace Bytes

/-- The bytes without those of a set at both ends. -/
def trimmed (set bytes : Bytes) : Bytes :=
  (bytes.dropWhile (set.contains ·)).rdropWhile (set.contains ·)

theorem drop_take_clamp (bytes : Bytes) (start count : Nat) :
    (bytes.take (Span.clamp bytes.length start count).stop).drop
        (Span.clamp bytes.length start count).start =
      (bytes.drop start).take count := by
  simp only [Span.clamp]
  rcases Nat.le_total start bytes.length with inside | beyond
  · rw [Nat.min_eq_left inside, List.drop_take, Nat.add_sub_cancel_left, ← List.length_drop,
      ← List.take_eq_take_min]
  · rw [Nat.min_eq_right beyond, List.drop_take, List.drop_eq_nil_of_le (Nat.le_refl _),
      List.drop_eq_nil_of_le beyond, List.take_nil, List.take_nil]

theorem drop_min_length (bytes : Bytes) (count : Nat) :
    bytes.drop (min count bytes.length) = bytes.drop count := by
  rcases Nat.le_total count bytes.length with fits | beyond
  · rw [Nat.min_eq_left fits]
  · rw [Nat.min_eq_right beyond, List.drop_length, List.drop_eq_nil_of_le beyond]

theorem drop_length_takeWhile (test : UInt8 → Bool) (bytes : Bytes) :
    bytes.drop (bytes.takeWhile test).length = bytes.dropWhile test := by
  have split := List.takeWhile_append_dropWhile (p := test) (l := bytes)
  calc bytes.drop (bytes.takeWhile test).length
      = (bytes.takeWhile test ++ bytes.dropWhile test).drop (bytes.takeWhile test).length := by
        rw [split]
    _ = bytes.dropWhile test := List.drop_left

theorem rdropWhile_eq_take (test : UInt8 → Bool) (bytes : Bytes) :
    bytes.rdropWhile test = bytes.take (bytes.length - (bytes.reverse.takeWhile test).length) := by
  rw [List.rdropWhile, ← drop_length_takeWhile, List.reverse_drop, List.reverse_reverse,
    List.length_reverse]

/-- What is dropped at the end, if it is one byte over and over, can be put back. -/
theorem exists_eq_rdropWhile_append (byte : UInt8) (bytes : Bytes) :
    ∃ count, bytes = bytes.rdropWhile (· == byte) ++ List.replicate count byte := by
  have same : ∀ dropped ∈ bytes.rtakeWhile (· == byte), dropped = byte := by
    intro dropped droppedMem
    have equal := List.mem_rtakeWhile_imp droppedMem
    exact beq_iff_eq.mp equal
  refine ⟨(bytes.rtakeWhile (· == byte)).length, ?_⟩
  rw [← List.eq_replicate_of_mem same]
  exact List.rdropWhile_append_rtakeWhile.symm

/-- How many bytes go at the end does not depend on what goes at the start. -/
theorem takeWhile_reverse_of_dropWhile_eq {test : UInt8 → Bool} {bytes : Bytes} {kept : UInt8}
    {rest : Bytes} (dropped : bytes.dropWhile test = kept :: rest) :
    bytes.reverse.takeWhile test = (kept :: rest).reverse.takeWhile test := by
  have stays : test kept = false := by
    have head := List.head?_dropWhile_not test bytes
    rw [dropped] at head
    exact head
  rw [← List.takeWhile_append_dropWhile (p := test) (l := bytes), dropped, List.reverse_append,
    List.takeWhile_append, if_neg]
  intro all
  have whole := (List.takeWhile_prefix test).eq_of_length all
  rw [List.takeWhile_eq_self_iff] at whole
  have goes := whole kept (by simp)
  rw [stays] at goes
  cases goes

/-- If a byte stays, then what goes at the start and what goes at the end do not meet. -/
theorem leading_add_trailing_le {test : UInt8 → Bool} {bytes : Bytes}
    (stays : (bytes.reverse.takeWhile test).length ≠ bytes.length) :
    (bytes.takeWhile test).length + (bytes.reverse.takeWhile test).length ≤ bytes.length := by
  have total := congrArg List.length (List.takeWhile_append_dropWhile (p := test) (l := bytes))
  rw [List.length_append] at total
  cases dropped : bytes.dropWhile test with
  | nil =>
    rw [List.dropWhile_eq_nil_iff] at dropped
    have all : bytes.reverse.takeWhile test = bytes.reverse := by
      rw [List.takeWhile_eq_self_iff]
      simpa using dropped
    exact absurd (by rw [all, List.length_reverse]) stays
  | cons kept rest =>
    have trailing := (List.takeWhile_prefix test (l := (kept :: rest).reverse)).length_le
    rw [dropped] at total
    rw [takeWhile_reverse_of_dropWhile_eq dropped]
    rw [List.length_reverse] at trailing
    omega

/-- The two ends of a sequence are counted independently, and the count of the first wins. -/
theorem trimmed_eq_take (set bytes : Bytes) :
    trimmed set bytes =
      (bytes.dropWhile (set.contains ·)).take
        (max (bytes.takeWhile (set.contains ·)).length
            (bytes.length - (bytes.reverse.takeWhile (set.contains ·)).length) -
          (bytes.takeWhile (set.contains ·)).length) := by
  have total := congrArg List.length
    (List.takeWhile_append_dropWhile (p := (set.contains ·)) (l := bytes))
  rw [List.length_append] at total
  rw [trimmed, rdropWhile_eq_take]
  cases rest : bytes.dropWhile (set.contains ·) with
  | nil => rw [List.take_nil, List.take_nil]
  | cons first others =>
    rw [rest] at total
    rw [takeWhile_reverse_of_dropWhile_eq rest]
    congr 1
    omega

end Bytes

namespace ByteString

variable {string other : ByteString} {bytes others : Bytes}

/-- The buffer is the bytes followed by one terminating NUL. -/
def Holds (string : ByteString) (bytes : Bytes) : Prop :=
  string.buffer = bytes ++ [0]

namespace Holds

theorem content_eq (holds : string.Holds bytes) : string.content = bytes := by
  rw [content, holds, List.dropLast_concat]

theorem size_eq (holds : string.Holds bytes) : string.size = bytes.length := by
  rw [← length_content, holds.content_eq]

theorem length_buffer (holds : string.Holds bytes) :
    string.buffer.length = bytes.length + 1 := by
  rw [holds, List.length_append, List.length_singleton]

theorem terminated (holds : string.Holds bytes) : string.Terminated := by
  rw [Terminated, holds.content_eq]
  exact holds

theorem asCString_eq (holds : string.Holds bytes) :
    string.asCString = Bytes.untilNul bytes := by
  rw [asCString, holds, Bytes.untilNul, Bytes.untilNul, List.takeWhile_append]
  split
  case isTrue all =>
    rw [(List.takeWhile_prefix _).eq_of_length all]
    exact List.append_nil bytes
  case isFalse => rfl

/-! ## Edits -/

theorem withBuffer (string : ByteString) (bytes : Bytes) :
    (string.withBuffer (bytes ++ [0])).Holds bytes := rfl

theorem withCapacity (capacity : Nat) : (ByteString.withCapacity capacity).Holds [] := rfl

theorem empty : ByteString.empty.Holds [] := rfl

theorem ofBytes (bytes : Bytes) : (ByteString.ofBytes bytes).Holds bytes := rfl

theorem copy (holds : string.Holds bytes) : string.copy.Holds bytes := holds

theorem clear (string : ByteString) : string.clear.Holds [] := rfl

theorem reserve (holds : string.Holds bytes) {capacity : Nat} {next : ByteString}
    (reserved : string.reserve capacity = .ok next) : next.Holds bytes := by
  simp only [ByteString.reserve] at reserved
  split at reserved
  · cases reserved
  · cases reserved
    exact holds

theorem setBytes (string : ByteString) (bytes : Bytes) : (string.setBytes bytes).Holds bytes :=
  rfl

theorem setSubstring (string : ByteString) (otherHolds : other.Holds others)
    (offset length : Nat) :
    (string.setSubstring other offset length).Holds ((others.drop offset).take length) := by
  rw [← Bytes.drop_take_clamp, ← otherHolds.content_eq, length_content]
  exact setBytes string _

/-- Overwriting a byte works inside the bytes and is an error behind them. -/
theorem setByte (holds : string.Holds bytes) (position : Nat) (byte : UInt8) :
    (position < bytes.length ∧
        ∃ next, string.setByte position byte = .ok next ∧
          next.Holds (bytes.set position byte)) ∨
      bytes.length ≤ position ∧ string.setByte position byte = .error .outOfBounds := by
  rw [ByteString.setByte, holds.size_eq]
  split
  case isTrue inside =>
    refine Or.inl ⟨inside, _, rfl, ?_⟩
    rw [holds, List.set_append_left _ _ inside]
    exact withBuffer string _
  case isFalse outside => exact Or.inr ⟨Nat.not_lt.mp outside, rfl⟩

theorem pushByte (holds : string.Holds bytes) (byte : UInt8) :
    (string.pushByte byte).Holds (bytes ++ [byte]) := by
  have last : string.buffer.length - 1 = bytes.length := by
    rw [holds.length_buffer, Nat.add_sub_cancel]
  rw [ByteString.pushByte, last, holds, List.set_append_right _ _ (Nat.le_refl _), Nat.sub_self]
  exact withBuffer string _

theorem pushBytes (holds : string.Holds bytes) (more : Bytes) :
    (string.pushBytes more).Holds (bytes ++ more) := by
  rw [ByteString.pushBytes, holds, List.dropLast_concat]
  exact withBuffer string _

theorem append (holds : string.Holds bytes) (otherHolds : other.Holds others) :
    (string.append other).Holds (bytes ++ others) := by
  rw [ByteString.append, otherHolds.content_eq]
  exact holds.pushBytes others

theorem left (holds : string.Holds bytes) (count : Nat) :
    (string.left count).Holds (bytes.take count) := by
  rw [ByteString.left]
  split
  case isTrue shorter =>
    rw [holds.size_eq] at shorter
    rw [holds, List.take_append_of_le_length (Nat.le_of_lt shorter)]
    exact withBuffer string _
  case isFalse notShorter =>
    rw [holds.size_eq, Nat.not_lt] at notShorter
    rw [List.take_of_length_le notShorter]
    exact holds

theorem right (holds : string.Holds bytes) (count : Nat) :
    (string.right count).Holds (bytes.drop (bytes.length - count)) := by
  rw [ByteString.right, holds.size_eq]
  split
  case isTrue shorter =>
    rw [holds, List.drop_append_of_le_length (Nat.sub_le _ _)]
    exact withBuffer string _
  case isFalse notShorter =>
    rw [Nat.sub_eq_zero_of_le (Nat.not_lt.mp notShorter)]
    exact holds

/-- Keeping a span cuts the terminator off with the rest and puts a new one behind, whatever
the buffer ended with. -/
theorem keep_content (string : ByteString) (span : Span string.size) :
    (string.keep span).Holds ((string.content.take span.stop).drop span.start) := by
  have inside : string.buffer.take span.stop = string.content.take span.stop := by
    rw [content, List.dropLast_eq_take, List.take_take, Nat.min_eq_left]
    exact span.stop_le_size
  rw [ByteString.keep, inside]
  exact withBuffer string _

theorem keep (holds : string.Holds bytes) (span : Span string.size) :
    (string.keep span).Holds ((bytes.take span.stop).drop span.start) := by
  rw [← holds.content_eq]
  exact keep_content string span

theorem middle (holds : string.Holds bytes) (position count : Nat) :
    (string.middle position count).Holds ((bytes.drop position).take count) := by
  rw [← Bytes.drop_take_clamp, ← holds.size_eq]
  exact holds.keep _

/-- Putting bytes in the place of a span leaves the terminator where it is, behind the span. -/
theorem splice (holds : string.Holds bytes) (span : Span string.size) (replacement : Bytes) :
    (string.splice span replacement).Holds
      (bytes.take span.start ++ replacement ++ bytes.drop span.stop) := by
  have inside : span.stop ≤ bytes.length := holds.size_eq ▸ span.stop_le_size
  have ordered := span.start_le_stop
  rw [ByteString.splice, holds, List.take_append_of_le_length (Nat.le_trans ordered inside),
    List.drop_append_of_le_length inside, ← List.append_assoc]
  exact withBuffer string _

theorem trim_content (string : ByteString) (set : Bytes) :
    (string.trim set).Holds (Bytes.trimmed set string.content) := by
  have kept := keep_content string (string.trimSpan set)
  have rest : (string.content.take (string.trimSpan set).stop).drop
      (string.trimSpan set).start = Bytes.trimmed set string.content := by
    simp only [trimSpan, leadingCount]
    rw [List.drop_take, Bytes.drop_length_takeWhile, ← length_content, ← Bytes.trimmed_eq_take]
  rw [rest] at kept
  exact kept

theorem trim (holds : string.Holds bytes) (set : Bytes) :
    (string.trim set).Holds (Bytes.trimmed set bytes) := by
  rw [← holds.content_eq]
  exact trim_content string set

/-! ## Replacements -/

theorem splice_clamp (holds : string.Holds bytes) {position : Nat}
    (inside : position ≤ bytes.length) (count : Nat) (replacement : Bytes) :
    (string.splice (Span.clamp string.size position count) replacement).Holds
      (bytes.take position ++ replacement ++ bytes.drop (position + count)) := by
  have startEq : (Span.clamp string.size position count).start = position := by
    simp only [Span.clamp, holds.size_eq, Nat.min_eq_left inside]
  have stopEq : (Span.clamp string.size position count).stop =
      position + min count (bytes.drop position).length := by
    simp only [Span.clamp, holds.size_eq, Nat.min_eq_left inside, List.length_drop]
  have spliced := holds.splice (Span.clamp string.size position count) replacement
  rw [startEq, stopEq, ← List.drop_drop, Bytes.drop_min_length, List.drop_drop] at spliced
  exact spliced

/-- Replacing a range works if it begins inside the bytes and is an error otherwise. -/
theorem replaceRange (holds : string.Holds bytes) (position count : Nat) (replacement : Bytes) :
    (position ≤ bytes.length ∧
        ∃ next, string.replaceRange position count replacement = .ok next ∧
          next.Holds (bytes.take position ++ replacement ++ bytes.drop (position + count))) ∨
      bytes.length < position ∧
        string.replaceRange position count replacement = .error .outOfBounds := by
  rw [← holds.size_eq, ByteString.replaceRange]
  split
  case isTrue outside => exact Or.inr ⟨outside, rfl⟩
  case isFalse notOutside =>
    have inside := Nat.not_lt.mp notOutside
    have spliced := holds.splice_clamp (holds.size_eq ▸ inside) count replacement
    exact Or.inl ⟨inside, _, rfl, spliced⟩

theorem replaceFirst_of_none (holds : string.Holds bytes) {needle replacement : Bytes}
    {start : Nat} (nothing : Bytes.leastOccurrence? needle bytes start = none) :
    string.replaceFirst needle replacement start = (string, none) := by
  rw [← Bytes.find?_eq_leastOccurrence?, ← holds.content_eq] at nothing
  rw [ByteString.replaceFirst]
  split
  · rfl
  case h_2 offset found => rw [nothing] at found; cases found

theorem replaceFirst_of_some (holds : string.Holds bytes) {needle replacement : Bytes}
    {start offset : Nat} (least : Bytes.leastOccurrence? needle bytes start = some offset) :
    (string.replaceFirst needle replacement start).1.Holds
        (bytes.take offset ++ replacement ++ bytes.drop (offset + needle.length)) ∧
      (string.replaceFirst needle replacement start).2 = some offset := by
  rw [← Bytes.find?_eq_leastOccurrence?, ← holds.content_eq] at least
  rw [ByteString.replaceFirst]
  split
  case h_1 found => rw [least] at found; cases found
  case h_2 other found =>
    rw [least] at found
    cases found
    exact ⟨holds.splice _ _, rfl⟩

theorem replaceAll (holds : string.Holds bytes) {needle : Bytes} (replacement : Bytes)
    (nonempty : needle ≠ []) :
    (string.replaceAll needle replacement).1.Holds
        (replacement.intercalate (Bytes.partsBetween needle bytes)) ∧
      (string.replaceAll needle replacement).2 = (Bytes.partsBetween needle bytes).length - 1 := by
  have fitting : Bytes.fittingOffsets needle string.size =
      Bytes.fittingOffsets needle string.content.length := by rw [length_content]
  have replaced := replaceFrom_eq replacement nonempty [] fitting
  rw [ByteString.replaceAll, dif_pos nonempty, replaced, holds.content_eq]
  exact ⟨setBytes string _, rfl⟩

end Holds

end ByteString

end Rtos
