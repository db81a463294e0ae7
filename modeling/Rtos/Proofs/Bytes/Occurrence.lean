import Rtos.ByteString.Replace

/-!
# Occurrences of a needle

The search for a needle counts offsets and cuts the sequence as it goes. Here it is
compared with two plain readings of a sequence: the least offset at which the needle is a
beginning of what is left (`find?_eq_leastOccurrence?`), and the parts of the sequence
between the needle's occurrences, each taken as far to the left as possible and none
overlapping the one before (`replaceFrom_eq`). Replacing every occurrence is joining these
parts again with the replacement in between.
-/

namespace Rtos

namespace Bytes

/-- Whether a needle occurs at an offset. -/
def occursAt (needle bytes : Bytes) (offset : Nat) : Bool :=
  needle.isPrefixOf (bytes.drop offset)

/-- The least offset, from a starting offset to the end, at which a needle occurs. -/
def leastOccurrence? (needle bytes : Bytes) (start : Nat) : Option Nat :=
  (List.range' start (bytes.length + 1 - start)).find? (occursAt needle bytes)

/--
The parts of a sequence between the occurrences of a needle, where so many bytes at the
start belong to an occurrence already counted.
-/
def partsFrom (needle : Bytes) : Nat → Bytes → List Bytes
  | _, [] => [[]]
  | skip + 1, _ :: rest => partsFrom needle skip rest
  | 0, byte :: rest =>
      if needle.isPrefixOf (byte :: rest) then [] :: partsFrom needle (needle.length - 1) rest
      else (partsFrom needle 0 rest).modifyHead (byte :: ·)

/-- The parts of a sequence between the occurrences of a needle, of which there is at least one. -/
def partsBetween (needle bytes : Bytes) : List Bytes :=
  partsFrom needle 0 bytes

/-! ## The least occurrence -/

theorem occursAt_succ (needle bytes : Bytes) (offset : Nat) :
    occursAt needle bytes (offset + 1) = occursAt needle bytes.tail offset := by
  simp only [occursAt, List.drop_tail]

theorem occursAt_drop (needle bytes : Bytes) (start offset : Nat) :
    occursAt needle (bytes.drop start) offset = occursAt needle bytes (start + offset) := by
  simp only [occursAt, List.drop_drop]

theorem add_length_le_of_occursAt {needle bytes : Bytes} {offset : Nat}
    (inside : offset ≤ bytes.length) (occurs : occursAt needle bytes offset = true) :
    offset + needle.length ≤ bytes.length := by
  have fits := (List.isPrefixOf_iff_prefix.mp occurs).length_le
  rw [List.length_drop] at fits
  omega

theorem occurrence?_eq_find? (needle bytes : Bytes) (offsets : Nat) :
    occurrence? needle offsets bytes = (List.range offsets).find? (occursAt needle bytes) := by
  induction offsets generalizing bytes with
  | zero => rfl
  | succ offsets ih =>
    rw [occurrence?, List.range_succ_eq_map, List.find?_cons, List.find?_map, ih]
    have here : occursAt needle bytes 0 = needle.isPrefixOf bytes := rfl
    have later : occursAt needle bytes ∘ Nat.succ = occursAt needle bytes.tail :=
      funext (occursAt_succ needle bytes)
    rw [here, later]
    cases needle.isPrefixOf bytes <;> rfl

/-- Behind the last offset at which a needle fits there is none at which it occurs. -/
theorem find?_occursAt_eq_none {needle bytes : Bytes} {start count : Nat}
    (tooLate : bytes.length < start + needle.length)
    (inside : start + count ≤ bytes.length + 1) :
    (List.range' start count).find? (occursAt needle bytes) = none := by
  rw [List.find?_eq_none]
  intro offset offsetMem occurs
  rw [List.mem_range'_1] at offsetMem
  have fits := add_length_le_of_occursAt (by omega) occurs
  omega

/-- A search finds the least occurrence from its start on. -/
theorem find?_eq_leastOccurrence? (haystack needle : Bytes) (start : Nat) :
    find? haystack needle start = leastOccurrence? needle haystack start := by
  have shifted : occursAt needle (haystack.drop start) =
      occursAt needle haystack ∘ (start + ·) :=
    funext (occursAt_drop needle haystack start)
  rw [find?, occurrence?_eq_find?, shifted, ← List.find?_map, ← List.range'_eq_map_range,
    leastOccurrence?]
  have split : haystack.length + 1 - start =
      (fittingOffsets needle haystack.length - start) +
        (haystack.length + 1 - start - (fittingOffsets needle haystack.length - start)) := by
    simp only [fittingOffsets]
    omega
  rw [split, List.range'_append_1.symm, List.find?_append]
  rcases Nat.lt_or_ge haystack.length start with beyond | inside
  · have none : haystack.length + 1 - start = 0 := by omega
    simp [none]
  · have beyond : haystack.length <
        start + (fittingOffsets needle haystack.length - start) + needle.length := by
      simp only [fittingOffsets]
      omega
    rw [find?_occursAt_eq_none beyond (by omega), Option.or_none]

/-- A search among all fitting offsets finds the least occurrence. -/
theorem occurrence?_fittingOffsets (needle bytes : Bytes) :
    occurrence? needle (fittingOffsets needle bytes.length) bytes =
      leastOccurrence? needle bytes 0 := by
  rw [← find?_eq_leastOccurrence?, find?, Nat.sub_zero, List.drop_zero]
  cases occurrence? needle (fittingOffsets needle bytes.length) bytes with
  | none => rfl
  | some offset => rw [Option.map_some, Nat.zero_add]

/-- A needle occurs at an offset behind a start if it does so in what stands behind the start. -/
theorem leastOccurrence?_drop (needle : Bytes) {bytes : Bytes} {start : Nat}
    (inside : start ≤ bytes.length) :
    (leastOccurrence? needle (bytes.drop start) 0).map (start + ·) =
      leastOccurrence? needle bytes start := by
  have shifted : occursAt needle (bytes.drop start) = occursAt needle bytes ∘ (start + ·) :=
    funext (occursAt_drop needle bytes start)
  have width : bytes.length - start + 1 = bytes.length + 1 - start := by omega
  rw [leastOccurrence?, leastOccurrence?, shifted, ← List.find?_map, List.map_add_range',
    List.length_drop, Nat.sub_zero, Nat.add_zero, width]

theorem leastOccurrence?_nil {bytes : Bytes} {start : Nat} (inside : start ≤ bytes.length) :
    leastOccurrence? [] bytes start = some start := by
  have width : bytes.length + 1 - start = bytes.length - start + 1 := by omega
  rw [leastOccurrence?, width, List.range'_succ, List.find?_cons_of_pos]
  simp [occursAt]

theorem leastOccurrence?_eq_none_of_lt (needle : Bytes) {bytes : Bytes} {start : Nat}
    (beyond : bytes.length < start) : leastOccurrence? needle bytes start = none := by
  rw [leastOccurrence?, Nat.sub_eq_zero_of_le beyond]
  rfl

theorem leastOccurrence?_bounds {needle bytes : Bytes} {start offset : Nat}
    (least : leastOccurrence? needle bytes start = some offset) :
    start ≤ offset ∧ offset + needle.length ≤ bytes.length := by
  rw [← find?_eq_leastOccurrence?] at least
  exact find?_bounds least

theorem occursAt_of_leastOccurrence? {needle bytes : Bytes} {offset : Nat}
    (least : leastOccurrence? needle bytes 0 = some offset) :
    occursAt needle bytes offset = true ∧
      ∀ earlier, earlier < offset → occursAt needle bytes earlier = false := by
  rw [leastOccurrence?, Nat.sub_zero, ← List.range_eq_range', List.find?_range_eq_some] at least
  rcases least with ⟨occurs, _, first⟩
  refine ⟨occurs, ?_⟩
  intro earlier earlierLt
  simpa using first earlier earlierLt

theorem not_occursAt_of_leastOccurrence?_eq_none {needle bytes : Bytes} {offset : Nat}
    (nothing : leastOccurrence? needle bytes 0 = none) (inside : offset ≤ bytes.length) :
    occursAt needle bytes offset = false := by
  rw [leastOccurrence?, Nat.sub_zero, ← List.range_eq_range', List.find?_range_eq_none] at nothing
  simpa using nothing offset (Nat.lt_succ_of_le inside)

/-! ## The parts between occurrences -/

theorem partsFrom_eq_drop (needle : Bytes) (skip : Nat) (bytes : Bytes) :
    partsFrom needle skip bytes = partsBetween needle (bytes.drop skip) := by
  induction bytes generalizing skip with
  | nil => cases skip <;> rfl
  | cons byte rest ih =>
    cases skip with
    | zero => rfl
    | succ skip => exact ih skip

theorem partsBetween_cons_of_occurs {needle rest : Bytes} {byte : UInt8} (nonempty : needle ≠ [])
    (occurs : needle.isPrefixOf (byte :: rest) = true) :
    partsBetween needle (byte :: rest) =
      [] :: partsBetween needle ((byte :: rest).drop needle.length) := by
  obtain ⟨first, others, rfl⟩ := List.exists_cons_of_ne_nil nonempty
  rw [partsBetween, partsFrom, if_pos occurs, partsFrom_eq_drop]
  rfl

theorem partsBetween_cons_of_not {needle rest : Bytes} {byte : UInt8}
    (absent : needle.isPrefixOf (byte :: rest) = false) :
    partsBetween needle (byte :: rest) = (partsBetween needle rest).modifyHead (byte :: ·) := by
  rw [partsBetween, partsFrom, absent, partsBetween]
  rfl

theorem partsBetween_eq_singleton {needle bytes : Bytes}
    (absent : ∀ offset, offset < bytes.length → occursAt needle bytes offset = false) :
    partsBetween needle bytes = [bytes] := by
  induction bytes with
  | nil => rfl
  | cons byte rest ih =>
    rw [partsBetween_cons_of_not (absent 0 (Nat.succ_pos _)), ih]
    · rfl
    · intro offset offsetLt
      exact absent (offset + 1) (Nat.succ_lt_succ offsetLt)

/-- The first part ends where the needle occurs first, and the others lie behind it. -/
theorem partsBetween_eq_cons {needle bytes : Bytes} {offset : Nat} (nonempty : needle ≠ [])
    (occurs : occursAt needle bytes offset = true)
    (first : ∀ earlier, earlier < offset → occursAt needle bytes earlier = false) :
    partsBetween needle bytes =
      bytes.take offset :: partsBetween needle (bytes.drop (offset + needle.length)) := by
  induction bytes generalizing offset with
  | nil =>
    rw [occursAt, List.drop_nil, List.isPrefixOf_iff_prefix, List.prefix_nil] at occurs
    exact absurd occurs nonempty
  | cons byte rest ih =>
    cases offset with
    | zero =>
      rw [partsBetween_cons_of_occurs nonempty occurs, Nat.zero_add, List.take_zero]
    | succ offset =>
      have later : ∀ earlier, earlier < offset → occursAt needle rest earlier = false := by
        intro earlier earlierLt
        exact first (earlier + 1) (Nat.succ_lt_succ earlierLt)
      rw [partsBetween_cons_of_not (first 0 (Nat.succ_pos _)), ih occurs later, Nat.succ_add]
      rfl

theorem partsBetween_ne_nil (needle bytes : Bytes) : partsBetween needle bytes ≠ [] := by
  induction bytes with
  | nil => simp [partsBetween, partsFrom]
  | cons byte rest ih =>
    rw [partsBetween] at ih ⊢
    rw [partsFrom]
    split
    · simp
    · simpa [List.modifyHead_eq_nil_iff] using ih

theorem intercalate_cons (separator part : Bytes) {parts : List Bytes} (nonempty : parts ≠ []) :
    separator.intercalate (part :: parts) =
      part ++ (separator ++ separator.intercalate parts) := by
  cases parts with
  | nil => exact absurd rfl nonempty
  | cons next others => simp [List.intercalate]

theorem intercalate_modifyHead (separator : Bytes) (byte : UInt8) {parts : List Bytes}
    (nonempty : parts ≠ []) :
    separator.intercalate (parts.modifyHead (byte :: ·)) =
      byte :: separator.intercalate parts := by
  obtain ⟨part, others, rfl⟩ := List.exists_cons_of_ne_nil nonempty
  cases others with
  | nil => simp [List.intercalate]
  | cons next others => simp [List.intercalate]

theorem length_le_intercalate {needle : Bytes} (nonempty : needle ≠ []) (replacement : Bytes)
    (longer : needle.length ≤ replacement.length) (skip : Nat) (bytes : Bytes) :
    bytes.length ≤ skip + (replacement.intercalate (partsFrom needle skip bytes)).length := by
  have positive := List.length_pos_iff.mpr nonempty
  induction bytes generalizing skip with
  | nil => exact Nat.zero_le _
  | cons byte rest ih =>
    cases skip with
    | succ skip =>
      have shorter := ih skip
      rw [partsFrom, List.length_cons]
      omega
    | zero =>
      rw [partsFrom, List.length_cons]
      split
      case isTrue occurs =>
        have behind := ih (needle.length - 1)
        have others := partsBetween_ne_nil needle (rest.drop (needle.length - 1))
        rw [← partsFrom_eq_drop] at others
        rw [intercalate_cons _ _ others]
        simp only [List.length_append, List.length_nil]
        omega
      case isFalse absent =>
        have behind := ih 0
        rw [partsFrom_eq_drop] at behind ⊢
        rw [List.drop_zero] at behind ⊢
        rw [intercalate_modifyHead _ _ (partsBetween_ne_nil needle rest), List.length_cons]
        omega

/-- What a search finds in a whole sequence is the end of the first part. -/
theorem partsBetween_of_leastOccurrence? {needle bytes : Bytes} {offset : Nat}
    (nonempty : needle ≠ []) (least : leastOccurrence? needle bytes 0 = some offset) :
    partsBetween needle bytes =
      bytes.take offset :: partsBetween needle (bytes.drop (offset + needle.length)) := by
  rcases occursAt_of_leastOccurrence? least with ⟨occurs, first⟩
  exact partsBetween_eq_cons nonempty occurs first

/-- If a search in a whole sequence finds nothing, there is one part. -/
theorem partsBetween_of_leastOccurrence?_eq_none {needle bytes : Bytes}
    (nothing : leastOccurrence? needle bytes 0 = none) : partsBetween needle bytes = [bytes] := by
  apply partsBetween_eq_singleton
  intro offset offsetLt
  exact not_occursAt_of_leastOccurrence?_eq_none nothing (Nat.le_of_lt offsetLt)

end Bytes

namespace ByteString

/--
Replacing behind the cursor joins the parts of what is there with the replacement, and
counts one replacement less than there are parts.
-/
theorem replaceFrom_eq {needle : Bytes} (replacement : Bytes) (nonempty : needle ≠ [])
    {offsets : Nat} (done : Bytes) {rest : Bytes}
    (fitting : offsets = Bytes.fittingOffsets needle rest.length) :
    replaceFrom needle replacement nonempty offsets done rest =
      (done.reverse ++ replacement.intercalate (Bytes.partsBetween needle rest),
        (Bytes.partsBetween needle rest).length - 1) := by
  fun_induction replaceFrom needle replacement nonempty offsets done rest with
  | case1 offsets done rest nothing =>
    subst fitting
    rw [Bytes.occurrence?_fittingOffsets] at nothing
    rw [Bytes.partsBetween_of_leastOccurrence?_eq_none nothing]
    simp [List.reverseAux_eq, List.intercalate]
  | case2 offsets done rest offset found kept result ih =>
    have bounded := Bytes.occurrence?_lt found
    subst fitting
    rw [Bytes.occurrence?_fittingOffsets] at found
    have parts := Bytes.partsBetween_of_leastOccurrence? nonempty found
    have fitting : Bytes.fittingOffsets needle rest.length - (offset + needle.length) =
        Bytes.fittingOffsets needle (rest.drop (offset + needle.length)).length := by
      simp only [Bytes.fittingOffsets, List.length_drop] at bounded ⊢
      omega
    have others := Bytes.partsBetween_ne_nil needle (rest.drop (offset + needle.length))
    have positive := List.length_pos_iff.mpr others
    rw [parts, Bytes.intercalate_cons _ _ others]
    simp only [result, kept, ih fitting, List.reverseAux_eq, List.reverse_append,
      List.reverse_reverse, List.append_assoc, List.length_cons]
    congr 1
    omega

end ByteString

end Rtos
