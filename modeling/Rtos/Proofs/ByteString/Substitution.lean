import Rtos.Proofs.ByteString.Content

/-!
# Substitution

Replacing every occurrence of a needle is a substitution on the bytes as they were first:
they are cut at the leftmost occurrence, what is behind it is cut in the same way, and the
parts are joined again with the replacement in between. The way the cuts are made is told
here without any search.

The same can be done in the string itself, by a scan that puts in a replacement and goes
on behind it. However the string grows or shrinks in front of the scan, behind it stands
the end of what was there first. So what was put in takes no part in a match.
-/

namespace Rtos

namespace Bytes

/-- Some bytes are cut at the leftmost occurrence of a needle, again and again. -/
inductive Splits (needle : Bytes) : Bytes → List Bytes → Prop where
  | last (rest : Bytes) (absent : ¬needle <:+: rest) : Splits needle rest [rest]
  | cut (part rest : Bytes) (parts : List Bytes)
      (leftmost : ∀ before after, part ++ needle ++ rest = before ++ needle ++ after →
        part.length ≤ before.length)
      (behind : Splits needle rest parts) :
      Splits needle (part ++ needle ++ rest) (part :: parts)

theorem eq_of_occursAt {needle bytes : Bytes} {offset : Nat}
    (occurs : occursAt needle bytes offset = true) :
    bytes = bytes.take offset ++ needle ++ bytes.drop (offset + needle.length) := by
  rcases List.isPrefixOf_iff_prefix.mp occurs with ⟨after, behind⟩
  have rest : bytes.drop (offset + needle.length) = after := by
    rw [← List.drop_drop, ← behind, List.drop_left]
  rw [rest, List.append_assoc, behind, List.take_append_drop]

theorem occursAt_append (before needle after : Bytes) :
    occursAt needle (before ++ needle ++ after) before.length = true := by
  rw [occursAt, List.append_assoc, List.drop_left]
  exact List.isPrefixOf_iff_prefix.mpr (List.prefix_append needle after)

variable {needle text : Bytes} {parts : List Bytes}

/-- The bytes can be cut in one way only. -/
theorem Splits.eq_partsBetween (nonempty : needle ≠ []) (splits : Splits needle text parts) :
    parts = partsBetween needle text := by
  induction splits with
  | last rest absent =>
      apply Eq.symm
      apply partsBetween_eq_singleton
      intro offset inside
      apply eq_false_of_ne_true
      intro occurs
      exact absent ⟨_, _, (eq_of_occursAt occurs).symm⟩
  | cut part rest parts leftmost behind ih =>
      have first : ∀ earlier, earlier < part.length →
          occursAt needle (part ++ needle ++ rest) earlier = false := by
        intro earlier before
        apply eq_false_of_ne_true
        intro occurs
        have later := leftmost _ _ (eq_of_occursAt occurs)
        rw [List.length_take] at later
        omega
      have cut := partsBetween_eq_cons nonempty (occursAt_append part needle rest) first
      rw [cut, ih, ← List.length_append, List.drop_left, List.append_assoc, List.take_left]

/-- A search that finds nothing in the bytes shows that the needle is not in them. -/
theorem not_infix_of_leastOccurrence?_eq_none
    (nothing : leastOccurrence? needle text 0 = none) : ¬needle <:+: text := by
  rintro ⟨before, after, rfl⟩
  have inside : before.length ≤ (before ++ needle ++ after).length := by
    simp only [List.length_append]
    omega
  have absent := not_occursAt_of_leastOccurrence?_eq_none nothing inside
  rw [occursAt_append] at absent
  contradiction

/-- A search finds the needle nowhere behind the leftmost occurrence. -/
theorem le_length_of_leastOccurrence? {offset : Nat}
    (least : leastOccurrence? needle text 0 = some offset) (before after : Bytes)
    (split : text = before ++ needle ++ after) : offset ≤ before.length := by
  apply Nat.le_of_not_lt
  intro earlier
  have absent := (occursAt_of_leastOccurrence? least).2 before.length earlier
  rw [split, occursAt_append] at absent
  contradiction

/-- There is a way to cut the bytes. -/
theorem splits_partsBetween (nonempty : needle ≠ []) (text : Bytes) :
    Splits needle text (partsBetween needle text) := by
  induction length : text.length using Nat.strongRecOn generalizing text with
  | ind size ih =>
      cases least : leastOccurrence? needle text 0 with
      | none =>
          rw [partsBetween_of_leastOccurrence?_eq_none least]
          exact .last text (not_infix_of_leastOccurrence?_eq_none least)
      | some offset =>
          have positive := List.length_pos_iff.mpr nonempty
          have bounds := (leastOccurrence?_bounds least).2
          have whole := eq_of_occursAt (occursAt_of_leastOccurrence? least).1
          have shorter : (text.drop (offset + needle.length)).length < size := by
            rw [List.length_drop]
            omega
          have behind := ih _ shorter _ rfl
          have front : (text.take offset).length = offset := List.length_take_of_le (by omega)
          have cut := Splits.cut (text.take offset) _ _ ?leftmost behind
          case leftmost =>
            intro before after split
            rw [front]
            exact le_length_of_leastOccurrence? least before after (whole.trans split)
          rw [← whole] at cut
          rw [partsBetween_of_leastOccurrence? nonempty least]
          exact cut

theorem Splits.ne_nil (splits : Splits needle text parts) : parts ≠ [] := by
  cases splits with
  | last rest absent => exact List.cons_ne_nil _ _
  | cut part rest parts leftmost behind => exact List.cons_ne_nil _ _

/-- Joined with the needle again, the parts are what was cut. -/
theorem Splits.intercalate_needle (splits : Splits needle text parts) :
    needle.intercalate parts = text := by
  induction splits with
  | last rest absent => simp only [List.intercalate_singleton]
  | cut part rest parts leftmost behind ih =>
      rw [intercalate_cons _ _ behind.ne_nil, ih, List.append_assoc]

/-- Each replacement changes the length by the difference of the two lengths. -/
theorem Splits.length_intercalate (splits : Splits needle text parts) (replacement : Bytes) :
    (replacement.intercalate parts).length + (parts.length - 1) * needle.length =
      text.length + (parts.length - 1) * replacement.length := by
  induction splits with
  | last rest absent => simp [List.intercalate]
  | cut part rest parts leftmost behind ih =>
      rcases List.exists_cons_of_ne_nil behind.ne_nil with ⟨next, later, rfl⟩
      rw [intercalate_cons _ _ behind.ne_nil]
      simp only [List.length_append, List.length_cons, Nat.add_sub_cancel, Nat.succ_mul] at ih ⊢
      omega

end Bytes

namespace ByteString

/-! ## The scan in the string itself -/

/-- How far a scan of a string has come. -/
structure Scan where
  string : ByteString
  /-- Where it goes on. -/
  start : Nat := 0
  /-- How many replacements it has put in. -/
  count : Nat := 0

namespace Scan

/-- The scan once it has put in the next replacement, if there is an occurrence to replace. -/
def next? (needle replacement : Bytes) (scan : Scan) : Option Scan :=
  match found : Bytes.find? scan.string.content needle scan.start with
  | none => none
  | some offset =>
      some { string := scan.string.splice (scan.string.matchSpan found) replacement
             start := offset + replacement.length
             count := scan.count + 1 }

theorem remaining_next? {needle replacement : Bytes} (nonempty : needle ≠ []) {scan next : Scan}
    (moved : scan.next? needle replacement = some next) :
    next.string.size - next.start < scan.string.size - scan.start := by
  have positive := List.length_pos_iff.mpr nonempty
  simp only [next?] at moved
  split at moved
  · contradiction
  · rename_i offset found
    cases moved
    have bounds := Bytes.find?_bounds found
    rw [length_content] at bounds
    simp only [splice, matchSpan, withBuffer, size, List.length_append, List.length_take,
      List.length_drop] at bounds ⊢
    omega

/-- The scan once it has put in all replacements. -/
def finish {needle : Bytes} (replacement : Bytes) (nonempty : needle ≠ []) (scan : Scan) : Scan :=
  match moved : scan.next? needle replacement with
  | none => scan
  | some next =>
      have _ := remaining_next? nonempty moved
      next.finish replacement nonempty
termination_by scan.string.size - scan.start

/-- What a scan comes to on its way. -/
inductive Leads (needle replacement : Bytes) (scan : Scan) : Scan → Prop where
  | here : Leads needle replacement scan scan
  | next {reached later : Scan} (leads : Leads needle replacement scan reached)
      (moved : reached.next? needle replacement = some later) :
      Leads needle replacement scan later

/-- In front of a scan everything is done, and the rest stands behind it. -/
structure Between (scan : Scan) (done rest : Bytes) : Prop where
  holds : scan.string.Holds (done ++ rest)
  start_eq : scan.start = done.length

variable {scan : Scan} {done rest : Bytes}

/-- The search for the next occurrence is a search in the rest alone. -/
theorem Between.find?_eq (between : scan.Between done rest) (needle : Bytes) :
    Bytes.find? scan.string.content needle scan.start =
      (Bytes.leastOccurrence? needle rest 0).map (done.length + ·) := by
  have inside : done.length ≤ (done ++ rest).length := by simp
  rw [between.holds.content_eq, between.start_eq, Bytes.find?_eq_leastOccurrence?,
    ← Bytes.leastOccurrence?_drop needle inside, List.drop_left]

theorem Between.of_next?_eq_none (between : scan.Between done rest) {needle replacement : Bytes}
    (nothing : scan.next? needle replacement = none) :
    Bytes.leastOccurrence? needle rest 0 = none := by
  unfold next? at nothing
  split at nothing
  · rename_i absent
    rw [between.find?_eq] at absent
    exact Option.map_eq_none_iff.mp absent
  · contradiction

/-- A replacement goes in where the needle occurs first in the rest. -/
theorem Between.of_next?_eq_some (between : scan.Between done rest)
    {needle replacement : Bytes} {later : Scan}
    (moved : scan.next? needle replacement = some later) :
    ∃ offset, Bytes.leastOccurrence? needle rest 0 = some offset ∧
      later.count = scan.count + 1 ∧
      later.Between (done ++ rest.take offset ++ replacement)
        (rest.drop (offset + needle.length)) := by
  unfold next? at moved
  split at moved
  · contradiction
  · rename_i place found
    cases moved
    have searched := found
    rw [between.find?_eq, Option.map_eq_some_iff] at searched
    rcases searched with ⟨offset, least, rfl⟩
    have bounds := (Bytes.leastOccurrence?_bounds least).2
    refine ⟨offset, least, rfl, ?_, ?_⟩
    · have front : (done ++ rest).take (done.length + offset) = done ++ rest.take offset :=
        List.take_length_add_append _
      have behind : (done ++ rest).drop (done.length + offset + needle.length) =
          rest.drop (offset + needle.length) := by
        rw [Nat.add_assoc, List.drop_length_add_append]
      rw [← front, ← behind]
      exact between.holds.splice (scan.string.matchSpan found) replacement
    · simp only [List.length_append, List.length_take]
      omega

/-- What a scan puts in front of itself is never looked at again. -/
theorem Between.leads {needle replacement text : Bytes} (between : scan.Between [] text)
    {reached : Scan} (leads : scan.Leads needle replacement reached) :
    ∃ done rest, reached.Between done rest ∧ rest <:+ text := by
  induction leads with
  | here => exact ⟨[], text, between, List.suffix_rfl⟩
  | next leads moved ih =>
      rcases ih with ⟨done, rest, between, behind⟩
      rcases between.of_next?_eq_some moved with ⟨offset, _, _, after⟩
      exact ⟨_, _, after, (List.drop_suffix _ _).trans behind⟩

/-- A scan joins the parts of the rest with the replacement. -/
theorem Between.finish {needle : Bytes} (between : scan.Between done rest)
    (replacement : Bytes) (nonempty : needle ≠ []) :
    (scan.finish replacement nonempty).string.Holds
        (done ++ replacement.intercalate (Bytes.partsBetween needle rest)) ∧
      (scan.finish replacement nonempty).count + 1 =
        scan.count + (Bytes.partsBetween needle rest).length := by
  fun_induction Scan.finish replacement nonempty scan generalizing done rest with
  | case1 scan nothing =>
      have absent := between.of_next?_eq_none nothing
      rw [Bytes.partsBetween_of_leastOccurrence?_eq_none absent, List.intercalate_singleton]
      exact ⟨between.holds, rfl⟩
  | case2 scan next moved _ ih =>
      rcases between.of_next?_eq_some moved with ⟨offset, least, count, after⟩
      have others := Bytes.partsBetween_ne_nil needle (rest.drop (offset + needle.length))
      rcases ih after with ⟨holds, total⟩
      rw [Bytes.partsBetween_of_leastOccurrence? nonempty least,
        Bytes.intercalate_cons _ _ others]
      constructor
      · simpa only [List.append_assoc] using holds
      · rw [total, count, List.length_cons]
        omega

end Scan

/--
Replacing all occurrences is the leftmost substitution on the original bytes. These can be
cut in one way only; the replacement comes between the parts, and there are as many
replacements as cuts. A scan of the string itself comes to the same end, and on its way
whatever it searches is the end of the original bytes.
-/
theorem replaceAll_substitutes {string : ByteString} {text : Bytes} (holds : string.Holds text)
    {needle : Bytes} (nonempty : needle ≠ []) (replacement : Bytes) :
    ∃ parts count, parts.length = count + 1 ∧
      (∀ others, Bytes.Splits needle text others ↔ others = parts) ∧
      (string.replaceAll needle replacement).1.Holds (replacement.intercalate parts) ∧
      (string.replaceAll needle replacement).2 = count ∧
      (Scan.finish replacement nonempty { string }).string.Holds
        (replacement.intercalate parts) ∧
      (Scan.finish replacement nonempty { string }).count = count ∧
      (∀ reached, Scan.Leads needle replacement { string } reached →
        ∃ done rest, reached.Between done rest ∧ rest <:+ text ∧
          Bytes.find? reached.string.content needle reached.start =
            (Bytes.leastOccurrence? needle rest 0).map (done.length + ·)) ∧
      ((string.replaceAll needle replacement).1.size : Int) =
        text.length + count * ((replacement.length : Int) - needle.length) ∧
      (replacement = needle → (string.replaceAll needle replacement).1.Holds text) := by
  have splits := Bytes.splits_partsBetween nonempty text
  have positive := List.length_pos_iff.mpr (Bytes.partsBetween_ne_nil needle text)
  have between : Scan.Between { string } [] text := ⟨holds, rfl⟩
  rcases holds.replaceAll replacement nonempty with ⟨replaced, count⟩
  rcases between.finish replacement nonempty with ⟨scanned, total⟩
  refine ⟨Bytes.partsBetween needle text, (Bytes.partsBetween needle text).length - 1, ?_, ?_,
    replaced, count, scanned, ?_, ?_, ?_, ?_⟩
  · omega
  · intro others
    constructor
    · exact fun cut => cut.eq_partsBetween nonempty
    · rintro rfl
      exact splits
  · simp only [Nat.zero_add] at total
    omega
  · intro reached leads
    rcases between.leads leads with ⟨done, rest, between, behind⟩
    exact ⟨done, rest, between, behind, between.find?_eq needle⟩
  · have lengths := splits.length_intercalate replacement
    rw [replaced.size_eq, Int.mul_sub]
    omega
  · rintro rfl
    rw [splits.intercalate_needle] at replaced
    exact replaced

/-- Here the needle overlaps itself, and a replacement completes an occurrence with the byte
behind it, which is not replaced. -/
theorem replaceAll_substitutes_overlapping :
    let string := ofBytes [97, 97, 97, 98]
    string.Holds [97, 97, 97, 98] ∧
      Bytes.Splits [97, 97] [97, 97, 97, 98] [[], [97, 98]] ∧
      (string.replaceAll [97, 97] [97]).1.Holds [97, 97, 98] ∧
      (string.replaceAll [97, 97] [97]).2 = 1 := by
  intro string
  rcases replaceAll_substitutes (Holds.ofBytes [97, 97, 97, 98]) (List.cons_ne_nil 97 [97])
      [97] with
    ⟨parts, count, length, splits, replaced, counted, _⟩
  have parts_eq : [[], [97, 98]] = parts := by
    have cut := (splits parts).mpr rfl
    rw [cut.eq_partsBetween (List.cons_ne_nil _ _)]
    decide
  have cut := (splits _).mpr parts_eq
  subst parts_eq
  cases Nat.succ.inj length
  exact ⟨Holds.ofBytes _, cut, replaced, counted⟩

end ByteString

end Rtos
