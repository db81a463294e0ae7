import Mathlib.Algebra.Group.Nat.Defs
import Rtos.Log
import Rtos.Proofs.Format.Composition
import Rtos.Proofs.Format.Width
import Rtos.Proofs.Utf8.WellFormed

/-!
# What a description tells of a record

A description has a C string in its quotes: the part of the name before the first NUL. The
number of holders is what stands between the last parenthesis and the words at the end, so
both can be read back (`quoted_inj`). Names with the same C string therefore have the
same descriptions, and a name without a NUL is told apart from all others without one.

Reports show the text of a description. For names that are texts nothing is lost by that.
-/

namespace Rtos

/-! ## The parts of the format -/

namespace Format

/-- Bytes without a percent sign take no argument and are written as they are. -/
theorem printsAll_ordinary {bytes : Bytes} (ordinary : percentSign ∉ bytes) :
    PrintsAll bytes [] bytes := by
  have printed : print bytes [] = .ok bytes := by
    induction bytes with
    | nil => rw [print, resolve, Piece.parse_nil]; rfl
    | cons byte rest ih =>
      rw [List.mem_cons, not_or] at ordinary
      have whole := (printsAll_byte (Ne.symm ordinary.1)).print_append rest []
      rw [ih ordinary.2] at whole
      exact whole
  rcases print_eq_ok_iff.mp printed with ⟨taken, isPrefix, prints⟩
  rw [List.prefix_nil.mp isPrefix] at prints
  exact prints

/-- The directive `%s` writes a C string. -/
theorem printsAll_string (bytes : Bytes) :
    PrintsAll [percentSign, 0x73] [.bytes bytes] (Bytes.untilNul bytes) := by
  have read : Directive.read? [0x73] = some (⟨{}, .literal 0, none, .word, .string⟩, []) := rfl
  have parsed := Piece.parse_directive read
  rw [Piece.parse_nil] at parsed
  refine ⟨[.operand ⟨{}, 0, none⟩ .string (.text (Bytes.untilNul bytes))], ?_, ?_⟩
  · rw [resolve, parsed]
    rfl
  · rw [List.flatMap_singleton, Item.render, Field.padded_of_width_eq_zero _ rfl]
    rfl

/-- The directive `%zu` writes all bits of an unsigned number. -/
theorem printsAll_count (count : UInt64) :
    PrintsAll [percentSign, 0x7A, 0x75] [.unsigned count] (Number.decimal count.toNat) := by
  have read : Directive.read? [0x7A, 0x75] =
      some (⟨{}, .literal 0, none, .wide, .unsigned⟩, []) := rfl
  have parsed := Piece.parse_directive read
  rw [Piece.parse_nil] at parsed
  refine ⟨[.operand ⟨{}, 0, none⟩ .unsigned (.integer false count.toNat)], ?_, ?_⟩
  · rw [resolve, parsed]
    rfl
  · rw [List.flatMap_singleton, Item.render, Field.padded_of_width_eq_zero _ rfl]
    rfl

end Format

/-! ## What a description consists of -/

namespace Record

/-- What stands between the name and the number of holders. -/
def middle : Bytes :=
  Bytes.ofString "\" ("

/-- What stands behind the number of holders. -/
def ending : Bytes :=
  Bytes.ofString " holders)"

theorem descriptionFormat_eq :
    descriptionFormat = [0x22] ++ ([Format.percentSign, 0x73] ++
      (middle ++ ([Format.percentSign, 0x7A, 0x75] ++ ending))) := by
  decide +kernel

/-- Bytes in quotes and a number of holders. -/
def quoted (shown : Bytes) (holders : Nat) : Bytes :=
  [0x22] ++ (shown ++ (middle ++ (Number.decimal holders ++ ending)))

theorem describe_eq (name : Bytes) {holders : Nat} (small : holders < 2 ^ 64) :
    describe name holders = quoted (Bytes.untilNul name) holders := by
  have count : (UInt64.ofNat holders).toNat = holders := by
    rw [UInt64.toNat_ofNat', Nat.mod_eq_of_lt small]
  have quote : Format.PrintsAll [0x22] [] [0x22] := Format.printsAll_byte (by decide)
  have between : Format.PrintsAll middle [] middle :=
    Format.printsAll_ordinary (by decide +kernel)
  have behind : Format.PrintsAll ending [] ending :=
    Format.printsAll_ordinary (by decide +kernel)
  have printed : Format.print descriptionFormat
      ([] ++ ([.bytes name] ++ ([] ++ ([.unsigned (UInt64.ofNat holders)] ++ [])))) =
        .ok (quoted (Bytes.untilNul name) holders) := by
    rw [descriptionFormat_eq, quote.print_append, (Format.printsAll_string name).print_append,
      between.print_append, (Format.printsAll_count _).print_append, count,
      Format.print_eq_ok_iff.mpr ⟨[], List.prefix_rfl, behind⟩]
    rfl
  simp only [List.nil_append, List.append_nil, List.singleton_append] at printed
  simp only [describe, printed]

/-- A number behind a byte that is no digit can be read back, and so can what stands before. -/
theorem append_decimal_inj {first second : Bytes} {number other : Nat}
    (stops : Format.Stops Format.isDigit first.reverse)
    (otherStops : Format.Stops Format.isDigit second.reverse)
    (same : first ++ Number.decimal number = second ++ Number.decimal other) :
    first = second ∧ number = other := by
  have digits (number : Nat) : ∀ byte ∈ (Number.decimal number).reverse,
      Format.isDigit byte = true := by
    intro byte byteMem
    exact Format.isDigit_decimal number byte (List.mem_reverse.mp byteMem)
  -- from the end, the digits are all that stands before the first byte that is none
  have reversed := congrArg List.reverse same
  rw [List.reverse_append, List.reverse_append] at reversed
  constructor
  · have front := congrArg (List.dropWhile Format.isDigit) reversed
    rw [Format.dropWhile_of_stops (digits number) stops,
      Format.dropWhile_of_stops (digits other) otherStops] at front
    exact List.reverse_injective front
  · have behind := congrArg (List.takeWhile Format.isDigit) reversed
    rw [Format.takeWhile_of_stops (digits number) stops,
      Format.takeWhile_of_stops (digits other) otherStops] at behind
    calc number = Number.valueIn 10 (Number.decimal number) :=
          (Number.isShortest_decimal number).value.symm
      _ = Number.valueIn 10 (Number.decimal other) := by rw [List.reverse_injective behind]
      _ = other := (Number.isShortest_decimal other).value

theorem stops_middle (bytes : Bytes) :
    Format.Stops Format.isDigit (bytes ++ middle).reverse := by
  have last : middle.reverse = 0x28 :: [0x20, 0x22] := by decide +kernel
  rw [List.reverse_append, last]
  intro first isFirst
  cases isFirst
  rfl

/-- What is in the quotes and the number of holders can be read back. -/
theorem quoted_inj {shown other : Bytes} {holders count : Nat} :
    quoted shown holders = quoted other count ↔ shown = other ∧ holders = count := by
  constructor
  · intro same
    -- a name may hold quotes and digits, so the parts are found from the end
    have parts := List.append_cancel_left same
    rw [← List.append_assoc, ← List.append_assoc, ← List.append_assoc, ← List.append_assoc]
      at parts
    rcases append_decimal_inj (stops_middle _) (stops_middle _)
      (List.append_cancel_right parts) with ⟨front, sameCount⟩
    exact ⟨List.append_cancel_right front, sameCount⟩
  · rintro ⟨rfl, rfl⟩
    rfl

/-- The C string at the start of bytes is all of them if there is no NUL. -/
theorem untilNul_eq_self_iff (bytes : Bytes) : Bytes.untilNul bytes = bytes ↔ 0 ∉ bytes := by
  rw [Bytes.untilNul, List.takeWhile_eq_self_iff]
  constructor
  · intro all nul
    exact absurd (all 0 nul) (by decide)
  · intro absent byte byteMem
    rw [bne_iff_ne]
    rintro rfl
    exact absent byteMem

/-! ## Reports -/

/-- The reports that describe a record. -/
def diagnoses : List (Bytes → Nat → LogEvent) :=
  [.created, .destroyRefused, .heldAtTeardown]

/-- A report is the text of a description between words of its own. -/
theorem exists_text_of_diagnoses {diagnosis : Bytes → Nat → LogEvent}
    (diagnosisMem : diagnosis ∈ diagnoses) :
    ∃ before behind, ∀ name holders,
      (diagnosis name holders).text = before ++ descriptionText name holders ++ behind := by
  simp only [diagnoses, List.mem_cons, List.not_mem_nil, or_false] at diagnosisMem
  rcases diagnosisMem with rfl | rfl | rfl
  · exact ⟨"created ", "", fun _ _ => String.append_empty.symm⟩
  · exact ⟨"destroy refused for ", "", fun _ _ => String.append_empty.symm⟩
  · exact ⟨"teardown with ", " still held", fun _ _ => rfl⟩

theorem text_inj {diagnosis : Bytes → Nat → LogEvent} (diagnosisMem : diagnosis ∈ diagnoses)
    (name other : Bytes) (holders count : Nat) :
    (diagnosis name holders).text = (diagnosis other count).text ↔
      descriptionText name holders = descriptionText other count := by
  rcases exists_text_of_diagnoses diagnosisMem with ⟨before, behind, shows⟩
  rw [shows, shows, String.append_left_inj, String.append_right_inj]

/-- Quotes, parentheses and digits around a text leave it a text. -/
theorem isWellFormed_quoted {shown : Bytes} (wellFormed : Utf8.isWellFormed shown)
    (holders : Nat) : Utf8.isWellFormed (quoted shown holders) := by
  have digits : Utf8.isWellFormed (Number.decimal holders) := by
    apply Utf8.isWellFormed_of_ascii
    intro byte byteMem
    have digit := Format.isDigit_decimal holders byte byteMem
    rw [Format.isDigit, Bool.and_eq_true, decide_eq_true_iff, decide_eq_true_iff] at digit
    exact UInt8.lt_of_le_of_lt digit.2 (by decide)
  have quote : Utf8.isWellFormed [0x22] := by decide +kernel
  have between : Utf8.isWellFormed middle := by decide +kernel
  have behind : Utf8.isWellFormed ending := by decide +kernel
  apply Utf8.isWellFormed_append quote
  apply Utf8.isWellFormed_append wellFormed
  apply Utf8.isWellFormed_append between
  exact Utf8.isWellFormed_append digits behind

/--
A description shows the C string of a name in quotes and the number of holders in as few
decimal digits as it has; it shows all of the name exactly if the name has no NUL. Descriptions
are the same exactly if the C strings and the numbers are. So names without a NUL are told apart
by their descriptions, and by every report if they are texts.
-/
theorem describe_identifies (name other : Bytes) {holders count : Nat}
    (small : holders < 2 ^ 64) (countSmall : count < 2 ^ 64) :
    describe name holders = quoted (Bytes.untilNul name) holders ∧
      Number.IsShortest 10 false holders (Number.decimal holders) ∧
      (describe name holders = quoted name holders ↔ 0 ∉ name) ∧
      (describe name holders = describe other count ↔
        Bytes.untilNul name = Bytes.untilNul other ∧ holders = count) ∧
      (0 ∉ name → 0 ∉ other →
        (describe name holders = describe other count ↔ name = other ∧ holders = count) ∧
        (Utf8.isWellFormed name → Utf8.isWellFormed other → ∀ diagnosis ∈ diagnoses,
          ((diagnosis name holders).text = (diagnosis other count).text ↔
            name = other ∧ holders = count))) := by
  have shown := describe_eq name small
  have otherShown := describe_eq other countSmall
  refine ⟨shown, Number.isShortest_decimal holders, ?_, ?_, ?_⟩
  · rw [shown, quoted_inj, untilNul_eq_self_iff]
    exact and_iff_left rfl
  · rw [shown, otherShown, quoted_inj]
  · intro absent otherAbsent
    rw [(untilNul_eq_self_iff name).mpr absent] at shown
    rw [(untilNul_eq_self_iff other).mpr otherAbsent] at otherShown
    constructor
    · rw [shown, otherShown, quoted_inj]
    · intro wellFormed otherWellFormed diagnosis diagnosisMem
      rw [text_inj diagnosisMem, descriptionText, descriptionText, shown, otherShown,
        Utf8.lossyText_inj (isWellFormed_quoted wellFormed holders)
          (isWellFormed_quoted otherWellFormed count), quoted_inj]

/-- The names `gui` and `gpu` with two holders are told apart, also by their reports. -/
theorem describe_identifies_gui :
    (2 < 2 ^ 64 ∧ (0 : UInt8) ∉ [0x67, 0x75, 0x69] ∧ (0 : UInt8) ∉ [0x67, 0x70, 0x75]) ∧
      describe [0x67, 0x75, 0x69] 2 ≠ describe [0x67, 0x70, 0x75] 2 ∧
        (LogEvent.created [0x67, 0x75, 0x69] 2).text ≠
          (LogEvent.created [0x67, 0x70, 0x75] 2).text := by
  have small : 2 < 2 ^ 64 := by decide
  have absent : (0 : UInt8) ∉ [0x67, 0x75, 0x69] := by decide
  have otherAbsent : (0 : UInt8) ∉ [0x67, 0x70, 0x75] := by decide
  rcases describe_identifies [0x67, 0x75, 0x69] [0x67, 0x70, 0x75] small small with
    ⟨_, _, _, _, identifies⟩
  rcases identifies absent otherAbsent with ⟨bytes, texts⟩
  refine ⟨⟨small, absent, otherAbsent⟩, ?_, ?_⟩
  · intro same
    exact absurd (bytes.mp same).1 (by decide)
  · intro same
    have created := texts (by decide +kernel) (by decide +kernel) .created (by simp [diagnoses])
    exact absurd (created.mp same).1 (by decide)

/--
Not every record is identified: of the names `a`, NUL, `b` and `a`, NUL, `c` a description shows
the same, which is less than the name, and so does every report.
-/
theorem not_every_record_identified :
    ([0x61, 0x00, 0x62] : Bytes) ≠ [0x61, 0x00, 0x63] ∧
      describe [0x61, 0x00, 0x62] 0 = describe [0x61, 0x00, 0x63] 0 ∧
      describe [0x61, 0x00, 0x62] 0 ≠ quoted [0x61, 0x00, 0x62] 0 ∧
      ∀ diagnosis ∈ diagnoses,
        (diagnosis [0x61, 0x00, 0x62] 0).text = (diagnosis [0x61, 0x00, 0x63] 0).text := by
  have shown : describe [0x61, 0x00, 0x62] 0 = quoted [0x61] 0 := describe_eq _ (by decide)
  have otherShown : describe [0x61, 0x00, 0x63] 0 = quoted [0x61] 0 := describe_eq _ (by decide)
  refine ⟨by decide, shown.trans otherShown.symm, ?_, ?_⟩
  · intro whole
    exact absurd (quoted_inj.mp (shown.symm.trans whole)).1 (by decide)
  · intro diagnosis diagnosisMem
    rw [text_inj diagnosisMem, descriptionText, descriptionText, shown, otherShown]

end Record

end Rtos
