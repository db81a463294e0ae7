import Rtos.Format.Directive

/-!
# The grammar of directives

A directive is spelled by flags, a width in digits or as a star, a point with a precision
in digits or as a star, a length modifier and a letter, of which all but the letter may be
missing. A spelling carries the proof that each of its parts is one of those.

The reader of directives finds exactly what has a spelling (`read?_eq_some_iff`). A
directive with zeros in front of its width has several spellings, because these zeros are
flags as well as digits; it means the same by all of them. The digits of an amount denote a
number without a limit, and the reader counts them as far as it can (`saturatedNumber_eq_min`).
-/

namespace Rtos

namespace Format

/-- The letters of the flags. -/
def flagLetters : List Char := ['-', '+', ' ', '#', '0']

/-- The length modifiers and what they say, the missing one among them. -/
def modifiers : List (List Char × Length) :=
  [([], .word), (['h', 'h'], .byte), (['h'], .short), (['l'], .wide), (['l', 'l'], .wide),
    (['z'], .wide), (['j'], .wide), (['t'], .wide), (['q'], .wide), (['L'], .word)]

/-- The letters of the conversions. -/
def conversions : List (Char × Conversion) :=
  [('%', .percent), ('d', .signed), ('i', .signed), ('u', .unsigned), ('o', .octal),
    ('x', .hexadecimal false), ('X', .hexadecimal true), ('c', .character), ('s', .string),
    ('p', .pointer), ('f', .fixed false), ('F', .fixed true), ('e', .scientific false),
    ('E', .scientific true), ('g', .general false), ('G', .general true)]

/-- The number that a sequence of digits denotes. -/
def numberOfDigits (bytes : Bytes) : Nat :=
  bytes.foldl (fun number byte => number * 10 + (byte.toNat - 0x30)) 0

/-- An amount as it is written. -/
inductive Written where
  /-- Digits, or nothing. -/
  | digits (bytes : Bytes) (valid : ∀ byte ∈ bytes, isDigit byte = true)
  | star

namespace Written

/-- The bytes of an amount. -/
def bytes : Written → Bytes
  | digits bytes _ => bytes
  | star => [Format.star]

/-- The amount that is written, as far as it can be counted. -/
def amount : Written → Amount
  | digits bytes _ => .literal (min (numberOfDigits bytes) countLimit)
  | star => .argument

/-- The zeros in front of an amount. -/
def zeros (written : Written) : Bytes :=
  written.bytes.takeWhile (· == 0x30)

end Written

/-- A directive as the grammar has it. -/
structure Spelling where
  flags : Bytes
  width : Written
  precision : Option Written
  modifier : List Char × Length
  letter : Char × Conversion
  flags_valid : ∀ byte ∈ flags, byte ∈ flagLetters.map Char.toUInt8
  modifier_mem : modifier ∈ modifiers
  letter_mem : letter ∈ conversions

namespace Spelling

/-- The bytes of the length modifier and of the letter. -/
def ending (spelling : Spelling) : Bytes :=
  spelling.modifier.1.map Char.toUInt8 ++ [spelling.letter.1.toUInt8]

/-- The bytes of the point and the precision. -/
def precisionBytes (spelling : Spelling) : Bytes :=
  match spelling.precision with
  | none => []
  | some written => point :: written.bytes

/-- The bytes of a directive behind its percent sign. -/
def bytes (spelling : Spelling) : Bytes :=
  spelling.flags ++ spelling.width.bytes ++ spelling.precisionBytes ++ spelling.ending

/-- The directive that is spelled. -/
def directive (spelling : Spelling) : Directive where
  flags := Flags.ofBytes (spelling.flags ++ spelling.width.zeros)
  width := spelling.width.amount
  precision := spelling.precision.map Written.amount
  length := spelling.modifier.2
  conversion := spelling.letter.2

end Spelling

/-! ## Where a part of a directive stops -/

/-- The bytes do not begin with one that passes the test. -/
def Stops (test : UInt8 → Bool) (bytes : Bytes) : Prop :=
  ∀ first ∈ bytes.head?, test first = false

theorem Stops.append {test : UInt8 → Bool} {bytes rest : Bytes} (stops : Stops test bytes)
    (restStops : Stops test rest) : Stops test (bytes ++ rest) := by
  cases bytes with
  | nil => exact restStops
  | cons first others => exact stops

theorem takeWhile_of_stops {test : UInt8 → Bool} {bytes rest : Bytes}
    (pass : ∀ byte ∈ bytes, test byte = true) (stops : Stops test rest) :
    (bytes ++ rest).takeWhile test = bytes := by
  rw [List.takeWhile_append_of_pos pass]
  cases rest with
  | nil => exact List.append_nil bytes
  | cons first others =>
    rw [List.takeWhile_cons_of_neg (by rw [stops first rfl]; exact Bool.false_ne_true),
      List.append_nil]

theorem dropWhile_of_stops {test : UInt8 → Bool} {bytes rest : Bytes}
    (pass : ∀ byte ∈ bytes, test byte = true) (stops : Stops test rest) :
    (bytes ++ rest).dropWhile test = rest := by
  rw [List.dropWhile_append_of_pos pass]
  cases rest with
  | nil => rfl
  | cons first others =>
    rw [List.dropWhile_cons_of_neg (by rw [stops first rfl]; exact Bool.false_ne_true)]

theorem stops_dropWhile (test : UInt8 → Bool) (bytes : Bytes) :
    Stops test (bytes.dropWhile test) := by
  induction bytes with
  | nil => exact fun first firstMem => by cases firstMem
  | cons byte rest ih =>
    rw [List.dropWhile_cons]
    split
    · exact ih
    case isFalse fails =>
      intro first firstMem
      cases firstMem
      exact Bool.eq_false_iff.mpr fails

/-- No part of a directive goes on with what its ending begins with. -/
theorem Spelling.stops_ending (spelling : Spelling) (rest : Bytes) (test : UInt8 → Bool)
    (part : test ∈ [isFlag, isDigit, (· == star), (· == point)]) :
    Stops test (spelling.ending ++ rest) := by
  have table : (modifiers.all fun modifier => conversions.all fun letter =>
      [isFlag, isDigit, (· == star), (· == point)].all fun test =>
        (modifier.1.map Char.toUInt8 ++ [letter.1.toUInt8]).head?.all fun first =>
          !test first) = true := by decide
  have stops : Stops test spelling.ending := by
    simp only [List.all_eq_true] at table
    intro first firstMem
    have row : spelling.ending.head?.all (fun first => !test first) = true :=
      table _ spelling.modifier_mem _ spelling.letter_mem test part
    rw [Option.mem_def.mp firstMem] at row
    simpa using row
  cases ending : spelling.ending with
  | nil => exact absurd ending (List.concat_ne_nil _ _)
  | cons first others =>
    rw [ending] at stops
    exact stops

theorem Spelling.stops_precision (spelling : Spelling) (rest : Bytes) (test : UInt8 → Bool)
    (part : test ∈ [isFlag, isDigit, (· == star)]) :
    Stops test (spelling.precisionBytes ++ (spelling.ending ++ rest)) := by
  have ending := spelling.stops_ending rest test (List.mem_append_left [(· == point)] part)
  refine Stops.append ?_ ending
  intro first firstMem
  rw [Spelling.precisionBytes] at firstMem
  split at firstMem
  · cases firstMem
  · cases firstMem
    have table : ([isFlag, isDigit, (· == star)].all fun test => !test point) = true := by decide
    simpa using List.all_eq_true.mp table test part

/-! ## Reading what is spelled -/

theorem Flags.read_append {flags rest : Bytes} (valid : ∀ byte ∈ flags, isFlag byte = true)
    (stops : Stops isFlag rest) : Flags.read (flags ++ rest) = (Flags.ofBytes flags, rest) := by
  rw [Flags.read, takeWhile_of_stops valid stops, dropWhile_of_stops valid stops]

theorem countDigit_min (number : Nat) (digit : UInt8) :
    countDigit (min number countLimit) digit =
      min (number * 10 + (digit.toNat - 0x30)) countLimit := by
  rw [countDigit]
  omega

theorem foldl_countDigit (digits : Bytes) (number : Nat) :
    digits.foldl countDigit (min number countLimit) =
      min (digits.foldl (fun number byte => number * 10 + (byte.toNat - 0x30)) number)
        countLimit := by
  induction digits generalizing number with
  | nil => rfl
  | cons digit digits ih => rw [List.foldl_cons, countDigit_min, ih, List.foldl_cons]

/-- Counting with a stop gives the number, or the stop if the number is beyond it. -/
theorem saturatedNumber_eq_min (digits : Bytes) :
    saturatedNumber digits = min (numberOfDigits digits) countLimit := by
  have counted := foldl_countDigit digits 0
  rw [Nat.zero_min] at counted
  exact counted

theorem Amount.read_digits {digits rest : Bytes} (valid : ∀ byte ∈ digits, isDigit byte = true)
    (stops : Stops isDigit rest) (noStar : Stops (· == star) rest) :
    Amount.read (digits ++ rest) =
      (.literal (min (numberOfDigits digits) countLimit), rest) := by
  have starAbsent : Stops (· == star) (digits ++ rest) := by
    refine Stops.append ?_ noStar
    intro first firstMem
    have digit := valid first (List.mem_of_mem_head? firstMem)
    apply beq_false_of_ne
    rintro rfl
    exact absurd digit (by decide)
  rw [Amount.read, if_neg, takeWhile_of_stops valid stops, dropWhile_of_stops valid stops,
    saturatedNumber_eq_min]
  intro starHead
  exact absurd (starAbsent star starHead) (by decide)

theorem numberOfDigits_cons_zero (digits : Bytes) :
    numberOfDigits (0x30 :: digits) = numberOfDigits digits := rfl

theorem numberOfDigits_dropWhile (digits : Bytes) :
    numberOfDigits (digits.dropWhile (· == 0x30)) = numberOfDigits digits := by
  induction digits with
  | nil => rfl
  | cons digit digits ih =>
    rw [List.dropWhile_cons]
    split
    case isTrue zero =>
      rw [beq_iff_eq] at zero
      rw [zero, numberOfDigits_cons_zero, ih]
    case isFalse => rfl

/-- An amount is read where it is written, and so is one without the zeros in front of it. -/
theorem Written.read_append (written : Written) {rest : Bytes} (stops : Stops isDigit rest)
    (noStar : Stops (· == Format.star) rest) :
    Amount.read (written.bytes ++ rest) = (written.amount, rest) ∧
      Amount.read (written.bytes.dropWhile (· == 0x30) ++ rest) = (written.amount, rest) := by
  cases written with
  | digits bytes valid =>
    have behind : ∀ byte ∈ bytes.dropWhile (· == 0x30), isDigit byte = true := by
      intro byte byteMem
      exact valid byte ((List.dropWhile_suffix _).subset byteMem)
    refine ⟨Amount.read_digits valid stops noStar, ?_⟩
    rw [Written.bytes, Amount.read_digits behind stops noStar, numberOfDigits_dropWhile,
      Written.amount]
  | star => exact ⟨rfl, rfl⟩

theorem eq_zero_of_isDigit_of_isFlag {byte : UInt8} (digit : isDigit byte = true)
    (flag : isFlag byte = true) : byte = 0x30 := by
  simp only [isFlag, Bool.or_eq_true, beq_iff_eq] at flag
  rcases flag with (((minus | plus) | space) | hash) | zero
  · exact absurd (minus ▸ digit) (by decide)
  · exact absurd (plus ▸ digit) (by decide)
  · exact absurd (space ▸ digit) (by decide)
  · exact absurd (hash ▸ digit) (by decide)
  · exact zero

/-- Behind the zeros of a width there is nothing that counts as a flag. -/
theorem Written.stops_behind_zeros (written : Written) {rest : Bytes} (stops : Stops isFlag rest) :
    Stops isFlag (written.bytes.dropWhile (· == 0x30) ++ rest) := by
  refine Stops.append ?_ stops
  intro first firstMem
  cases written with
  | digits bytes valid =>
    have notZero := stops_dropWhile (· == 0x30) bytes first firstMem
    have digit := valid first
      ((List.dropWhile_suffix _).subset (List.mem_of_mem_head? firstMem))
    rw [beq_eq_false_iff_ne] at notZero
    apply Bool.eq_false_iff.mpr
    intro flag
    exact notZero (eq_zero_of_isDigit_of_isFlag digit flag)
  | star =>
    cases firstMem
    rfl

theorem Spelling.isFlag_flags (spelling : Spelling) {byte : UInt8}
    (byteMem : byte ∈ spelling.flags ++ spelling.width.zeros) : isFlag byte = true := by
  have table : ∀ flag ∈ flagLetters.map Char.toUInt8, isFlag flag = true :=
    List.all_eq_true.mp (by decide)
  rcases List.mem_append.mp byteMem with flag | zero
  · exact table byte (spelling.flags_valid byte flag)
  · have same := (List.all_takeWhile (p := (· == 0x30)) (l := spelling.width.bytes))
    rw [List.all_eq_true] at same
    rw [beq_iff_eq.mp (same byte zero)]
    decide

theorem Spelling.readPrecision_append (spelling : Spelling) (rest : Bytes) :
    Amount.readPrecision (spelling.precisionBytes ++ (spelling.ending ++ rest)) =
      (spelling.precision.map Written.amount, spelling.ending ++ rest) := by
  rw [precisionBytes]
  cases spelling.precision with
  | none =>
    have stops := spelling.stops_ending rest (· == point) (by simp)
    rw [List.nil_append, Amount.readPrecision, if_neg]
    · rfl
    · intro pointHead
      exact absurd (stops point pointHead) (by decide)
  | some written =>
    have read := (written.read_append (spelling.stops_ending rest isDigit (by simp))
      (spelling.stops_ending rest (· == star) (by simp))).1
    rw [List.cons_append, Amount.readPrecision, List.head?_cons, if_pos rfl, List.tail_cons, read]
    rfl

theorem Spelling.read_ending (spelling : Spelling) (rest : Bytes) :
    Length.read (spelling.ending ++ rest) =
      (spelling.modifier.2, spelling.letter.1.toUInt8 :: rest) := by
  have table : ∀ modifier ∈ modifiers, ∀ letter ∈ conversions,
      Length.read (modifier.1.map Char.toUInt8 ++ letter.1.toUInt8 :: rest) =
        (modifier.2, letter.1.toUInt8 :: rest) := by
    simp only [modifiers, conversions, List.forall_mem_cons]
    refine ⟨?_, ?_, ?_, ?_, ?_, ?_, ?_, ?_, ?_, ?_, fun _ none => nomatch none⟩
    all_goals refine ⟨rfl, rfl, rfl, rfl, rfl, rfl, rfl, rfl, rfl, rfl, rfl, rfl, rfl, rfl, rfl,
      rfl, fun _ none => nomatch none⟩
  rw [ending, List.append_assoc]
  exact table _ spelling.modifier_mem _ spelling.letter_mem

theorem Spelling.ofChar?_letter (spelling : Spelling) :
    Conversion.ofChar? (Char.ofUInt8 spelling.letter.1.toUInt8) = some spelling.letter.2 := by
  have table : ∀ letter ∈ conversions,
      Conversion.ofChar? (Char.ofUInt8 letter.1.toUInt8) = some letter.2 := by decide
  exact table _ spelling.letter_mem

/-- The reader finds the directive that is spelled, and stops behind its letter. -/
theorem Spelling.read?_append (spelling : Spelling) (rest : Bytes) :
    Directive.read? (spelling.bytes ++ rest) = some (spelling.directive, rest) := by
  have flags : Flags.read (spelling.bytes ++ rest) =
      (Flags.ofBytes (spelling.flags ++ spelling.width.zeros),
        spelling.width.bytes.dropWhile (· == 0x30) ++
          (spelling.precisionBytes ++ (spelling.ending ++ rest))) := by
    have split : spelling.bytes ++ rest = (spelling.flags ++ spelling.width.zeros) ++
        (spelling.width.bytes.dropWhile (· == 0x30) ++
          (spelling.precisionBytes ++ (spelling.ending ++ rest))) := by
      simp only [bytes, Written.zeros, List.append_assoc,
        ← List.append_assoc (spelling.width.bytes.takeWhile _), List.takeWhile_append_dropWhile]
    rw [split]
    refine Flags.read_append (fun byte => spelling.isFlag_flags) ?_
    exact spelling.width.stops_behind_zeros (spelling.stops_precision rest isFlag (by simp))
  have width := (spelling.width.read_append
    (spelling.stops_precision rest isDigit (by simp))
    (spelling.stops_precision rest (· == star) (by simp))).2
  simp only [Directive.read?, flags, width, spelling.readPrecision_append, spelling.read_ending,
    Conversion.read?, spelling.ofChar?_letter, Option.map_some]
  rfl

/-! ## Spelling what is read -/

theorem Amount.exists_written (bytes : Bytes) :
    ∃ written : Written, bytes = written.bytes ++ (Amount.read bytes).2 ∧
      written.amount = (Amount.read bytes).1 := by
  rw [Amount.read]
  split
  case isTrue starHead =>
    refine ⟨.star, ?_, rfl⟩
    cases bytes with
    | nil => cases starHead
    | cons first rest =>
      cases starHead
      rfl
  case isFalse =>
    have valid : ∀ byte ∈ bytes.takeWhile isDigit, isDigit byte = true :=
      List.all_eq_true.mp List.all_takeWhile
    refine ⟨.digits (bytes.takeWhile isDigit) valid, List.takeWhile_append_dropWhile.symm, ?_⟩
    rw [saturatedNumber_eq_min]
    rfl

theorem Amount.exists_precision (bytes : Bytes) :
    ∃ precision : Option Written,
      bytes = (match precision with
        | none => []
        | some written => point :: written.bytes) ++ (Amount.readPrecision bytes).2 ∧
      precision.map Written.amount = (Amount.readPrecision bytes).1 := by
  rw [Amount.readPrecision]
  split
  case isTrue pointHead =>
    cases bytes with
    | nil => cases pointHead
    | cons first rest =>
      cases pointHead
      obtain ⟨written, split, amount⟩ := Amount.exists_written rest
      refine ⟨some written, ?_, congrArg some amount⟩
      rw [List.cons_append]
      exact congrArg _ split
  case isFalse => exact ⟨none, rfl, rfl⟩

theorem Length.exists_modifier (bytes : Bytes) :
    ∃ modifier ∈ modifiers,
      bytes = modifier.1.map Char.toUInt8 ++ (Length.read bytes).2 ∧
        modifier.2 = (Length.read bytes).1 := by
  unfold Length.read
  split
  · exact ⟨(['h', 'h'], .byte), by decide, rfl, rfl⟩
  · exact ⟨(['h'], .short), by decide, rfl, rfl⟩
  · exact ⟨(['l', 'l'], .wide), by decide, rfl, rfl⟩
  · exact ⟨(['l'], .wide), by decide, rfl, rfl⟩
  · exact ⟨(['z'], .wide), by decide, rfl, rfl⟩
  · exact ⟨(['j'], .wide), by decide, rfl, rfl⟩
  · exact ⟨(['t'], .wide), by decide, rfl, rfl⟩
  · exact ⟨(['q'], .wide), by decide, rfl, rfl⟩
  · exact ⟨(['L'], .word), by decide, rfl, rfl⟩
  · exact ⟨([], .word), by decide, rfl, rfl⟩

theorem toUInt8_ofUInt8 (byte : UInt8) : (Char.ofUInt8 byte).toUInt8 = byte :=
  UInt8.toUInt8_toUInt32 byte

theorem Conversion.exists_letter {bytes rest : Bytes} {conversion : Conversion}
    (read : Conversion.read? bytes = some (conversion, rest)) :
    ∃ letter ∈ conversions, bytes = letter.1.toUInt8 :: rest ∧ letter.2 = conversion := by
  cases bytes with
  | nil => cases read
  | cons byte others =>
    rw [Conversion.read?, Option.map_eq_some_iff] at read
    obtain ⟨found, named, same⟩ := read
    cases same
    have letters : ∀ letter : Char, Conversion.ofChar? letter = some conversion →
        (letter, conversion) ∈ conversions := by
      intro letter
      unfold Conversion.ofChar?
      split <;> intro named <;> cases named <;> decide
    refine ⟨_, letters _ named, ?_, rfl⟩
    rw [toUInt8_ofUInt8]

theorem mem_flagLetters {byte : UInt8} (flag : isFlag byte = true) :
    byte ∈ flagLetters.map Char.toUInt8 := by
  simp only [isFlag, Bool.or_eq_true, beq_iff_eq] at flag
  rcases flag with (((rfl | rfl) | rfl) | rfl) | rfl <;> decide

theorem Written.zeros_eq_nil (written : Written) {rest : Bytes}
    (stops : Stops isFlag (written.bytes ++ rest)) : written.zeros = [] := by
  rw [zeros]
  cases bytes : written.bytes with
  | nil => rfl
  | cons first others =>
    rw [bytes] at stops
    rw [List.takeWhile_cons_of_neg]
    intro zero
    have notFlag := stops first rfl
    rw [beq_iff_eq.mp zero] at notFlag
    exact absurd notFlag (by decide)

/-- What the reader takes off is a spelling of the directive that it finds. -/
theorem Directive.exists_spelling {bytes rest : Bytes} {directive : Directive}
    (read : Directive.read? bytes = some (directive, rest)) :
    ∃ spelling : Spelling, bytes = spelling.bytes ++ rest ∧ spelling.directive = directive := by
  rw [Directive.read?] at read
  simp only [Option.map_eq_some_iff, Prod.exists, Prod.mk.injEq] at read
  obtain ⟨conversion, behind, letterRead, found, rfl⟩ := read
  obtain ⟨width, widthSplit, widthAmount⟩ := Amount.exists_written (Flags.read bytes).2
  obtain ⟨precision, precisionSplit, precisionAmount⟩ :=
    Amount.exists_precision (Amount.read (Flags.read bytes).2).2
  obtain ⟨modifier, modifierMem, modifierSplit, length⟩ := Length.exists_modifier
    (Amount.readPrecision (Amount.read (Flags.read bytes).2).2).2
  obtain ⟨letter, letterMem, letterSplit, same⟩ := Conversion.exists_letter letterRead
  have valid : ∀ byte ∈ bytes.takeWhile isFlag, byte ∈ flagLetters.map Char.toUInt8 :=
    fun byte byteMem => mem_flagLetters (List.all_eq_true.mp List.all_takeWhile byte byteMem)
  refine ⟨⟨bytes.takeWhile isFlag, width, precision, modifier, letter, valid, modifierMem,
    letterMem⟩, ?_, ?_⟩
  · rw [letterSplit] at modifierSplit
    have flagsSplit : bytes = bytes.takeWhile isFlag ++ (Flags.read bytes).2 :=
      List.takeWhile_append_dropWhile.symm
    calc bytes
        = bytes.takeWhile isFlag ++ (Flags.read bytes).2 := flagsSplit
      _ = _ := by
        rw [widthSplit, precisionSplit, modifierSplit]
        simp only [Spelling.bytes, Spelling.ending, List.append_assoc, List.singleton_append]
        cases precision <;> rfl
  · have noZeros : width.zeros = [] := by
      have stops : Stops isFlag (Flags.read bytes).2 := stops_dropWhile isFlag bytes
      rw [widthSplit] at stops
      exact width.zeros_eq_nil stops
    rw [← found, Spelling.directive, noZeros, List.append_nil]
    simp only [widthAmount, precisionAmount, length, same]
    rfl

/-- The reader finds exactly what has a spelling. -/
theorem Directive.read?_eq_some_iff {bytes rest : Bytes} {directive : Directive} :
    Directive.read? bytes = some (directive, rest) ↔
      ∃ spelling : Spelling,
        bytes = spelling.bytes ++ rest ∧ spelling.directive = directive := by
  constructor
  · exact Directive.exists_spelling
  · rintro ⟨spelling, rfl, rfl⟩
    exact spelling.read?_append rest

end Format

end Rtos
