import Rtos.Proofs.Format.Acceptance

/-!
# Integers as text

What the integer conversions write. An argument is an integer that is reduced to the bits
its length modifier names; the text is spaces, a sign, a radix mark, zeros, digits and spaces
again, and `IntegerText.Shows` says what each part is for a conversion, its flags, its width,
its precision and the reduced integer. `print_integer` says that this is what is printed.
-/

namespace Rtos

namespace Format

/-- The number of bits that a length modifier names. -/
def Length.bits : Length → Nat
  | byte => 8
  | short => 16
  | word => 32
  | wide => 64

namespace Conversion

/-- Whether a conversion writes integers. -/
def isInteger : Conversion → Bool
  | signed | unsigned | octal | hexadecimal _ => true
  | _ => false

/-- The integer with the same low bits as a given one: a signed or an unsigned number. -/
def reduce (conversion : Conversion) (length : Length) (integer : Int) : Int :=
  match conversion with
  | signed => integer.bmod (2 ^ length.bits)
  | _ => integer % 2 ^ length.bits

end Conversion

/-- The parts of a written integer. -/
structure IntegerText where
  /-- The number of spaces in front. -/
  before : Nat
  sign : Bytes
  mark : Bytes
  /-- The number of zeros between the mark and the digits. -/
  fill : Nat
  digits : Bytes
  /-- The number of spaces behind. -/
  after : Nat

namespace IntegerText

/-- The written integer. -/
def bytes (text : IntegerText) : Bytes :=
  Field.spaces text.before ++ (text.sign ++ text.mark) ++ Field.zeros text.fill ++ text.digits ++
    Field.spaces text.after

/-- The integer that the sign and the digits denote. -/
def value (text : IntegerText) (base : Nat) : Int :=
  let magnitude := Number.valueIn base (Field.zeros text.fill ++ text.digits)
  if text.sign = [0x2D] then -magnitude else magnitude

/-- What the text of an integer is in a conversion with flags, width and precision. -/
structure Shows (text : IntegerText) (conversion : Conversion) (flags : Flags) (width : Nat)
    (precision : Option Nat) (integer : Int) : Prop where
  length_eq : text.bytes.length =
    max width (text.sign.length + text.mark.length + text.digits.length)
  value_eq : text.value conversion.base = integer
  sign_eq : text.sign =
    if conversion ≠ .signed then []
    else if integer < 0 then [0x2D]
    else if flags.plus then [0x2B]
    else if flags.space then [0x20]
    else []
  mark_eq : text.mark =
    match conversion with
    | .hexadecimal upper =>
        if flags.alternate ∧ integer ≠ 0 then [0x30, if upper then 0x58 else 0x78] else []
    | _ => []
  /-- The digits are the shortest ones, or none, behind zeros that make up the precision. -/
  digits_eq : ∃ numeral : Bytes,
    (if integer = 0 ∧ precision = some 0 then numeral = []
      else Number.IsShortest conversion.base conversion.isUpper integer.natAbs numeral) ∧
    let extended := Field.zeros (precision.getD 0 - numeral.length) ++ numeral
    text.digits =
      if conversion = .octal ∧ flags.alternate ∧ extended.head? ≠ some 0x30 then
        0x30 :: extended
      else extended
  octal : conversion = .octal → flags.alternate → text.digits.head? = some 0x30
  left : flags.left → text.before = 0 ∧ text.fill = 0
  zeros : ¬ flags.left → flags.zero → precision = none → text.before = 0 ∧ text.after = 0
  spaces : ¬ flags.left → ¬ (flags.zero ∧ precision = none) →
    text.fill = 0 ∧ text.after = 0

end IntegerText

/-! ## Reduced integers -/

theorem Length.toInt_truncateSigned (length : Length) (value : Int64) :
    (length.truncateSigned value).toInt = value.toInt.bmod (2 ^ length.bits) := by
  cases length with
  | byte => simp [truncateSigned, bits]
  | short => simp [truncateSigned, bits]
  | word => simp [truncateSigned, bits]
  | wide => exact (BitVec.toInt_bmod_cancel value.toBitVec).symm

theorem Length.toNat_truncateUnsigned (length : Length) (value : UInt64) :
    (length.truncateUnsigned value).toNat = value.toNat % 2 ^ length.bits := by
  cases length with
  | byte => simp [truncateUnsigned, bits]
  | short => simp [truncateUnsigned, bits]
  | word => simp [truncateUnsigned, bits]
  | wide => exact (Nat.mod_eq_of_lt value.toNat_lt).symm

theorem Length.two_pow_bits_dvd (length : Length) : 2 ^ length.bits ∣ 2 ^ 64 :=
  Nat.pow_dvd_pow 2 (by cases length <;> decide)

theorem Directive.operand?_of_signed {directive : Directive} {argument : Argument}
    (signed : directive.conversion = .signed) (accepted : argument.kind ∈ integerKinds) :
    let reduced := argument.integer.bmod (2 ^ directive.length.bits)
    directive.operand? argument = some (.integer (reduced < 0) reduced.natAbs) := by
  have reading := argument.map_signed?
  rw [if_pos accepted, Option.map_eq_some_iff] at reading
  obtain ⟨value, read, same⟩ := reading
  have reduced := directive.length.toInt_truncateSigned value
  rw [same, Int.bmod_bmod_of_dvd directive.length.two_pow_bits_dvd] at reduced
  simp only [Directive.operand?, signed, read, Option.map_some, reduced]

theorem Directive.operand?_of_unsigned {directive : Directive} {argument : Argument}
    (integer : directive.conversion.isInteger = true) (unsigned : directive.conversion ≠ .signed)
    (accepted : argument.kind ∈ Kind.pointer :: integerKinds) :
    directive.operand? argument =
      some (.integer false (argument.integer % 2 ^ directive.length.bits).natAbs) := by
  have reading := argument.map_unsigned?
  rw [if_pos accepted, Option.map_eq_some_iff] at reading
  obtain ⟨value, read, same⟩ := reading
  have bits : ((2 : Int) ^ directive.length.bits) = ((2 ^ directive.length.bits : Nat) : Int) :=
    by push_cast; rfl
  have reduced : ((directive.length.truncateUnsigned value).toNat : Int) =
      argument.integer % 2 ^ directive.length.bits := by
    rw [Length.toNat_truncateUnsigned, same, Int.natCast_emod, Int.toNat_of_nonneg, bits]
    · exact Int.emod_emod_of_dvd _ (Int.natCast_dvd_natCast.mpr directive.length.two_pow_bits_dvd)
    · exact Int.emod_nonneg _ (by decide)
  have operand : directive.operand? argument = argument.unsigned?.map fun value =>
      .integer false (directive.length.truncateUnsigned value).toNat := by
    rw [Directive.operand?]
    cases conversion : directive.conversion <;> rw [conversion] at integer unsigned <;>
      first | rfl | exact absurd rfl unsigned | cases integer
  rw [operand, read, Option.map_some, ← reduced, Int.natAbs_natCast]

theorem Conversion.reduce_of_ne_signed {conversion : Conversion} (unsigned : conversion ≠ .signed)
    (length : Length) (integer : Int) :
    conversion.reduce length integer = integer % 2 ^ length.bits := by
  cases conversion <;> first | rfl | exact absurd rfl unsigned

theorem Conversion.reduce_nonneg {conversion : Conversion} (length : Length) (integer : Int)
    (unsigned : conversion ≠ .signed) : 0 ≤ conversion.reduce length integer := by
  rw [Conversion.reduce_of_ne_signed unsigned]
  exact Int.emod_nonneg _ (Int.pow_ne_zero (by decide))

/-- The operand of an integer conversion is the reduced integer of its argument. -/
theorem Directive.operand?_of_isInteger {directive : Directive} {argument : Argument}
    {reduced : Int} (integer : directive.conversion.isInteger = true)
    (accepted : argument.kind ∈ directive.conversion.kinds)
    (same : directive.conversion.reduce directive.length argument.integer = reduced) :
    directive.operand? argument = some (.integer (reduced < 0) reduced.natAbs) := by
  by_cases signed : directive.conversion = .signed
  · rw [signed] at accepted same
    rw [← same]
    exact Directive.operand?_of_signed signed accepted
  · have kinds : directive.conversion.kinds = .pointer :: integerKinds := by
      cases conversion : directive.conversion <;> rw [conversion] at integer signed <;>
        first | rfl | exact absurd rfl signed | cases integer
    have notNegative := Int.not_lt.mpr
      (Conversion.reduce_nonneg directive.length argument.integer signed)
    rw [kinds] at accepted
    rw [← same, decide_eq_false notNegative, Conversion.reduce_of_ne_signed signed]
    exact Directive.operand?_of_unsigned integer signed accepted

/-! ## Digits -/

theorem Conversion.two_le_base (conversion : Conversion) : 2 ≤ conversion.base := by
  unfold base
  split <;> decide

theorem Conversion.base_le_sixteen (conversion : Conversion) : conversion.base ≤ 16 := by
  unfold base
  split <;> decide

variable {layout : Layout} {conversion : Conversion}

/-- The digits of a layout are the shortest ones, or none, behind zeros. -/
theorem Layout.integerDigits_eq (layout : Layout) (conversion : Conversion) (magnitude : Nat) :
    ∃ numeral : Bytes,
      (if magnitude = 0 ∧ layout.precision = some 0 then numeral = []
        else Number.IsShortest conversion.base conversion.isUpper magnitude numeral) ∧
      layout.integerDigits conversion magnitude =
        Field.zeros (layout.precision.getD 0 - numeral.length) ++ numeral := by
  have shortest := Number.isShortest_numeral conversion.two_le_base conversion.base_le_sixteen
    conversion.isUpper magnitude
  by_cases nothing : magnitude = 0 ∧ layout.precision = some 0
  · refine ⟨[], (if_pos nothing).mpr rfl, ?_⟩
    rw [integerDigits, nothing.2]
    exact if_pos ⟨rfl, nothing.1⟩
  · refine ⟨_, (if_neg nothing).mpr shortest, ?_⟩
    rw [integerDigits]
    cases precision : layout.precision with
    | none => rw [Option.getD_none, Nat.zero_sub]; rfl
    | some count =>
      have some : ¬ (count = 0 ∧ magnitude = 0) := by
        rintro ⟨rfl, zero⟩
        exact nothing ⟨zero, precision⟩
      exact if_neg some

theorem Layout.valueIn_integerBody (layout : Layout) (conversion : Conversion) (magnitude : Nat)
    (count : Nat) :
    Number.valueIn conversion.base
        (Field.zeros count ++ layout.integerBody conversion magnitude) = magnitude := by
  obtain ⟨numeral, shortest, digits⟩ := layout.integerDigits_eq conversion magnitude
  have value : Number.valueIn conversion.base (layout.integerDigits conversion magnitude) =
      magnitude := by
    rw [digits, Field.zeros, Number.valueIn_zeros]
    split at shortest
    case isTrue nothing => rw [shortest, nothing.1]; rfl
    case isFalse => exact shortest.value
  rw [Field.zeros, Number.valueIn_zeros, Layout.integerBody]
  split
  · exact (Number.valueIn_zeros conversion.base 1 _).trans value
  · exact value

/-! ## Parts of a field -/

/-- The parts of the field of an integer, filled up to its width. -/
def Layout.integerText (layout : Layout) (conversion : Conversion) (integer : Int) :
    IntegerText :=
  let field := layout.integerField conversion (integer < 0) integer.natAbs
  let missing := layout.width - field.length
  let sign := if conversion = .signed then layout.flags.sign (integer < 0) else []
  { before := if layout.flags.left || field.zeroFill then 0 else missing
    sign := sign
    mark := field.mark.drop sign.length
    fill := if !layout.flags.left && field.zeroFill then missing else 0
    digits := field.body
    after := if layout.flags.left then missing else 0 }

theorem Layout.sign_append_mark (layout : Layout) (conversion : Conversion) (integer : Int) :
    (layout.integerText conversion integer).sign ++ (layout.integerText conversion integer).mark =
      layout.integerMark conversion (integer < 0) integer.natAbs := by
  simp only [integerText, integerField]
  split
  case isTrue signed => rw [signed, integerMark, List.drop_length, List.append_nil]
  case isFalse => rfl

theorem Layout.bytes_integerText (layout : Layout) (conversion : Conversion) (integer : Int) :
    (layout.integerText conversion integer).bytes =
      (layout.integerField conversion (integer < 0) integer.natAbs).padded layout := by
  have none : Field.spaces 0 = [] ∧ Field.zeros 0 = [] := ⟨rfl, rfl⟩
  rw [IntegerText.bytes, Layout.sign_append_mark]
  by_cases left : layout.flags.left = true
  · simp [integerText, Field.padded, left, none, integerField]
  · by_cases zeroFill : (layout.integerField conversion (integer < 0)
        integer.natAbs).zeroFill = true
    · simp [integerText, Field.padded, left, zeroFill, none]
      rfl
    · simp [integerText, Field.padded, left, zeroFill, none]
      rfl

theorem Field.length_padded (field : Field) (layout : Layout) :
    (field.padded layout).length = max layout.width field.length := by
  simp only [Field.padded, Field.spaces, Field.zeros, Field.length]
  split
  · simp only [List.length_append, List.length_replicate]
    omega
  split <;> simp only [List.length_append, List.length_replicate] <;> omega

theorem Flags.sign_eq_minus_iff (flags : Flags) (negative : Bool) :
    flags.sign negative = [0x2D] ↔ negative = true := by
  rw [Flags.sign]
  cases negative with
  | true => simp
  | false =>
    rw [if_neg Bool.false_ne_true]
    cases flags.plus <;> cases flags.space <;> decide

/-- What a layout writes for an integer is what the conversion asks for. -/
theorem Layout.shows_integerText (layout : Layout) (conversion : Conversion) {integer : Int}
    (notNegative : conversion ≠ .signed → 0 ≤ integer) :
    (layout.integerText conversion integer).Shows conversion layout.flags layout.width
      layout.precision integer where
  length_eq := by
    have parts := congrArg List.length (layout.sign_append_mark conversion integer)
    rw [List.length_append] at parts
    rw [bytes_integerText, Field.length_padded, Field.length, parts]
    rfl
  value_eq := by
    have minus : (layout.integerText conversion integer).sign = [0x2D] ↔
        conversion = .signed ∧ integer < 0 := by
      simp only [integerText]
      split
      case isTrue signed => simp [Flags.sign_eq_minus_iff, signed]
      case isFalse unsigned => simp [unsigned]
    have magnitude : Number.valueIn conversion.base
        (Field.zeros (layout.integerText conversion integer).fill ++
          (layout.integerText conversion integer).digits) = integer.natAbs :=
      layout.valueIn_integerBody conversion integer.natAbs _
    simp only [IntegerText.value, minus, magnitude]
    by_cases signed : conversion = .signed
    · simp only [signed, true_and]
      split <;> omega
    · have positive := notNegative signed
      simp only [signed, false_and, if_false]
      omega
  sign_eq := by
    simp only [integerText, Flags.sign, ite_not, decide_eq_true_eq]
  mark_eq := by
    cases conversion <;> simp [integerText, integerField, integerMark]
  digits_eq := by
    obtain ⟨numeral, shortest, digits⟩ := layout.integerDigits_eq conversion integer.natAbs
    simp only [Int.natAbs_eq_zero] at shortest
    refine ⟨numeral, shortest, ?_⟩
    rw [← digits]
    rfl
  octal := by
    rintro rfl alternate
    change (layout.integerBody .octal integer.natAbs).head? = some 0x30
    rw [integerBody]
    split
    · rfl
    case isFalse zero =>
      exact Decidable.byContradiction fun other => zero ⟨rfl, alternate, other⟩
  left := by
    intro left
    simp [integerText, left]
  zeros := by
    intro left zero noPrecision
    simp [integerText, integerField, left, zero, noPrecision]
  spaces := by
    intro left notZero
    have noZeroFill : (layout.flags.zero && layout.precision.isNone) = false := by
      rw [Bool.eq_false_iff, Ne, Bool.and_eq_true, Option.isNone_iff_eq_none]
      exact notZero
    simp [integerText, integerField, left, noZeroFill]

/-! ## Printed integers -/

/-- A format that is one directive is printed as the item of this directive. -/
theorem print_spelling (spelling : Spelling) (arguments : List Argument) :
    print (percentSign :: spelling.bytes) arguments =
      (spelling.directive.item arguments).map fun result => result.1.render := by
  have read := spelling.read?_append []
  rw [List.append_nil] at read
  have parsed : Piece.parse (percentSign :: spelling.bytes) = [.directive spelling.directive] := by
    rw [Piece.parse, if_pos rfl]
    split
    case h_1 malformed =>
      rw [read] at malformed
      cases malformed
    case h_2 directive remaining found =>
      rw [read] at found
      cases found
      rw [Piece.parse]
  rw [print, resolve, parsed]
  cases item : spelling.directive.item arguments with
  | error failure =>
    rw [Piece.items_of_error (.directive _) _ item]
    rfl
  | ok result =>
    rw [Piece.items_of_ok [] (show (Piece.directive _).item arguments = .ok (result.1, result.2)
      from item)]
    exact congrArg Except.ok (List.append_nil _)

/--
An integer conversion writes the integer of its argument, reduced to the bits that its length
modifier names, with the sign, mark, digits and filling that its flags, width and precision
ask for.
-/
theorem print_integer {spelling : Spelling} {arguments behindWidth rest : List Argument}
    {argument : Argument} {width : Int} {precision : Option Nat}
    (integer : spelling.letter.2.isInteger = true)
    (widthGiven : spelling.width.Gives arguments width behindWidth)
    (widthWithin : width.natAbs ≤ amountLimit)
    (precisionGiven : GivesPrecision spelling.precision behindWidth precision (argument :: rest))
    (precisionWithin : ∀ number ∈ precision, number ≤ amountLimit)
    (accepted : argument.kind ∈ spelling.letter.2.kinds) :
    ∃ text : IntegerText, print (percentSign :: spelling.bytes) arguments = .ok text.bytes ∧
      text.Shows spelling.letter.2 (spelling.directive.flags.leftIf (width < 0)) width.natAbs
        precision (spelling.letter.2.reduce spelling.modifier.2 argument.integer) := by
  have read := Spelling.layout?_of_gives widthGiven widthWithin precisionGiven precisionWithin
  have operand : spelling.directive.operand? argument = some (.integer
      (spelling.letter.2.reduce spelling.modifier.2 argument.integer < 0)
      (spelling.letter.2.reduce spelling.modifier.2 argument.integer).natAbs) :=
    Directive.operand?_of_isInteger integer accepted rfl
  have notPercent : spelling.directive.conversion ≠ .percent := by
    intro percent
    rw [show spelling.letter.2 = .percent from percent] at integer
    cases integer
  let layout : Layout :=
    ⟨spelling.directive.flags.leftIf (width < 0), width.natAbs, precision⟩
  refine ⟨_, ?_, layout.shows_integerText _ (Conversion.reduce_nonneg _ _)⟩
  rw [print_spelling, Directive.item, read]
  simp only [Directive.itemIn_cons _ _ _ notPercent, operand]
  rw [Layout.bytes_integerText]
  rfl

/-- The directive `%-+5hhd` without its percent sign. -/
def leftByte : Spelling where
  flags := [0x2D, 0x2B]
  width := .digits [0x35] (List.all_eq_true.mp (by decide))
  precision := none
  modifier := (['h', 'h'], .byte)
  letter := ('d', .signed)
  flags_valid _ flag := List.Sublist.mem flag (by decide)
  modifier_mem := by decide
  letter_mem := by decide

/-- Three hundred has the low byte of forty-four. -/
theorem print_integer_leftByte :
    ∃ text : IntegerText,
      print (percentSign :: leftByte.bytes) [.signed 300] = .ok text.bytes ∧
        text.Shows .signed { left := true, plus := true } 5 none 44 := by
  have width : leftByte.width.Gives [.signed 300] 5 [.signed 300] := .digits
  have precision : GivesPrecision leftByte.precision [.signed 300] none [.signed 300] := .absent
  exact print_integer (by decide) width (by decide) precision (by decide) (by decide)

end Format

end Rtos
