import Rtos.Proofs.Format.Composition
import Rtos.Proofs.Format.RealText

/-!
# Widths and stars

A width only fills up what is written without one: with spaces on the right or on the left, or
with zeros behind the mark at the front, which is a sign or a radix mark and can be told from
the output alone (`leadingMark`). Every conversion makes a field, and fields are filled up in
one place; what is left to show is that a body never begins like a mark.

A star takes a number from the arguments and does what the number does where it is written: a
directive with a star has the layout of one with the number in its place, and what it does
afterwards depends on its layout only.
-/

namespace Rtos

namespace Format

/-! ## Widths -/

/-- The sign or the radix mark at the front of an output, if there is one. -/
def leadingMark (output : Bytes) : Bytes :=
  if output.take 2 = [0x30, 0x78] ∨ output.take 2 = [0x30, 0x58] then output.take 2
  else if output.head? = some 0x2D ∨ output.head? = some 0x2B ∨ output.head? = some 0x20 then
    output.take 1
  else []

/-- The zero flag has an effect: on integers without a precision and on finite values. -/
def FillsWithZeros (conversion : Conversion) (precision : Option ℕ) (argument : Argument) :
    Prop :=
  conversion.isInteger = true ∧ precision = none ∨
    conversion.isFloating = true ∧ ∃ negative significand exponent,
      argument.floating? = some (.finite negative significand exponent)

/-- An output with a width is the one without it, filled up. -/
structure Widens (flags : Flags) (width : ℕ) (fillsWithZeros : Prop) (output widened : Bytes) :
    Prop where
  length_eq : widened.length = max width output.length
  left : flags.left = true → widened = output ++ Field.spaces (width - output.length)
  zeros : flags.left = false → flags.zero = true ∧ fillsWithZeros →
    widened = leadingMark output ++ Field.zeros (width - output.length) ++
      output.drop (leadingMark output).length
  spaces : flags.left = false → ¬(flags.zero = true ∧ fillsWithZeros) →
    widened = Field.spaces (width - output.length) ++ output

/--
A use for which there are enough places is written as an output, and with a width as a widened
one. If there are not enough, which only a floating-point value can need, it is not written at
all, whatever the width.
-/
inductive WidensResult (flags : Flags) (width : ℕ) (use : Use) :
    Except Failure Bytes → Except Failure Bytes → Prop where
  | output {output widened : Bytes} (fits : use.Fits)
      (widens : Widens flags width (FillsWithZeros use.conversion use.precision use.argument)
        output widened) :
      WidensResult flags width use (.ok output) (.ok widened)
  | tooManyPlaces (full : ¬use.Fits) :
      WidensResult flags width use (.error .tooManyPlaces) (.error .tooManyPlaces)

/-! ## Marks at the front of an output -/

/-- The bytes do not begin with a sign, and there is no letter of a radix mark among them. -/
structure Unmarked (body : Bytes) : Prop where
  noRadix : ∀ byte ∈ body, byte ≠ 0x78 ∧ byte ≠ 0x58
  noSign : ∀ first ∈ body.head?, first ≠ 0x2D ∧ first ≠ 0x2B ∧ first ≠ 0x20

theorem not_mark_of_isDigitOf {base : ℕ} {upper : Bool} {byte : UInt8} (le_sixteen : base ≤ 16)
    (digit : Number.IsDigitOf base upper byte) :
    (byte ≠ 0x78 ∧ byte ≠ 0x58) ∧ byte ≠ 0x2D ∧ byte ≠ 0x2B ∧ byte ≠ 0x20 := by
  have table : ∀ upper : Bool, ∀ digit < 16,
      (Number.digitByte upper digit ≠ 0x78 ∧ Number.digitByte upper digit ≠ 0x58) ∧
        Number.digitByte upper digit ≠ 0x2D ∧ Number.digitByte upper digit ≠ 0x2B ∧
          Number.digitByte upper digit ≠ 0x20 := by decide
  rcases digit with ⟨digit, below, rfl⟩
  exact table upper digit (Nat.lt_of_lt_of_le below le_sixteen)

theorem unmarked_of_isDigitOf {base : ℕ} {upper : Bool} {body : Bytes} (le_sixteen : base ≤ 16)
    (digits : ∀ byte ∈ body, Number.IsDigitOf base upper byte) : Unmarked body where
  noRadix byte byteMem := (not_mark_of_isDigitOf le_sixteen (digits byte byteMem)).1
  noSign first firstMem :=
    (not_mark_of_isDigitOf le_sixteen (digits first (List.mem_of_mem_head? firstMem))).2

theorem Unmarked.take_ne {body : Bytes} (unmarked : Unmarked body) :
    ¬(body.take 2 = [0x30, 0x78] ∨ body.take 2 = [0x30, 0x58]) := by
  rintro (small | capital)
  · have letterMem : 0x78 ∈ body.take 2 := by simp [small]
    exact (unmarked.noRadix _ (List.mem_of_mem_take letterMem)).1 rfl
  · have letterMem : 0x58 ∈ body.take 2 := by simp [capital]
    exact (unmarked.noRadix _ (List.mem_of_mem_take letterMem)).2 rfl

/-- A sign in front of bytes without a mark is the mark of the whole, and so is none. -/
theorem Unmarked.leadingMark_sign {body : Bytes} (unmarked : Unmarked body) (flags : Flags)
    (negative : Bool) :
    leadingMark (flags.sign negative ++ body) = flags.sign negative := by
  have bare : leadingMark body = [] := by
    rw [leadingMark, if_neg unmarked.take_ne, if_neg]
    rintro (minus | plus | space)
    · exact (unmarked.noSign _ minus).1 rfl
    · exact (unmarked.noSign _ plus).2.1 rfl
    · exact (unmarked.noSign _ space).2.2 rfl
  have signed {sign : UInt8} (one : sign = 0x2D ∨ sign = 0x2B ∨ sign = 0x20) :
      leadingMark ([sign] ++ body) = [sign] := by
    rcases one with rfl | rfl | rfl <;> simp [leadingMark]
  cases negative with
  | true => exact signed (Or.inl rfl)
  | false =>
    rw [Flags.sign, if_neg Bool.false_ne_true]
    cases flags.plus with
    | true => exact signed (Or.inr (Or.inl rfl))
    | false =>
      cases flags.space with
      | true => exact signed (Or.inr (Or.inr rfl))
      | false => exact bare

theorem leadingMark_radix (upper : Bool) (body : Bytes) :
    leadingMark ([0x30, if upper then 0x58 else 0x78] ++ body) =
      [0x30, if upper then 0x58 else 0x78] := by
  cases upper <;> simp [leadingMark]

namespace Layout

variable (layout : Layout)

theorem isDigitOf_integerBody (conversion : Conversion) (magnitude : ℕ) :
    ∀ byte ∈ layout.integerBody conversion magnitude,
      Number.IsDigitOf conversion.base conversion.isUpper byte := by
  have zero : Number.IsDigitOf conversion.base conversion.isUpper 0x30 :=
    ⟨0, Nat.lt_of_lt_of_le (by decide) conversion.two_le_base, rfl⟩
  have digits : ∀ byte ∈ layout.integerDigits conversion magnitude,
      Number.IsDigitOf conversion.base conversion.isUpper byte := by
    rcases layout.integerDigits_eq conversion magnitude with ⟨numeral, shortest, split⟩
    intro byte byteMem
    rw [split, List.mem_append] at byteMem
    rcases byteMem with zeroMem | numeralMem
    · rw [List.eq_of_mem_replicate zeroMem]
      exact zero
    · split at shortest
      case isTrue =>
        rw [shortest] at numeralMem
        cases numeralMem
      case isFalse => exact shortest.isDigitOf byte numeralMem
  rw [integerBody]
  split
  case isTrue => exact List.forall_mem_cons.mpr ⟨zero, digits⟩
  case isFalse => exact digits

/-- The mark of an integer can be told from what is written without a width. -/
theorem leadingMark_integerField (conversion : Conversion) (negative : Bool) (magnitude : ℕ) :
    leadingMark ((layout.integerField conversion negative magnitude).mark ++
        (layout.integerField conversion negative magnitude).body) =
      (layout.integerField conversion negative magnitude).mark := by
  have unmarked : Unmarked (layout.integerBody conversion magnitude) :=
    unmarked_of_isDigitOf conversion.base_le_sixteen
      (layout.isDigitOf_integerBody conversion magnitude)
  have bare : leadingMark ([] ++ layout.integerBody conversion magnitude) = [] :=
    unmarked.leadingMark_sign {} false
  cases conversion with
  | signed => exact unmarked.leadingMark_sign layout.flags negative
  | hexadecimal upper =>
    simp only [integerField, integerMark]
    split
    case isTrue => exact leadingMark_radix upper _
    case isFalse => exact bare
  | _ => exact bare

end Layout

/-- The sign of a finite value can be told from its text. -/
theorem RealText.Shows.leadingMark_eq {text : RealText} {conversion : Conversion} {flags : Flags}
    {precision : Option ℕ} {negative : Bool} {value : ℚ}
    (shows : text.Shows conversion flags precision negative value) :
    leadingMark text.bytes = text.sign := by
  have digit {byte : UInt8} (isDigit : Number.IsDigitOf 10 false byte) :=
    not_mark_of_isDigitOf (by decide) isDigit
  rcases shows.mantissa.whole with ⟨number, shortest⟩
  have exponent : ∀ byte ∈ text.exponent.elim [] ExponentText.bytes,
      byte ≠ 0x78 ∧ byte ≠ 0x58 := by
    cases written : text.exponent with
    | none => simp
    | some exponent =>
      have shown := (shows.exponent exponent written).1
      rcases shown.digits_eq with ⟨numeral, numeralShortest, digits⟩
      intro byte byteMem
      rw [Option.elim_some, ExponentText.bytes, shown.letter_eq, shown.sign_eq, digits] at byteMem
      simp only [List.mem_append, List.mem_cons, List.not_mem_nil, or_false] at byteMem
      rcases byteMem with (rfl | rfl) | zeroMem | numeralMem
      · cases conversion.isUpper <;> decide
      · split <;> decide
      · rw [List.eq_of_mem_replicate zeroMem]
        decide
      · exact (digit (numeralShortest.isDigitOf byte numeralMem)).1
  -- a sign of the exponent is no sign of the whole, because digits stand in front of it
  have unmarked : Unmarked (text.mantissa.bytes ++ text.exponent.elim [] ExponentText.bytes) := by
    constructor
    · intro byte byteMem
      rw [Positional.bytes, List.mem_append, List.mem_append, List.mem_append] at byteMem
      rcases byteMem with ((wholeMem | pointMem) | placesMem) | exponentMem
      · exact (digit (shortest.isDigitOf byte wholeMem)).1
      · split at pointMem
        case isTrue =>
          rw [List.mem_singleton.mp pointMem]
          decide
        case isFalse => cases pointMem
      · exact (digit (shows.mantissa.places byte placesMem)).1
      · exact exponent byte exponentMem
    · intro first firstMem
      have wholeHead : first ∈ text.mantissa.whole.head? := by
        rw [Positional.bytes, List.append_assoc, List.append_assoc,
          List.head?_append_of_ne_nil _ shortest.nonempty] at firstMem
        exact firstMem
      exact (digit (shortest.isDigitOf first (List.mem_of_mem_head? wholeHead))).2
  have sign : text.sign = flags.sign negative := shows.sign_eq
  rw [RealText.bytes, sign]
  exact unmarked.leadingMark_sign flags negative

/-! ## Fields with a width -/

/-- A field is filled up in one place, whatever it was made for. -/
theorem Field.widens (field : Field) (layout : Layout) {fillsWithZeros : Prop}
    (zeroFill : field.zeroFill = true ↔ layout.flags.zero = true ∧ fillsWithZeros)
    (mark : field.zeroFill = true → leadingMark (field.mark ++ field.body) = field.mark) :
    Widens layout.flags layout.width fillsWithZeros (field.mark ++ field.body)
      (field.padded layout) := by
  have length : (field.mark ++ field.body).length = field.length := List.length_append
  constructor
  · rw [field.length_padded, length]
  · intro left
    rw [padded, length]
    exact if_pos left
  · intro right zero
    have fills := zeroFill.mpr zero
    rw [mark fills, List.drop_left, padded, length, right, fills]
    rfl
  · intro right noZero
    have noFill := mt zeroFill.mp noZero
    rw [padded, length, right, if_neg Bool.false_ne_true, if_neg noFill, List.append_assoc]

variable {directive : Directive} {argument : Argument} {operand : Operand}

/-- An operand is an integer, a floating-point value or a text, as its conversion says. -/
theorem Directive.operand?_cases (found : directive.operand? argument = some operand) :
    (directive.conversion.isInteger = true ∧ directive.conversion.isFloating = false ∧
        ∃ negative magnitude, operand = .integer negative magnitude) ∨
      (directive.conversion.isInteger = false ∧ directive.conversion.isFloating = true ∧
        ∃ value, argument.floating? = some value ∧ operand = .real value) ∨
      (directive.conversion.isInteger = false ∧ directive.conversion.isFloating = false ∧
        ∃ bytes, operand = .text bytes) := by
  rw [Directive.operand?] at found
  cases conversion : directive.conversion <;> rw [conversion] at found
  case percent => cases found
  case signed | unsigned | octal | hexadecimal =>
    rcases Option.map_eq_some_iff.mp found with ⟨value, _, rfl⟩
    exact Or.inl ⟨rfl, rfl, _, _, rfl⟩
  case fixed | scientific | general =>
    rcases Option.map_eq_some_iff.mp found with ⟨value, read, rfl⟩
    exact Or.inr (Or.inl ⟨rfl, rfl, value, read, rfl⟩)
  case character | string | pointer =>
    rcases Option.map_eq_some_iff.mp found with ⟨value, _, rfl⟩
    exact Or.inr (Or.inr ⟨rfl, rfl, _, rfl⟩)

/-- The field of an accepted argument is filled up as its width asks for. -/
theorem Operand.widens_field (found : directive.operand? argument = some operand)
    (layout : Layout) :
    Widens layout.flags layout.width
      (FillsWithZeros directive.conversion layout.precision argument)
      ((operand.field layout directive.conversion).mark ++
        (operand.field layout directive.conversion).body)
      ((operand.field layout directive.conversion).padded layout) := by
  rcases Directive.operand?_cases found with
    ⟨integer, notFloating, negative, magnitude, rfl⟩ |
    ⟨notInteger, floating, value, read, rfl⟩ | ⟨notInteger, notFloating, bytes, rfl⟩
  · apply Field.widens
    · simp [field, Layout.integerField, FillsWithZeros, integer, notFloating]
    · intro _
      exact layout.leadingMark_integerField _ _ _
  · apply Field.widens
    · cases value <;> simp [field, Layout.realField, FillsWithZeros, notInteger, floating, read]
    · intro zeroFill
      cases value with
      | nan => cases zeroFill
      | infinite negative => cases zeroFill
      | finite negative significand exponent =>
        have shows := layout.shows_realText negative
          (Number.Floating.magnitude significand exponent) floating
        have mark := shows.leadingMark_eq
        rw [layout.bytes_realText, shows.sign_eq] at mark
        exact mark
  · apply Field.widens
    · simp [field, FillsWithZeros, notInteger, notFloating]
    · intro zeroFill
      cases zeroFill

/-! ## Amounts as they are written -/

theorem isDigit_nil : ∀ byte ∈ ([] : Bytes), isDigit byte = true := by simp

theorem isDigit_decimal (number : ℕ) :
    ∀ byte ∈ Number.decimal number, isDigit byte = true := by
  have table : ∀ digit < 10, isDigit (Number.digitByte false digit) = true := by decide
  intro byte byteMem
  rcases (Number.isShortest_decimal number).isDigitOf byte byteMem with ⟨digit, below, rfl⟩
  exact table digit below

theorem numberOfDigits_eq_valueIn {bytes : Bytes}
    (valid : ∀ byte ∈ bytes, isDigit byte = true) :
    numberOfDigits bytes = Number.valueIn 10 bytes := by
  rw [numberOfDigits, Number.valueIn, Number.readDigits, List.foldl_map]
  apply List.foldl_ext
  intro number byte byteMem
  have digit := valid byte byteMem
  rw [isDigit, Bool.and_eq_true, decide_eq_true_iff, decide_eq_true_iff] at digit
  rw [Number.digitValue, if_pos digit.2]

namespace Written

def numeral (number : ℕ) : Written :=
  .digits (Number.decimal number) (isDigit_decimal number)

/-- A number in digits, or nothing for zero, which would be a flag in front of a width. -/
def width (number : ℕ) : Written :=
  if number = 0 then .digits [] isDigit_nil else numeral number

theorem amount_numeral {number : ℕ} (counted : number ≤ countLimit) :
    (numeral number).amount = .literal number := by
  have value : Number.valueIn 10 (Number.decimal number) = number :=
    (Number.isShortest_decimal number).value
  rw [numeral, amount, numberOfDigits_eq_valueIn (isDigit_decimal number), value,
    Nat.min_eq_left counted]

theorem amount_width {number : ℕ} (counted : number ≤ countLimit) :
    (width number).amount = .literal number := by
  rw [width]
  split
  case isTrue zero =>
    rw [zero]
    rfl
  case isFalse => exact amount_numeral counted

theorem zeros_width (number : ℕ) : (width number).zeros = [] := by
  rw [width]
  split
  case isTrue => rfl
  case isFalse notZero =>
    have head : (Number.decimal number).head? = some 0x30 ↔ number = 0 :=
      Number.head?_numeral_eq_zero_iff (by decide) (by decide) false number
    change (Number.decimal number).takeWhile _ = []
    cases digits : Number.decimal number with
    | nil => rfl
    | cons first rest =>
      rw [digits] at head
      apply List.takeWhile_cons_of_neg
      intro zero
      exact notZero (head.mp (congrArg some (beq_iff_eq.mp zero)))

/-- The number of arguments that are asked for. -/
def count : Written → ℕ
  | digits _ _ => 0
  | star => 1

end Written

namespace Spelling

variable (spelling : Spelling)

def withWidth (width : Written) : Spelling :=
  { spelling with width }

def withPrecision (precision : Option Written) : Spelling :=
  { spelling with precision }

/-- The directive with one more flag, the minus sign. -/
def withMinus : Spelling :=
  { spelling with
    flags := 0x2D :: spelling.flags
    flags_valid := List.forall_mem_cons.mpr ⟨by decide, spelling.flags_valid⟩ }

/-- The directive with a number in the place of its width; a minus sign of it is a flag. -/
def withWidthOf (number : ℤ) : Spelling :=
  (if number < 0 then spelling.withMinus else spelling).withWidth (.width number.natAbs)

/-- The directive with a number in the place of its precision; a negative one is none. -/
def withPrecisionOf (number : ℤ) : Spelling :=
  spelling.withPrecision (if number < 0 then none else some (.numeral number.toNat))

theorem directive_withWidth {width : ℕ} (counted : width ≤ countLimit) :
    (spelling.withWidth (.width width)).directive =
      { spelling.directive with
        flags := Flags.ofBytes spelling.flags
        width := .literal width } := by
  simp only [directive, withWidth, Written.zeros_width, Written.amount_width counted,
    List.append_nil]

theorem directive_withStar :
    (spelling.withWidth .star).directive =
      { spelling.directive with
        flags := Flags.ofBytes spelling.flags
        width := .argument } := by
  have noZeros : Written.star.zeros = [] := rfl
  simp only [directive, withWidth, noZeros, List.append_nil]
  rfl

theorem directive_withWidthOf {number : ℤ} (counted : number.natAbs ≤ countLimit) :
    (spelling.withWidthOf number).directive =
      { spelling.directive with
        flags := (Flags.ofBytes spelling.flags).leftIf (number < 0)
        width := .literal number.natAbs } := by
  rw [withWidthOf, directive_withWidth _ counted]
  by_cases negative : number < 0
  · rw [if_pos negative, decide_eq_true negative]
    simp [directive, withMinus, Flags.ofBytes, Flags.leftIf]
  · rw [if_neg negative, decide_eq_false negative]
    simp [directive, Flags.ofBytes, Flags.leftIf]

end Spelling

/-! ## Directives that mean the same -/

/-- What a directive becomes depends on its layout, its conversion and its length modifier. -/
theorem Directive.item_congr {first second : Directive} {arguments others : List Argument}
    (layouts : first.layout? arguments = second.layout? others)
    (conversions : first.conversion = second.conversion) (lengths : first.length = second.length) :
    first.item arguments = second.item others := by
  rw [item, item, layouts]
  cases second.layout? others with
  | none => rfl
  | some laidOut =>
    simp only [itemIn, operand?, conversions, lengths]

/-- Two directives that become the same item leave the rest of a format to go on alike. -/
theorem print_congr {first second : Spelling} {arguments others : List Argument}
    (same : first.directive.item arguments = second.directive.item others) (format : Bytes) :
    print (percentSign :: (first.bytes ++ format)) arguments =
      print (percentSign :: (second.bytes ++ format)) others := by
  have items : Piece.items (.directive first.directive :: Piece.parse format) arguments =
      Piece.items (.directive second.directive :: Piece.parse format) others := by
    rw [Piece.items, Piece.items, Piece.item, Piece.item, same]
  rw [print, print, resolve, resolve, Piece.parse_directive (first.read?_append format),
    Piece.parse_directive (second.read?_append format), items]

theorem Argument.exists_signed? {argument : Argument} (accepted : argument.kind ∈ integerKinds) :
    ∃ value, argument.signed? = some value ∧
      value.toInt = argument.integer.bmod (2 ^ 64) := by
  have reading := argument.map_signed?
  rw [if_pos accepted, Option.map_eq_some_iff] at reading
  exact reading

/-- Every number that a star can take is counted to its end where it is written. -/
theorem natAbs_toInt_le_countLimit (value : Int64) : value.toInt.natAbs ≤ countLimit := by
  have least := value.le_toInt
  have below := value.toInt_lt
  have large : 2 ^ 63 ≤ countLimit := by decide
  omega

/-- A star for the width does what the number does that it takes. -/
theorem Spelling.item_star_width (spelling : Spelling) {argument : Argument}
    (accepted : argument.kind ∈ integerKinds) (rest : List Argument) :
    (spelling.withWidth .star).directive.item (argument :: rest) =
      (spelling.withWidthOf (argument.integer.bmod (2 ^ 64))).directive.item rest := by
  rcases Argument.exists_signed? accepted with ⟨value, signed, number⟩
  rw [directive_withStar, ← number, directive_withWidthOf _ (natAbs_toInt_le_countLimit value)]
  apply Directive.item_congr
  · simp only [Directive.layout?, Amount.width?, signed, Option.map_some]
  · rfl
  · rfl

/-- A width looks at as many arguments as it asks for, and at none behind them. -/
theorem Amount.width?_append (written : Written) (flags : Flags) {front : List Argument}
    (before : front.length = written.count) :
    (∀ behind, written.amount.width? flags (front ++ behind) = none) ∨
      ∃ nextFlags width, ∀ behind,
        written.amount.width? flags (front ++ behind) = some (nextFlags, width, behind) := by
  cases written with
  | digits bytes valid =>
    rw [Written.count, List.length_eq_zero_iff] at before
    subst before
    exact Or.inr ⟨flags, min (numberOfDigits bytes) countLimit, fun behind => rfl⟩
  | star =>
    rcases List.length_eq_one_iff.mp before with ⟨argument, rfl⟩
    cases signed : argument.signed? with
    | none =>
      left
      intro behind
      simp [Written.amount, Amount.width?, signed]
    | some value =>
      right
      refine ⟨flags.leftIf (value.toInt < 0), value.toInt.natAbs, ?_⟩
      intro behind
      simp [Written.amount, Amount.width?, signed]

/-- A star for the precision does what the number does that it takes. -/
theorem Spelling.item_star_precision (spelling : Spelling) {front : List Argument}
    (before : front.length = spelling.width.count) {argument : Argument}
    (accepted : argument.kind ∈ integerKinds) (rest : List Argument) :
    (spelling.withPrecision (some .star)).directive.item (front ++ argument :: rest) =
      (spelling.withPrecisionOf (argument.integer.bmod (2 ^ 64))).directive.item
        (front ++ rest) := by
  rcases Argument.exists_signed? accepted with ⟨value, signed, number⟩
  rw [← number]
  have starred : Amount.precision? (spelling.withPrecision (some .star)).directive.precision
      (argument :: rest) =
        some (if value.toInt < 0 then none else some value.toInt.toNat, rest) := by
    change Amount.precision? (some .argument) (argument :: rest) = _
    rw [Amount.precision?, signed]
    rfl
  have written : Amount.precision? (spelling.withPrecisionOf value.toInt).directive.precision rest =
      some (if value.toInt < 0 then none else some value.toInt.toNat, rest) := by
    change Amount.precision? ((if value.toInt < 0 then none
      else some (Written.numeral value.toInt.toNat)).map Written.amount) rest = _
    split
    case isTrue => rfl
    case isFalse =>
      have counted : value.toInt.toNat ≤ countLimit := by
        have magnitude := natAbs_toInt_le_countLimit value
        omega
      rw [Option.map_some, Written.amount_numeral counted]
      rfl
  apply Directive.item_congr
  · have unchanged (precision : Option Written) (behind : List Argument) :
        (spelling.withPrecision precision).directive.width.width?
            (spelling.withPrecision precision).directive.flags (front ++ behind) =
          spelling.width.amount.width? spelling.directive.flags (front ++ behind) := rfl
    rw [withPrecisionOf] at written ⊢
    rcases Amount.width?_append spelling.width spelling.directive.flags before with
      refused | ⟨flags, width, taken⟩
    · simp only [Directive.layout?, unchanged, refused, Option.bind_eq_bind, Option.bind_none]
    · simp only [Directive.layout?, unchanged, taken, Option.bind_eq_bind, Option.bind_some,
        starred, written]
  · rfl
  · rfl

/-! ## Printed widths -/

theorem Spelling.layout?_withWidth (spelling : Spelling) {arguments behind : List Argument}
    {width : ℕ} {precision : Option ℕ} (within : width ≤ amountLimit)
    (given : GivesPrecision spelling.precision arguments precision behind)
    (precisionWithin : ∀ number ∈ precision, number ≤ amountLimit) :
    (spelling.withWidth (.width width)).directive.layout? arguments =
      some (⟨Flags.ofBytes spelling.flags, width, precision⟩, behind) := by
  have counted : width ≤ countLimit := Nat.le_trans within (by decide)
  rw [directive_withWidth _ counted]
  apply Directive.layout?_eq_some_iff.mpr
  refine ⟨arguments, rfl, (Amount.precision?_eq_some_iff precisionWithin).mpr given, ?_⟩
  exact (Layout.isWithinLimit_iff _).mpr ⟨within, precisionWithin⟩

/-- With a width, a directive writes what it does without one, filled up; or it writes neither. -/
theorem widens_print (spelling : Spelling) {arguments rest : List Argument} {argument : Argument}
    {width : ℕ} {precision : Option ℕ} (within : width ≤ amountLimit)
    (given : GivesPrecision spelling.precision arguments precision (argument :: rest))
    (precisionWithin : ∀ number ∈ precision, number ≤ amountLimit)
    (accepted : argument.kind ∈ spelling.letter.2.kinds) :
    WidensResult (Flags.ofBytes spelling.flags) width ⟨spelling.letter.2, precision, argument⟩
      (print (percentSign :: (spelling.withWidth (.width 0)).bytes) arguments)
      (print (percentSign :: (spelling.withWidth (.width width)).bytes) arguments) := by
  have accepts : (spelling.directive.operand? argument).isSome = true :=
    (spelling.directive.isSome_operand? argument).trans (decide_eq_true accepted)
  rcases Option.isSome_iff_exists.mp accepts with ⟨operand, found⟩
  have narrow := print_of_layout?
    (spelling.layout?_withWidth (Nat.zero_le amountLimit) given precisionWithin) found
  have wide := print_of_layout? (spelling.layout?_withWidth within given precisionWithin) found
  have widens := operand.widens_field found ⟨Flags.ofBytes spelling.flags, width, precision⟩
  have fits : Use.Fits ⟨spelling.letter.2, precision, argument⟩ ↔
      operand.isRenderable ⟨Flags.ofBytes spelling.flags, width, precision⟩ spelling.letter.2 =
        true :=
    @Use.fits_iff spelling.directive ⟨Flags.ofBytes spelling.flags, width, precision⟩ argument
      operand found
  -- what is filled up does not depend on the width
  have field : operand.field ⟨Flags.ofBytes spelling.flags, 0, precision⟩ spelling.letter.2 =
      operand.field ⟨Flags.ofBytes spelling.flags, width, precision⟩ spelling.letter.2 := by
    cases operand <;> rfl
  have renderable :
      operand.isRenderable ⟨Flags.ofBytes spelling.flags, 0, precision⟩ spelling.letter.2 =
        operand.isRenderable ⟨Flags.ofBytes spelling.flags, width, precision⟩
          spelling.letter.2 := by
    cases operand <;> rfl
  have letter (width : Written) : (spelling.withWidth width).letter = spelling.letter := rfl
  rw [narrow, wide, letter, letter, renderable, field, Field.padded_of_width_eq_zero _ rfl]
  split
  case isTrue renderable => exact .output (fits.mpr renderable) widens
  case isFalse notRenderable => exact .tooManyPlaces (mt fits.mp notRenderable)

/--
A width only fills up what a directive writes without one: with zeros behind its sign or radix
mark, or with spaces. Without enough places for the value it writes nothing, with a width or
without one. And a star does what the number that it takes does in its place, as far as
the end of the format: a negative width is a minus sign and its magnitude, and a negative
precision is none.
-/
theorem print_width_and_stars :
    (∀ (spelling : Spelling) (width : ℕ) (arguments rest : List Argument) (argument : Argument)
      (precision : Option ℕ), width ≤ amountLimit →
      GivesPrecision spelling.precision arguments precision (argument :: rest) →
      (∀ number ∈ precision, number ≤ amountLimit) →
      argument.kind ∈ spelling.letter.2.kinds →
      WidensResult (Flags.ofBytes spelling.flags) width ⟨spelling.letter.2, precision, argument⟩
        (print (percentSign :: (spelling.withWidth (.width 0)).bytes) arguments)
        (print (percentSign :: (spelling.withWidth (.width width)).bytes) arguments)) ∧
    (∀ (spelling : Spelling) (argument : Argument) (rest : List Argument) (format : Bytes),
      argument.kind ∈ integerKinds →
      print (percentSign :: ((spelling.withWidth .star).bytes ++ format)) (argument :: rest) =
        print (percentSign ::
          ((spelling.withWidthOf (argument.integer.bmod (2 ^ 64))).bytes ++ format)) rest) ∧
    ∀ (spelling : Spelling) (front : List Argument) (argument : Argument) (rest : List Argument)
      (format : Bytes), front.length = spelling.width.count → argument.kind ∈ integerKinds →
      print (percentSign :: ((spelling.withPrecision (some .star)).bytes ++ format))
          (front ++ argument :: rest) =
        print (percentSign ::
          ((spelling.withPrecisionOf (argument.integer.bmod (2 ^ 64))).bytes ++ format))
          (front ++ rest) := by
  refine ⟨?_, ?_, ?_⟩
  · intro spelling width arguments rest argument precision within given precisionWithin accepted
    exact widens_print spelling within given precisionWithin accepted
  · intro spelling argument rest format accepted
    exact print_congr (spelling.item_star_width accepted rest) format
  · intro spelling front argument rest format before accepted
    exact print_congr (spelling.item_star_precision before accepted rest) format

/-- The directive `%+0i` without its percent sign. -/
def signedZeros : Spelling :=
  { manyDigits with
    flags := [0x2B, 0x30]
    flags_valid := fun _ flag => List.Sublist.mem flag (by decide)
    precision := none
    letter := ('i', .signed)
    letter_mem := by decide }

/-- A width of five, a star for the least width that there is, and one for no precision. -/
theorem print_width_and_stars_signedZeros :
    WidensResult { plus := true, zero := true } 5 ⟨.signed, none, .signed 42⟩
        (print (percentSign :: (signedZeros.withWidth (.width 0)).bytes) [.signed 42])
        (print (percentSign :: (signedZeros.withWidth (.width 5)).bytes) [.signed 42]) ∧
      print (percentSign :: ((signedZeros.withWidth .star).bytes ++ [0x21]))
          [.signed Int64.minValue, .signed 42] =
        print (percentSign :: ((signedZeros.withWidthOf (-2 ^ 63)).bytes ++ [0x21]))
          [.signed 42] ∧
      print (percentSign :: ((signedZeros.withPrecision (some .star)).bytes ++ [0x21]))
          [.signed (-1), .signed 42] =
        print (percentSign :: ((signedZeros.withPrecisionOf (-1)).bytes ++ [0x21]))
          [.signed 42] := by
  have given : GivesPrecision signedZeros.precision [.signed 42] none [.signed 42] := .absent
  have least : (Argument.signed Int64.minValue).integer.bmod (2 ^ 64) = -2 ^ 63 := by decide
  have minusOne : (Argument.signed (-1)).integer.bmod (2 ^ 64) = -1 := by decide
  rcases print_width_and_stars with ⟨widens, starWidth, starPrecision⟩
  refine ⟨?_, ?_, ?_⟩
  · exact widens signedZeros 5 [.signed 42] [] (.signed 42) none (by decide) given nofun
      (by decide)
  · have same := starWidth signedZeros (.signed Int64.minValue) [.signed 42] [0x21] (by decide)
    rw [least] at same
    exact same
  · have same := starPrecision signedZeros [] (.signed (-1)) [.signed 42] [0x21] rfl (by decide)
    rw [minusOne] at same
    exact same

end Format

end Rtos
