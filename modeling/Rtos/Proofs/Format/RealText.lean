import Rtos.Proofs.Format.IntegerText
import Rtos.Proofs.Format.Positional

/-!
# Finite values as text

What the floating-point conversions write. The text is a sign, a mantissa in positional form
and an exponent or none. It denotes the value rounded once: to places behind the point in the
fixed form, and to significant digits in the other two. The general form takes the exponent of
what it denotes, and not of the value, to choose how to write it; so a value that rounding
carries into the next power of ten is written like that power. `RealText.Shows` says what each
part is, and `print_real` that this is what is printed, as long as no rendering has more places
than there may be.
-/

namespace Rtos

namespace Format

/-- An exponent as it is written. -/
structure ExponentText where
  letter : UInt8
  sign : UInt8
  digits : Bytes

namespace ExponentText

def bytes (text : ExponentText) : Bytes :=
  [text.letter, text.sign] ++ text.digits

/-- The exponent that the sign and the digits denote. -/
def value (text : ExponentText) : ℤ :=
  let magnitude : ℤ := Number.valueIn 10 text.digits
  if text.sign = 0x2D then -magnitude else magnitude

/-- What the text of an exponent is; it has two digits at least. -/
structure Shows (text : ExponentText) (upper : Bool) (exponent : ℤ) : Prop where
  value_eq : text.value = exponent
  letter_eq : text.letter = if upper then 0x45 else 0x65
  sign_eq : text.sign = if exponent < 0 then 0x2D else 0x2B
  digits_eq : ∃ numeral, Number.IsShortest 10 false exponent.natAbs numeral ∧
    text.digits = Field.zeros (2 - numeral.length) ++ numeral

def written (upper : Bool) (exponent : ℤ) : ExponentText where
  letter := if upper then 0x45 else 0x65
  sign := if exponent < 0 then 0x2D else 0x2B
  digits := Number.zeroFilled 2 (Number.decimal exponent.natAbs)

end ExponentText

/-- The parts of a written finite value. -/
structure RealText where
  sign : Bytes
  mantissa : Positional
  exponent : Option ExponentText

namespace RealText

def bytes (text : RealText) : Bytes :=
  text.sign ++ (text.mantissa.bytes ++ text.exponent.elim [] ExponentText.bytes)

/-- The number that is denoted, without its sign. -/
def magnitude (text : RealText) : ℚ :=
  text.mantissa.value * 10 ^ text.exponent.elim 0 ExponentText.value

/-- The exponent of the first digit of the number that is denoted. -/
def leading (text : RealText) : ℤ :=
  Int.log 10 text.magnitude

/-- The value is rounded to places behind the point. -/
structure IsFixed (text : RealText) (flags : Flags) (places : ℕ) (value : ℚ) : Prop where
  rounds : Number.RoundsToPlaces value places text.magnitude
  exponent : text.exponent = none
  length_places : text.mantissa.places.length = places
  point : text.mantissa.point = true ↔ flags.alternate = true ∨ places ≠ 0

/-- The value is rounded to one digit in front of the point and places behind it. -/
structure IsScientific (text : RealText) (flags : Flags) (places : ℕ) (value : ℚ) : Prop where
  rounds : Number.RoundsTo value (places + 1) text.magnitude
  exponent : text.exponent.isSome = true
  length_places : text.mantissa.places.length = places
  point : text.mantissa.point = true ↔ flags.alternate = true ∨ places ≠ 0

/-- The value is rounded to significant digits, which choose between two forms. -/
structure IsGeneral (text : RealText) (flags : Flags) (digits : ℕ) (value : ℚ) : Prop where
  rounds : Number.RoundsTo value digits text.magnitude
  exponent : text.exponent.isSome = true ↔ text.leading < -4 ∨ digits ≤ text.leading
  /-- The alternate form shows all of the significant digits, and the point. -/
  kept : flags.alternate = true → text.mantissa.point = true ∧
    (text.mantissa.places.length : ℤ) =
      digits - 1 - if text.exponent.isSome then 0 else text.leading
  /-- Otherwise there are no zeros at the end of the places, and no point without places. -/
  dropped : flags.alternate = false → text.mantissa.places.getLast? ≠ some 0x30 ∧
    (text.mantissa.point = true ↔ text.mantissa.places ≠ [])

/-- What the text of a finite value is in a conversion with flags and a precision. -/
structure Shows (text : RealText) (conversion : Conversion) (flags : Flags)
    (precision : Option ℕ) (negative : Bool) (value : ℚ) : Prop where
  sign_eq : text.sign =
    if negative then [0x2D]
    else if flags.plus then [0x2B]
    else if flags.space then [0x20]
    else []
  mantissa : text.mantissa.WellFormed
  exponent : ∀ exponent ∈ text.exponent,
    exponent.Shows conversion.isUpper text.leading ∧ text.mantissa.whole.length = 1
  form : match conversion with
    | .fixed _ => text.IsFixed flags (precision.getD 6) value
    | .scientific _ => text.IsScientific flags (precision.getD 6) value
    | _ => text.IsGeneral flags (max (precision.getD 6) 1) value

/--
No rendering has more places than there may be. The general form is rendered with an exponent
first, and a second time if it is written without one.
-/
def WithinPlaces (text : RealText) (conversion : Conversion) (precision : Option ℕ) : Prop :=
  match conversion with
  | .general _ =>
      max (precision.getD 6) 1 - 1 ≤ placesLimit ∧ (text.exponent = none →
        ((max (precision.getD 6) 1 : ℕ) : ℤ) - 1 - text.leading ≤ placesLimit)
  | _ => precision.getD 6 ≤ placesLimit

end RealText

/-! ## Exponents -/

theorem ExponentText.shows_written (upper : Bool) (exponent : ℤ) :
    (written upper exponent).Shows upper exponent where
  value_eq := by
    have magnitude : Number.valueIn 10 (written upper exponent).digits = exponent.natAbs :=
      Number.valueIn_zeroFilled 2 exponent.natAbs
    rw [value, magnitude]
    by_cases negative : exponent < 0
    · have minus : (written upper exponent).sign = 0x2D := if_pos negative
      rw [if_pos minus]
      omega
    · have plus : (written upper exponent).sign = 0x2B := if_neg negative
      rw [plus, if_neg (by decide)]
      omega
  letter_eq := rfl
  sign_eq := rfl
  digits_eq := ⟨_, Number.isShortest_decimal exponent.natAbs, rfl⟩

namespace Layout

variable (layout : Layout) (negative : Bool) (value : Number.Decimal)

def fixedText (places : ℕ) (dropZeros : Bool) : RealText where
  sign := layout.flags.sign negative
  mantissa := .written (value.toPlaces places) places dropZeros layout.flags.alternate
  exponent := none

def scientificText (upper : Bool) (places : ℕ) (dropZeros : Bool) : RealText where
  sign := layout.flags.sign negative
  mantissa :=
    .written (value.toScientific places).digits places dropZeros layout.flags.alternate
  exponent := some (.written upper (value.toScientific places).exponent)

/-- The parts of a value in the one of these forms that its exponent chooses. -/
def generalText (upper : Bool) : RealText :=
  match layout.generalPlaces? (layout.generalRounding value) with
  | some places => layout.fixedText negative value places (!layout.flags.alternate)
  | none => layout.scientificText negative value upper (layout.significantDigits - 1)
      (!layout.flags.alternate)

/-- The parts of a value in the form of its conversion. -/
def realText (conversion : Conversion) : RealText :=
  match conversion with
  | .fixed _ => layout.fixedText negative value layout.places false
  | .scientific upper => layout.scientificText negative value upper layout.places false
  | _ => layout.generalText negative value conversion.isUpper

theorem bytes_realText (conversion : Conversion) :
    (layout.realText negative value conversion).bytes =
      layout.flags.sign negative ++ layout.realBody conversion value := by
  have fixed (places : ℕ) (dropZeros : Bool) :
      (layout.fixedText negative value places dropZeros).bytes = layout.flags.sign negative ++
        positional (value.toPlaces places) places dropZeros layout.flags.alternate := by
    rw [positional_eq, RealText.bytes, fixedText]
    exact congrArg _ (List.append_nil _)
  have scientific (upper : Bool) (places : ℕ) (dropZeros : Bool) :
      (layout.scientificText negative value upper places dropZeros).bytes =
        layout.flags.sign negative ++
          (positional (value.toScientific places).digits places dropZeros layout.flags.alternate ++
            exponentText upper (value.toScientific places).exponent) := by
    rw [positional_eq]
    rfl
  cases conversion with
  | fixed upper => exact fixed _ _
  | scientific upper => exact scientific _ _ _
  | _ =>
    simp only [realText, generalText, realBody, generalBody]
    cases layout.generalPlaces? (layout.generalRounding value) with
    | some places => exact fixed _ _
    | none => exact scientific _ _ _

/-! ## The two forms -/

theorem magnitude_fixedText (places : ℕ) (dropZeros : Bool) :
    (layout.fixedText negative value places dropZeros).magnitude =
      value.toPlaces places / 10 ^ places := by
  change (Positional.written _ _ _ _).value * 10 ^ (0 : ℤ) = _
  rw [Positional.value_written, zpow_zero, mul_one]

theorem magnitude_scientificText (upper : Bool) (places : ℕ) (dropZeros : Bool) :
    (layout.scientificText negative value upper places dropZeros).magnitude =
      (value.toScientific places).toRat places := by
  have exponent := (ExponentText.shows_written upper (value.toScientific places).exponent).value_eq
  change (Positional.written _ _ _ _).value *
    10 ^ (ExponentText.written upper (value.toScientific places).exponent).value = _
  rw [Positional.value_written, exponent, Number.Scientific.toRat, zpow_sub₀ (by norm_num),
    zpow_natCast]
  ring

theorem leading_scientificText (upper : Bool) (places : ℕ) (dropZeros : Bool) :
    (layout.scientificText negative value upper places dropZeros).leading =
      (value.toScientific places).exponent := by
  rw [RealText.leading, magnitude_scientificText]
  exact value.log_toScientific places

/-- The mantissa of the scientific form has one digit in front of the point. -/
theorem length_whole_scientificText (upper : Bool) (places : ℕ) (dropZeros : Bool) :
    (layout.scientificText negative value upper places dropZeros).mantissa.whole.length = 1 := by
  apply Positional.length_whole_written
  by_cases zero : value.coefficient = 0
  · rw [(Number.Decimal.toScientific_of_zero zero places).1]
    exact Nat.pow_pos (by decide)
  · exact (value.digits_toScientific_bounds zero places).2

/-- With the places of its significant digits the fixed form denotes what they denote. -/
theorem magnitude_fixedText_eq {places count : ℕ}
    (placed : (count : ℤ) = places - (value.toScientific places).exponent) (dropZeros : Bool) :
    (layout.fixedText negative value count dropZeros).magnitude =
      (value.toScientific places).toRat places := by
  have exponent : (value.toScientific places).exponent - places = -(count : ℤ) := by omega
  rw [magnitude_fixedText, value.toPlaces_eq_digits placed, Number.Scientific.toRat, exponent,
    zpow_neg, zpow_natCast, div_eq_mul_inv]

theorem leading_fixedText {places count : ℕ}
    (placed : (count : ℤ) = places - (value.toScientific places).exponent) (dropZeros : Bool) :
    (layout.fixedText negative value count dropZeros).leading =
      (value.toScientific places).exponent := by
  rw [RealText.leading, layout.magnitude_fixedText_eq negative value placed]
  exact value.log_toScientific places

/-! ## The forms of the conversions -/

theorem isFixed_fixedText :
    (layout.fixedText negative value layout.places false).IsFixed layout.flags layout.places
      value.toRat where
  rounds := by
    rw [magnitude_fixedText]
    exact ⟨_, value.isNearest_toPlaces layout.places, rfl⟩
  exponent := rfl
  length_places := Positional.length_places_written _ _ _
  point := Positional.point_written_of_kept_iff _ _ _

theorem isScientific_scientificText (upper : Bool) :
    (layout.scientificText negative value upper layout.places false).IsScientific layout.flags
      layout.places value.toRat where
  rounds := by
    rw [magnitude_scientificText]
    exact value.toScientific_rounds layout.places
  exponent := rfl
  length_places := Positional.length_places_written _ _ _
  point := Positional.point_written_of_kept_iff _ _ _

theorem significantDigits_pred : layout.significantDigits - 1 + 1 = layout.significantDigits :=
  Nat.sub_add_cancel (Nat.le_max_right _ _)

theorem generalPlaces?_eq_none_iff (rounded : Number.Scientific) :
    layout.generalPlaces? rounded = none ↔
      rounded.exponent < -4 ∨ (layout.significantDigits : ℤ) ≤ rounded.exponent := by
  rw [generalPlaces?]
  split
  case isTrue outside => exact iff_of_true rfl outside
  case isFalse inside => exact iff_of_false (by simp) inside

theorem generalPlaces?_eq_some {rounded : Number.Scientific} {places : ℕ}
    (some : layout.generalPlaces? rounded = some places) :
    (places : ℤ) = (layout.significantDigits - 1 : ℕ) - rounded.exponent ∧
      ¬(rounded.exponent < -4 ∨ (layout.significantDigits : ℤ) ≤ rounded.exponent) := by
  have positive := layout.significantDigits_pred
  rw [generalPlaces?] at some
  split at some
  case isTrue => cases some
  case isFalse inside =>
    cases some
    exact ⟨by omega, inside⟩

/-- The last of the places is no zero unless the alternate form keeps it. -/
theorem dropped_written (digits places : ℕ) (notAlternate : layout.flags.alternate = false) :
    let text := Positional.written digits places (!layout.flags.alternate) layout.flags.alternate
    text.places.getLast? ≠ some 0x30 ∧ (text.point = true ↔ text.places ≠ []) := by
  intro text
  constructor
  · simp only [text, notAlternate]
    exact getLast?_withoutTrailingZeros _
  · apply (Positional.point_written_iff _ _ _ _).trans
    rw [notAlternate]
    simp [text, notAlternate]

theorem kept_written (digits places : ℕ) (alternate : layout.flags.alternate = true) :
    let text := Positional.written digits places (!layout.flags.alternate) layout.flags.alternate
    text.point = true ∧ text.places.length = places := by
  intro text
  constructor
  · exact (Positional.point_written_iff _ _ _ _).mpr (Or.inl alternate)
  · simp only [text, alternate]
    exact Positional.length_places_written _ _ _

theorem isGeneral_fixedText {places : ℕ}
    (chosen : layout.generalPlaces? (layout.generalRounding value) = some places) :
    (layout.fixedText negative value places (!layout.flags.alternate)).IsGeneral layout.flags
      layout.significantDigits value.toRat := by
  rcases layout.generalPlaces?_eq_some chosen with ⟨placed, inside⟩
  have magnitude := layout.magnitude_fixedText_eq negative value placed (!layout.flags.alternate)
  have leading := layout.leading_fixedText negative value placed (!layout.flags.alternate)
  have positive := layout.significantDigits_pred
  constructor
  · rw [magnitude, ← positive]
    exact value.toScientific_rounds _
  · rw [leading]
    exact iff_of_false Bool.false_ne_true inside
  · intro alternate
    rcases layout.kept_written (value.toPlaces places) places alternate with ⟨point, length⟩
    refine ⟨point, ?_⟩
    rw [leading]
    change ((Positional.written _ _ _ _).places.length : ℤ) =
      layout.significantDigits - 1 - (layout.generalRounding value).exponent
    rw [length, placed]
    omega
  · exact layout.dropped_written _ _

theorem isGeneral_scientificText (upper : Bool)
    (chosen : layout.generalPlaces? (layout.generalRounding value) = none) :
    (layout.scientificText negative value upper (layout.significantDigits - 1)
      (!layout.flags.alternate)).IsGeneral layout.flags layout.significantDigits value.toRat := by
  have positive := layout.significantDigits_pred
  constructor
  · rw [magnitude_scientificText]
    have rounds := value.toScientific_rounds (layout.significantDigits - 1)
    rw [positive] at rounds
    exact rounds
  · rw [leading_scientificText]
    exact iff_of_true rfl ((layout.generalPlaces?_eq_none_iff _).mp chosen)
  · intro alternate
    rcases layout.kept_written (value.toScientific (layout.significantDigits - 1)).digits
      (layout.significantDigits - 1) alternate with ⟨point, length⟩
    refine ⟨point, ?_⟩
    change ((Positional.written _ _ _ _).places.length : ℤ) = layout.significantDigits - 1 - 0
    rw [length]
    omega
  · exact layout.dropped_written _ _

/-- What a layout writes for a finite value is what the conversion asks for. -/
theorem shows_realText {conversion : Conversion} (floating : conversion.isFloating = true) :
    (layout.realText negative value conversion).Shows conversion layout.flags layout.precision
      negative value.toRat := by
  have scientific (upper : Bool) (places : ℕ) (dropZeros : Bool) :
      ∀ exponent ∈ (layout.scientificText negative value upper places dropZeros).exponent,
        exponent.Shows upper
            (layout.scientificText negative value upper places dropZeros).leading ∧
          (layout.scientificText negative value upper places dropZeros).mantissa.whole.length =
            1 := by
    intro exponent exponentMem
    cases exponentMem
    rw [leading_scientificText]
    exact ⟨ExponentText.shows_written _ _, layout.length_whole_scientificText _ _ _ _ _⟩
  cases conversion with
  | fixed upper =>
    exact ⟨rfl, Positional.wellFormed_written _ _ _ _, nofun, layout.isFixed_fixedText _ _⟩
  | scientific upper =>
    exact ⟨rfl, Positional.wellFormed_written _ _ _ _, scientific _ _ _,
      layout.isScientific_scientificText _ _ _⟩
  | general upper =>
    change (layout.generalText negative value upper).Shows _ _ _ _ _
    rw [generalText]
    cases chosen : layout.generalPlaces? (layout.generalRounding value) with
    | some places =>
      exact ⟨rfl, Positional.wellFormed_written _ _ _ _, nofun,
        layout.isGeneral_fixedText _ _ chosen⟩
    | none =>
      exact ⟨rfl, Positional.wellFormed_written _ _ _ _, scientific _ _ _,
        layout.isGeneral_scientificText _ _ _ chosen⟩
  | _ => cases floating

/-- A layout has places for a value exactly if no rendering of it has too many. -/
theorem hasPlacesFor_iff {conversion : Conversion} (floating : conversion.isFloating = true) :
    layout.hasPlacesFor conversion value = true ↔
      (layout.realText negative value conversion).WithinPlaces conversion layout.precision := by
  cases conversion with
  | fixed upper => exact decide_eq_true_iff
  | scientific upper => exact decide_eq_true_iff
  | general upper =>
    rw [hasPlacesFor, Bool.and_eq_true, decide_eq_true_iff]
    apply and_congr Iff.rfl
    change _ ↔ ((layout.generalText negative value upper).exponent = none →
      (layout.significantDigits : ℤ) - 1 - (layout.generalText negative value upper).leading ≤
        placesLimit)
    rw [generalText]
    cases chosen : layout.generalPlaces? (layout.generalRounding value) with
    | none =>
      apply iff_of_true rfl
      intro noExponent
      cases noExponent
    | some places =>
      rcases layout.generalPlaces?_eq_some chosen with ⟨placed, _⟩
      have leading := layout.leading_fixedText negative value placed (!layout.flags.alternate)
      have positive := layout.significantDigits_pred
      rw [generalRounding] at placed
      rw [Option.all_some, decide_eq_true_iff, leading]
      constructor
      · intro within _
        omega
      · intro within
        have bound := within rfl
        omega
  | _ => cases floating

end Layout

/-! ## Printed values -/

theorem Field.padded_of_width_eq_zero (field : Field) {layout : Layout}
    (noWidth : layout.width = 0) : field.padded layout = field.mark ++ field.body := by
  have none : spaces 0 = [] ∧ zeros 0 = [] := ⟨rfl, rfl⟩
  simp only [padded, noWidth, Nat.zero_sub, none, List.append_nil, List.nil_append]
  cases layout.flags.left <;> cases field.zeroFill <;> rfl

/-- A directive whose layout and operand are known is printed as its field, filled up. -/
theorem print_of_layout? {spelling : Spelling} {arguments rest : List Argument}
    {argument : Argument} {layout : Layout} {operand : Operand}
    (read : spelling.directive.layout? arguments = some (layout, argument :: rest))
    (found : spelling.directive.operand? argument = some operand) :
    print (percentSign :: spelling.bytes) arguments =
      if operand.isRenderable layout spelling.letter.2 then
        .ok ((operand.field layout spelling.letter.2).padded layout)
      else .error .tooManyPlaces := by
  have notPercent : spelling.directive.conversion ≠ .percent := by
    intro percent
    rw [Directive.operand?, percent] at found
    cases found
  rw [print_spelling, Directive.item, read]
  simp only [Directive.itemIn_cons _ _ _ notPercent, found]
  rw [show spelling.directive.conversion = spelling.letter.2 from rfl]
  cases operand.isRenderable layout spelling.letter.2 <;> rfl

/-- Precisions that are far enough below the limit leave room for every rendering. -/
theorem RealText.Shows.withinPlaces {text : RealText} {conversion : Conversion} {flags : Flags}
    {precision : Option ℕ} {negative : Bool} {value : ℚ}
    (shows : text.Shows conversion flags precision negative value)
    (floating : conversion.isFloating = true) (few : precision.getD 6 + 4 ≤ placesLimit) :
    text.WithinPlaces conversion precision := by
  cases conversion with
  | fixed upper => exact Nat.le_trans (Nat.le_add_right _ 4) few
  | scientific upper => exact Nat.le_trans (Nat.le_add_right _ 4) few
  | general upper =>
    have form : text.IsGeneral flags (max (precision.getD 6) 1) value := shows.form
    constructor
    · omega
    · intro noExponent
      have inside := mt form.exponent.mpr (by rw [noExponent]; exact Bool.false_ne_true)
      rw [not_or, Int.not_lt] at inside
      have bound := inside.1
      omega
  | _ => cases floating

/--
A floating-point conversion without a width writes a finite value, rounded once, with the sign,
point, places and exponent that its flags and precision ask for. If a rendering has more places
than there may be, the program breaks instead.
-/
theorem print_real {spelling : Spelling} {arguments behindWidth rest : List Argument}
    {argument : Argument} {precision : Option ℕ} {negative : Bool} {significand : ℕ}
    {exponent : ℤ} (floating : spelling.letter.2.isFloating = true)
    (noWidth : spelling.width.Gives arguments 0 behindWidth)
    (precisionGiven : GivesPrecision spelling.precision behindWidth precision (argument :: rest))
    (precisionWithin : ∀ number ∈ precision, number ≤ amountLimit)
    (finite : argument.floating? = some (.finite negative significand exponent)) :
    ∃ text : RealText,
      text.Shows spelling.letter.2 spelling.directive.flags precision negative
        (significand * 2 ^ exponent) ∧
      (text.WithinPlaces spelling.letter.2 precision →
        print (percentSign :: spelling.bytes) arguments = .ok text.bytes) ∧
      (¬text.WithinPlaces spelling.letter.2 precision →
        print (percentSign :: spelling.bytes) arguments = .error .tooManyPlaces) := by
  have read := Spelling.layout?_of_gives noWidth (Nat.zero_le _) precisionGiven precisionWithin
  have found : spelling.directive.operand? argument =
      some (.real (.finite negative significand exponent)) := by
    rw [Directive.operand?_of_isFloating floating, finite]
    rfl
  let layout : Layout := ⟨spelling.directive.flags.leftIf false, 0, precision⟩
  let value := Number.Floating.magnitude significand exponent
  have printed : print (percentSign :: spelling.bytes) arguments =
      if layout.hasPlacesFor spelling.letter.2 value then
        .ok ((layout.realField spelling.letter.2 (.finite negative significand exponent)).padded
          layout)
      else .error .tooManyPlaces := print_of_layout? read found
  have flags : layout.flags = spelling.directive.flags := by
    simp [layout, Flags.leftIf]
  have shows := layout.shows_realText negative value floating
  have enough := layout.hasPlacesFor_iff negative value floating
  rw [flags, Number.Floating.toRat_magnitude] at shows
  refine ⟨layout.realText negative value spelling.letter.2, shows, ?_, ?_⟩
  -- without a width the field is the sign and the body, which are the parts of the text
  · intro within
    rw [printed, if_pos (enough.mpr within), Field.padded_of_width_eq_zero _ rfl,
      layout.bytes_realText]
    rfl
  · intro tooMany
    rw [printed, if_neg (fun renderable => tooMany (enough.mp renderable))]

/-- The directive `%g` without its percent sign. -/
def sixDigits : Spelling :=
  { manyDigits with precision := none }

/-- Six digits of 9.999995, as it is nearest in 64 bits, are rounded in front of the point. -/
theorem print_real_carried :
    ∃ text : RealText,
      text.Shows (.general false) {} none false ((5629496719463353 : ℕ) * 2 ^ (-49 : ℤ)) ∧
        print (percentSign :: sixDigits.bytes) [.floating (.ofBinary64 0x4023FFFF583A53B9)] =
          .ok text.bytes := by
  have width : sixDigits.width.Gives [.floating (.ofBinary64 0x4023FFFF583A53B9)] 0
      [.floating (.ofBinary64 0x4023FFFF583A53B9)] := .digits
  have precision : GivesPrecision sixDigits.precision
      [.floating (.ofBinary64 0x4023FFFF583A53B9)] none
      [.floating (.ofBinary64 0x4023FFFF583A53B9)] := .absent
  have finite : (Argument.floating (.ofBinary64 0x4023FFFF583A53B9)).floating? =
      some (.finite false 5629496719463353 (-49)) := by decide
  rcases print_real (by decide) width precision nofun finite with ⟨text, shows, printed, _⟩
  exact ⟨text, shows, printed (shows.withinPlaces rfl (by decide))⟩

/-- So many digits of a thousandth have no text, although the amounts are within the limit. -/
theorem not_printed_manyDigits : ¬∃ text : RealText,
    print (percentSign :: manyDigits.bytes) [.floating thousandth] = .ok text.bytes := by
  have overflows : Overflows (percentSign :: (manyDigits.bytes ++ [])) [.floating thousandth] :=
    overflows_here manyDigits_takes not_fits_thousandth
  have ends := ends_print (percentSign :: manyDigits.bytes) [.floating thousandth]
  rw [List.append_nil] at overflows
  rintro ⟨text, printed⟩
  rw [printed] at ends
  cases ends with
  | applied _ within => exact within overflows

end Format

end Rtos
