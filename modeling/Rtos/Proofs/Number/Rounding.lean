import Mathlib.Data.Int.Log
import Mathlib.Data.Rat.Floor
import Mathlib.Tactic.FieldSimp
import Mathlib.Tactic.Linarith
import Mathlib.Tactic.Positivity
import Rtos.Number.Floating
import Rtos.Proofs.Number.Numeral

/-!
# Correct rounding

A fraction is rounded to the nearest natural number, and to the even one of two that are
equally near (`IsNearest`); there is only one such number. Rounding a decimal fraction to
some places rounds it on the grid of these places (`isNearest_toPlaces`). Rounding it to
some significant digits rounds it on the grid of the last of them, which its first digit
decides (`RoundsTo`), also where the rounding carries into a digit in front of the first one
(`toScientific_rounds`). If such a fraction is written in positional form, then rounding it
a second time, to the places that the form has, gives the same digits
(`toPlaces_eq_digits`).
-/

namespace Rtos

namespace Number

/-- A number is nearest to a fraction, and it is even if another one is as near. -/
structure IsNearest (value : ℚ) (number : ℕ) : Prop where
  near : |value - number| ≤ 1 / 2
  even_of_tie : |value - number| = 1 / 2 → Even number

/-- The place of the last of so many significant digits of a fraction. -/
def lastPlace (value : ℚ) (digits : ℕ) : ℚ :=
  10 ^ (Int.log 10 value + 1 - digits)

/-- A fraction rounded to so many places behind the point. -/
def RoundsToPlaces (value : ℚ) (places : ℕ) (rounded : ℚ) : Prop :=
  ∃ number : ℕ, IsNearest (value * 10 ^ places) number ∧ rounded = number / 10 ^ places

/-- A fraction rounded to so many significant digits. -/
def RoundsTo (value : ℚ) (digits : ℕ) (rounded : ℚ) : Prop :=
  ∃ number : ℕ, IsNearest (value / lastPlace value digits) number ∧
    rounded = number * lastPlace value digits

namespace Decimal

/-- The fraction as a rational number. -/
def toRat (value : Decimal) : ℚ :=
  value.coefficient / 10 ^ value.scale

end Decimal

namespace Scientific

/-- The number with so many places behind the point of its mantissa. -/
def toRat (number : Scientific) (places : ℕ) : ℚ :=
  number.digits * 10 ^ (number.exponent - places)

end Scientific

variable {value : ℚ} {number other : ℕ}

/-! ## Nearest numbers -/

theorem isNearest_natCast (number : ℕ) : IsNearest number number where
  near := by simp
  even_of_tie := by
    intro tie
    rw [sub_self, abs_zero] at tie
    norm_num at tie

/-- Two numbers that are next to each other are as near only halfway between them. -/
theorem IsNearest.not_succ (nearest : IsNearest value number) : ¬IsNearest value (number + 1) := by
  intro nextNearest
  have above := (abs_le.mp nearest.near).2
  have below := (abs_le.mp nextNearest.near).1
  push_cast at below
  have tie : value - number = 1 / 2 := by linarith
  have nextTie : value - (number + 1 : ℕ) = -(1 / 2) := by
    push_cast
    linarith
  have half : |(1 / 2 : ℚ)| = 1 / 2 := abs_of_pos (by norm_num)
  have even := nearest.even_of_tie (by rw [tie, half])
  have nextEven := nextNearest.even_of_tie (by rw [nextTie, abs_neg, half])
  exact Nat.even_add_one.mp nextEven even

theorem IsNearest.unique (nearest : IsNearest value number)
    (otherNearest : IsNearest value other) : number = other := by
  rcases abs_le.mp nearest.near with ⟨above, below⟩
  rcases abs_le.mp otherNearest.near with ⟨otherAbove, otherBelow⟩
  have close : (number : ℚ) ≤ other + 1 ∧ (other : ℚ) ≤ number + 1 := by
    constructor <;> linarith
  have closeNumbers : number ≤ other + 1 ∧ other ≤ number + 1 := by exact_mod_cast close
  rcases Nat.lt_trichotomy number other with less | same | greater
  · have next : other = number + 1 := by omega
    subst next
    exact absurd otherNearest nearest.not_succ
  · exact same
  · have next : number = other + 1 := by omega
    subst next
    exact absurd nearest otherNearest.not_succ

theorem isNearest_of_abs_lt (close : |value - number| < 1 / 2) : IsNearest value number :=
  ⟨le_of_lt close, fun tie => absurd tie (ne_of_lt close)⟩

theorem IsNearest.le_of_le (nearest : IsNearest value number) (above : value ≤ other) :
    number ≤ other := by
  have lower := (abs_le.mp nearest.near).1
  have close : (number : ℚ) < other + 1 := by linarith
  exact Nat.lt_succ_iff.mp (by exact_mod_cast close)

theorem IsNearest.ge_of_ge (nearest : IsNearest value number) (below : (other : ℚ) ≤ value) :
    other ≤ number := by
  have upper := (abs_le.mp nearest.near).2
  have close : (other : ℚ) < number + 1 := by linarith
  exact Nat.lt_succ_iff.mp (by exact_mod_cast close)

theorem IsNearest.of_ten_mul (nearest : IsNearest (10 * value) (10 * number)) :
    IsNearest value number := by
  have bounds := abs_le.mp nearest.near
  push_cast at bounds
  -- half a step of the finer grid is less than half a step of the coarser one: no tie
  apply isNearest_of_abs_lt
  rw [abs_lt]
  constructor <;> linarith

theorem isNearest_roundedQuotient (numerator : ℕ) {denominator : ℕ}
    (positive : 0 < denominator) :
    IsNearest (numerator / denominator) (roundedQuotient numerator denominator) := by
  have positiveRat : (0 : ℚ) < denominator := by exact_mod_cast positive
  have restLt := Nat.mod_lt numerator positive
  have parts : (numerator : ℚ) / denominator =
      (numerator / denominator : ℕ) + (numerator % denominator : ℕ) / denominator := by
    field_simp
    exact_mod_cast (Nat.div_add_mod numerator denominator).symm.trans (by ring)
  simp only [roundedQuotient]
  generalize numerator / denominator = quotient at parts ⊢
  generalize numerator % denominator = rest at parts restLt ⊢
  -- only the fraction and its denominator matter from here on
  have part : (rest : ℚ) / denominator * denominator = rest := by field_simp
  rw [parts]
  generalize (rest : ℚ) / denominator = fraction at part ⊢
  have below : fraction < 1 := by
    have restLtRat : (rest : ℚ) < denominator := by exact_mod_cast restLt
    nlinarith
  have nonneg : 0 ≤ fraction := by
    have restNonneg : (0 : ℚ) ≤ rest := Nat.cast_nonneg rest
    by_contra negative
    nlinarith
  rcases Nat.lt_trichotomy (2 * rest) denominator with less | same | greater
  · have less' : 2 * (rest : ℚ) < denominator := by exact_mod_cast less
    rw [if_neg (by omega)]
    apply isNearest_of_abs_lt
    rw [abs_lt]
    constructor <;> nlinarith
  · have same' : 2 * (rest : ℚ) = denominator := by exact_mod_cast same
    have half : fraction = 1 / 2 := by
      have twice : (2 * fraction - 1) * (denominator : ℚ) = 0 := by linarith
      rcases mul_eq_zero.mp twice with none | zero
      · linarith
      · linarith
    subst half
    split
    case isTrue up =>
      refine ⟨?_, fun _ => ?_⟩
      · push_cast
        rw [abs_le]
        constructor <;> linarith
      · have odd : quotient % 2 = 1 := by omega
        exact Nat.even_add_one.mpr (Nat.not_even_iff.mpr odd)
    case isFalse stay =>
      refine ⟨?_, fun _ => ?_⟩
      · rw [abs_le]
        constructor <;> linarith
      · have even : quotient % 2 = 0 := by omega
        exact Nat.even_iff.mpr even
  · have greater' : (denominator : ℚ) < 2 * rest := by exact_mod_cast greater
    rw [if_pos (Or.inl greater)]
    apply isNearest_of_abs_lt
    push_cast
    rw [abs_lt]
    constructor <;> nlinarith

/-! ## Places -/

theorem ten_pow_ne_zero (exponent : ℕ) : (10 : ℚ) ^ exponent ≠ 0 :=
  pow_ne_zero exponent (by norm_num)

theorem ten_zpow_add (first second : ℤ) :
    (10 : ℚ) ^ (first + second) = 10 ^ first * 10 ^ second :=
  zpow_add₀ (by norm_num) first second

namespace Decimal

theorem toRat_eq (value : Decimal) :
    value.toRat = value.coefficient * 10 ^ (-(value.scale : ℤ)) := by
  rw [toRat, zpow_neg, zpow_natCast, div_eq_mul_inv]

/-- A decimal fraction is rounded on the grid of its places. -/
theorem isNearest_toPlaces (value : Decimal) (places : ℕ) :
    IsNearest (value.toRat * 10 ^ places) (value.toPlaces places) := by
  have power (exponent : ℕ) : Nat.pow 10 exponent = 10 ^ exponent := rfl
  rw [toPlaces, toRat]
  split
  case isTrue enough =>
    have exact : (value.coefficient : ℚ) / 10 ^ value.scale * 10 ^ places =
        (value.coefficient * Nat.pow 10 (places - value.scale) : ℕ) := by
      have more : (10 : ℚ) ^ places = 10 ^ value.scale * 10 ^ (places - value.scale) := by
        rw [← pow_add, Nat.add_sub_of_le enough]
      rw [more, power]
      push_cast
      field_simp
    rw [exact]
    exact isNearest_natCast _
  case isFalse tooFew =>
    have quotient : (value.coefficient : ℚ) / 10 ^ value.scale * 10 ^ places =
        value.coefficient / (Nat.pow 10 (value.scale - places) : ℕ) := by
      have more : (10 : ℚ) ^ value.scale = 10 ^ places * 10 ^ (value.scale - places) := by
        rw [← pow_add, Nat.add_sub_of_le (by omega)]
      rw [more, power]
      push_cast
      field_simp
    rw [quotient]
    exact isNearest_roundedQuotient _ (Nat.pow_pos (by norm_num))

end Decimal

/-! ## Significant digits -/

theorem decimalLength_eq (notZero : number ≠ 0) : decimalLength number = Nat.log 10 number + 1 :=
  length_digits_eq (by decide) (Nat.pow_log_le_self 10 notZero)
    (Nat.lt_pow_succ_log_self (by decide) number)

/-- The exponent of the first digit of a number of so many digits, shifted by a power of ten. -/
theorem log_mul_zpow {count : ℕ} (lower : 10 ^ count ≤ number)
    (upper : number < 10 ^ (count + 1))
    (shift : ℤ) : Int.log 10 ((number : ℚ) * 10 ^ shift) = count + shift := by
  have positive : (0 : ℚ) < 10 ^ shift := zpow_pos (by norm_num) shift
  have lowerRat : (10 : ℚ) ^ (count : ℤ) ≤ number := by
    rw [zpow_natCast]
    exact_mod_cast lower
  have upperRat : (number : ℚ) < 10 ^ ((count : ℤ) + 1) := by
    rw [← Nat.cast_succ, zpow_natCast]
    exact_mod_cast upper
  have start : (0 : ℚ) < number := lt_of_lt_of_le (zpow_pos (by norm_num) _) lowerRat
  have shifted := mul_pos start positive
  apply le_antisymm
  · apply Int.lt_add_one_iff.mp
    apply (Int.lt_zpow_iff_log_lt (by decide) shifted).mp
    rw [show (count : ℤ) + shift + 1 = (count + 1) + shift by ring, Nat.cast_ofNat, ten_zpow_add]
    exact mul_lt_mul_of_pos_right upperRat positive
  · apply (Int.zpow_le_iff_le_log (by decide) shifted).mp
    rw [Nat.cast_ofNat, ten_zpow_add]
    exact mul_le_mul_of_nonneg_right lowerRat (le_of_lt positive)

theorem lastPlace_pos (value : ℚ) (digits : ℕ) : 0 < lastPlace value digits :=
  zpow_pos (by norm_num) _

/-- In units of its last significant digit a fraction has as many digits as are wanted. -/
theorem div_lastPlace_bounds (positive : 0 < value) (places : ℕ) :
    10 ^ places ≤ value / lastPlace value (places + 1) ∧
      value / lastPlace value (places + 1) < 10 ^ (places + 1) := by
  have unit := lastPlace_pos value (places + 1)
  have lower := Int.zpow_log_le_self (b := 10) (by decide) positive
  have upper := Int.lt_zpow_succ_log_self (b := 10) (by decide) value
  rw [Nat.cast_ofNat] at lower upper
  have first : (10 : ℚ) ^ places * lastPlace value (places + 1) = 10 ^ Int.log 10 value := by
    rw [lastPlace, ← zpow_natCast, ← ten_zpow_add]
    congr 1
    push_cast
    ring
  constructor
  · rw [le_div_iff₀ unit, first]
    exact lower
  · rw [div_lt_iff₀ unit, pow_succ', mul_assoc, first]
    rw [ten_zpow_add, zpow_one, mul_comm] at upper
    exact upper

namespace Decimal

theorem log_toRat (value : Decimal) (notZero : value.coefficient ≠ 0) :
    Int.log 10 value.toRat = (decimalLength value.coefficient : ℤ) - 1 - value.scale := by
  rw [toRat_eq, log_mul_zpow (Nat.pow_log_le_self 10 notZero)
    (Nat.lt_pow_succ_log_self (by decide) _), decimalLength_eq notZero]
  push_cast
  ring

theorem toRat_pos (value : Decimal) (notZero : value.coefficient ≠ 0) : 0 < value.toRat :=
  div_pos (Nat.cast_pos.mpr (Nat.pos_of_ne_zero notZero)) (pow_pos (by norm_num) _)

/--
A fraction that is not zero is rounded on the grid of its last significant digit. If that
gives a digit more than wanted, it is a power of ten, and the next exponent is written.
-/
theorem toScientific_eq (value : Decimal) (notZero : value.coefficient ≠ 0) (places : ℕ) :
    ∃ number, IsNearest (value.toRat / lastPlace value.toRat (places + 1)) number ∧
      10 ^ places ≤ number ∧ number ≤ 10 ^ (places + 1) ∧
      value.toScientific places =
        if number = 10 ^ (places + 1) then ⟨10 ^ places, Int.log 10 value.toRat + 1⟩
        else ⟨number, Int.log 10 value.toRat⟩ := by
  have log := value.log_toRat notZero
  have ratio : value.toRat / lastPlace value.toRat (places + 1) =
      value.coefficient * 10 ^ ((places : ℤ) + 1 - decimalLength value.coefficient) := by
    rw [div_eq_iff (ne_of_gt (lastPlace_pos _ _)), lastPlace, log, toRat_eq, mul_assoc,
      ← ten_zpow_add]
    congr 2
    push_cast
    ring
  have bounds := div_lastPlace_bounds (value.toRat_pos notZero) places
  simp only [toScientific, if_neg notZero, ← log]
  split
  case isTrue enough =>
    have exact : value.toRat / lastPlace value.toRat (places + 1) =
        (value.coefficient * 10 ^ (places + 1 - decimalLength value.coefficient) : ℕ) := by
      rw [ratio, ← Nat.cast_succ, ← Nat.cast_sub enough, zpow_natCast]
      push_cast
      rfl
    rw [exact] at bounds ⊢
    have lower := Nat.cast_le (α := ℚ).mp (by exact_mod_cast bounds.1)
    have upper := Nat.cast_lt (α := ℚ).mp (by exact_mod_cast bounds.2)
    refine ⟨_, isNearest_natCast _, lower, Nat.le_of_lt upper, ?_⟩
    exact (if_neg (Nat.ne_of_lt upper)).symm
  case isFalse tooMany =>
    have quotient : value.toRat / lastPlace value.toRat (places + 1) =
        value.coefficient / (10 ^ (decimalLength value.coefficient - (places + 1)) : ℕ) := by
      have exponent : (places : ℤ) + 1 - decimalLength value.coefficient =
          -((decimalLength value.coefficient - (places + 1) : ℕ) : ℤ) := by omega
      rw [ratio, exponent, zpow_neg, zpow_natCast, div_eq_mul_inv]
      push_cast
      rfl
    have nearest := isNearest_roundedQuotient value.coefficient
      (show 0 < 10 ^ (decimalLength value.coefficient - (places + 1)) by positivity)
    rw [← quotient] at nearest
    refine ⟨_, nearest, ?_, ?_, rfl⟩
    · apply nearest.ge_of_ge
      exact_mod_cast bounds.1
    · apply nearest.le_of_le
      exact_mod_cast le_of_lt bounds.2

theorem toScientific_of_zero {value : Decimal} (zero : value.coefficient = 0) (places : ℕ) :
    value.toScientific places = ⟨0, 0⟩ ∧ value.toRat = 0 := by
  refine ⟨if_pos zero, ?_⟩
  rw [toRat, zero, Nat.cast_zero, zero_div]

theorem digits_toScientific_bounds (value : Decimal) (notZero : value.coefficient ≠ 0)
    (places : ℕ) :
    10 ^ places ≤ (value.toScientific places).digits ∧
      (value.toScientific places).digits < 10 ^ (places + 1) := by
  rcases value.toScientific_eq notZero places with ⟨number, _, lower, upper, found⟩
  rw [found]
  split
  case isTrue carried => exact ⟨le_refl _, Nat.pow_lt_pow_succ (by decide)⟩
  case isFalse apart => exact ⟨lower, Nat.lt_of_le_of_ne upper apart⟩

/-- The mantissa and the exponent denote the fraction rounded to significant digits. -/
theorem toScientific_rounds (value : Decimal) (places : ℕ) :
    RoundsTo value.toRat (places + 1) ((value.toScientific places).toRat places) := by
  by_cases zero : value.coefficient = 0
  · rcases toScientific_of_zero zero places with ⟨found, none⟩
    refine ⟨0, ?_, ?_⟩
    · rw [none, zero_div]
      exact isNearest_natCast 0
    · rw [found, Scientific.toRat]
      simp
  · rcases value.toScientific_eq zero places with ⟨number, nearest, _, _, found⟩
    refine ⟨number, nearest, ?_⟩
    rw [found, Scientific.toRat, lastPlace]
    split
    case isTrue carried =>
      rw [carried]
      push_cast
      rw [pow_succ, mul_assoc, ← zpow_one_add₀ (by norm_num : (10 : ℚ) ≠ 0)]
      congr 2
      ring
    case isFalse =>
      congr 2
      push_cast
      ring

theorem log_toScientific (value : Decimal) (places : ℕ) :
    Int.log 10 ((value.toScientific places).toRat places) =
      (value.toScientific places).exponent := by
  by_cases zero : value.coefficient = 0
  · rw [(toScientific_of_zero zero places).1, Scientific.toRat]
    simp
  · rcases value.digits_toScientific_bounds zero places with ⟨lower, upper⟩
    rw [Scientific.toRat, log_mul_zpow lower upper]
    ring

/--
Rounding to the places that the significant digits have in positional form gives the same
digits. After a carry the last place is one further in front, where the fraction is even
nearer to the power of ten that it was rounded to.
-/
theorem toPlaces_eq_digits (value : Decimal) {places count : ℕ}
    (placed : (count : ℤ) = places - (value.toScientific places).exponent) :
    value.toPlaces count = (value.toScientific places).digits := by
  apply (value.isNearest_toPlaces count).unique
  by_cases zero : value.coefficient = 0
  · rcases toScientific_of_zero zero places with ⟨found, none⟩
    rw [found, none, zero_mul]
    exact isNearest_natCast 0
  · rcases value.toScientific_eq zero places with ⟨number, nearest, _, _, found⟩
    rw [found] at placed ⊢
    rw [lastPlace, div_eq_mul_inv, ← zpow_neg] at nearest
    split at placed
    case isTrue carried =>
      rw [if_pos carried]
      -- one place fewer is left than the number was rounded to
      apply IsNearest.of_ten_mul
      have shift : 10 * (value.toRat * 10 ^ count) =
          value.toRat * 10 ^ (-(Int.log 10 value.toRat + 1 - (places + 1 : ℕ))) := by
        have exponent : -(Int.log 10 value.toRat + 1 - (places + 1 : ℕ)) = (count + 1 : ℕ) := by
          push_cast
          linarith
        rw [exponent, zpow_natCast, pow_succ]
        ring
      rw [shift, ← pow_succ', ← carried]
      exact nearest
    case isFalse apart =>
      rw [if_neg apart, ← zpow_natCast, placed]
      convert nearest using 3
      push_cast
      ring

end Decimal

/-- A significand and a power of two denote the same number as a decimal fraction. -/
theorem Floating.toRat_magnitude (significand : ℕ) (exponent : ℤ) :
    (Floating.magnitude significand exponent).toRat = significand * 2 ^ exponent := by
  cases exponent with
  | ofNat power =>
    change ((significand * 2 ^ power : ℕ) : ℚ) / 10 ^ 0 = significand * 2 ^ (power : ℤ)
    rw [pow_zero, div_one, zpow_natCast]
    push_cast
    rfl
  | negSucc power =>
    have ten : (10 : ℚ) ^ (power + 1) = 5 ^ (power + 1) * 2 ^ (power + 1) := by
      rw [← mul_pow]
      norm_num
    change ((significand * 5 ^ (power + 1) : ℕ) : ℚ) / 10 ^ (power + 1) = _
    rw [ten, zpow_negSucc]
    push_cast
    field_simp

end Number

end Rtos
