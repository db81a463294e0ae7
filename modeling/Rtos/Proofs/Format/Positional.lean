import Mathlib.Data.List.DropRight
import Rtos.Format.Real
import Rtos.Proofs.ByteString.Content
import Rtos.Proofs.Number.Rounding

/-!
# Positional form

A number of places behind a point is written by its digits. The digits in front of the point
are those of the quotient by a power of ten, and the places are as many of the last digits,
with zeros where the number has none (`zeroFilled_decimal`). So the text denotes the number
divided by that power of ten, whether or not zeros at its end are dropped
(`Positional.value_written`).
-/

namespace Rtos

namespace Number

variable {base : ℕ}

/-! ## Digits one behind the other -/

theorem lastDigitsOnto_append (base count number : ℕ) (known : List ℕ) :
    lastDigitsOnto base count number known = lastDigitsOnto base count number [] ++ known := by
  induction count generalizing number known with
  | zero => rfl
  | succ count ih =>
    calc lastDigitsOnto base (count + 1) number known
        = lastDigitsOnto base count (number / base) [] ++ number % base :: known := ih _ _
      _ = lastDigitsOnto base count (number / base) [number % base] ++ known := by
        rw [ih _ [number % base], List.append_assoc, List.singleton_append]

theorem length_lastDigitsOnto (base count number : ℕ) (known : List ℕ) :
    (lastDigitsOnto base count number known).length = count + known.length := by
  induction count generalizing number known with
  | zero => exact (Nat.zero_add _).symm
  | succ count ih =>
    have step := ih (number / base) (number % base :: known)
    rw [List.length_cons] at step
    rw [lastDigitsOnto, step]
    omega

theorem lt_of_mem_lastDigitsOnto (positive : 0 < base) {count number : ℕ} {known : List ℕ}
    (below : ∀ digit ∈ known, digit < base) :
    ∀ digit ∈ lastDigitsOnto base count number known, digit < base := by
  induction count generalizing number known with
  | zero => exact below
  | succ count ih =>
    apply ih
    rw [List.forall_mem_cons]
    exact ⟨Nat.mod_lt number positive, below⟩

theorem digitsOnto_append (two_le : 2 ≤ base) (number : ℕ) (known : List ℕ) :
    digitsOnto base number known = digitsOnto base number [] ++ known := by
  induction number using Nat.strongRecOn generalizing known with
  | ind number ih =>
    by_cases more : base ≤ number
    · have smaller : number / base < number := Nat.div_lt_self (by omega) two_le
      rw [digitsOnto, dif_pos ⟨two_le, more⟩, ih _ smaller]
      conv_rhs => rw [digitsOnto, dif_pos ⟨two_le, more⟩, ih _ smaller]
      rw [List.append_assoc, List.singleton_append]
    · have last : ¬(2 ≤ base ∧ base ≤ number) := fun both => more both.2
      rw [digitsOnto, dif_neg last, digitsOnto, dif_neg last]
      rfl

theorem digits_of_lt {number : ℕ} (below : number < base) : digits base number = [number] := by
  rw [digits_eq_digitsOnto, digitsOnto, dif_neg (by omega)]

theorem digits_of_le {number : ℕ} (two_le : 2 ≤ base) (more : base ≤ number) :
    digits base number = digits base (number / base) ++ [number % base] := by
  rw [digits_eq_digitsOnto, digitsOnto, dif_pos ⟨two_le, more⟩, digitsOnto_append two_le,
    ← digits_eq_digitsOnto]

theorem isShortest_decimal (number : ℕ) : IsShortest 10 false number (decimal number) :=
  isShortest_numeral (by decide) (by decide) false number

/-! ## Places -/

/-- So many of the last digits of a number. -/
def lastPlaces (number places : ℕ) : Bytes :=
  (lastDigitsOnto 10 places number []).map (digitByte false)

@[simp]
theorem length_lastPlaces (number places : ℕ) : (lastPlaces number places).length = places := by
  rw [lastPlaces, List.length_map, length_lastDigitsOnto]
  rfl

theorem isDigitOf_lastPlaces {number places : ℕ} :
    ∀ byte ∈ lastPlaces number places, IsDigitOf 10 false byte := by
  intro byte byteMem
  rcases List.mem_map.mp byteMem with ⟨digit, digitMem, rfl⟩
  exact ⟨digit, lt_of_mem_lastDigitsOnto (by decide) (by simp) digit digitMem, rfl⟩

theorem lastPlaces_succ (number places : ℕ) :
    lastPlaces number (places + 1) =
      lastPlaces (number / 10) places ++ [digitByte false (number % 10)] := by
  rw [lastPlaces, lastDigitsOnto, lastDigitsOnto_append, List.map_append]
  rfl

theorem zeroFilled_succ (number places : ℕ) :
    zeroFilled (places + 2) (decimal number) =
      zeroFilled (places + 1) (decimal (number / 10)) ++ [digitByte false (number % 10)] := by
  -- a number of one digit leaves nothing in front of it, which is written as one zero more
  by_cases more : 10 ≤ number
  · have split : decimal number = decimal (number / 10) ++ [digitByte false (number % 10)] := by
      rw [decimal, numeral, digits_of_le (by decide) more, List.map_append]
      rfl
    rw [split, zeroFilled, zeroFilled, List.length_append, List.length_singleton,
      show places + 2 = places + 1 + 1 from rfl, Nat.add_sub_add_right, List.append_assoc]
  · have none : number / 10 = 0 ∧ number % 10 = number := by omega
    have alone : decimal number = [digitByte false number] := by
      rw [decimal, numeral, digits_of_lt (by omega)]
      rfl
    have zero : decimal 0 = [0x30] := by
      rw [decimal, numeral, digits_of_lt (by decide)]
      rfl
    rw [none.1, none.2, alone, zero, zeroFilled, zeroFilled, List.length_singleton,
      List.length_singleton, Nat.add_sub_cancel, ← List.replicate_succ']
    rfl

theorem valueIn_zeroFilled (length number : ℕ) :
    valueIn 10 (zeroFilled length (decimal number)) = number := by
  rw [zeroFilled, valueIn_zeros]
  exact (isShortest_decimal number).value

/-- The whole part of a number and its places; the whole part has one digit at least. -/
theorem zeroFilled_decimal (number places : ℕ) :
    zeroFilled (places + 1) (decimal number) =
      decimal (number / 10 ^ places) ++ lastPlaces number places := by
  -- without its last place the text is that of a tenth of the number
  induction places generalizing number with
  | zero =>
    have shortest := isShortest_decimal number
    have some : 1 ≤ (decimal number).length := List.length_pos_iff.mpr shortest.nonempty
    rw [zeroFilled, Nat.zero_add, Nat.sub_eq_zero_of_le some, pow_zero, Nat.div_one]
    exact (List.append_nil _).symm
  | succ places ih =>
    rw [zeroFilled_succ, ih, lastPlaces_succ, Nat.div_div_eq_div_mul, ← pow_succ',
      List.append_assoc]

theorem valueIn_append (base : ℕ) (first second : Bytes) :
    valueIn base (first ++ second) =
      valueIn base first * base ^ second.length + valueIn base second := by
  have parts := readDigits_eq_add base (second.map digitValue)
    (readDigits base (first.map digitValue) 0)
  rw [List.length_map] at parts
  rw [valueIn, List.map_append]
  exact (List.foldl_append ..).trans parts

/-- Zeros behind digits multiply what they denote by a power of the base. -/
theorem valueIn_append_zeros (base : ℕ) (bytes : Bytes) (count : ℕ) :
    valueIn base (bytes ++ List.replicate count 0x30) = valueIn base bytes * base ^ count := by
  have zeros := valueIn_zeros base count []
  rw [List.append_nil] at zeros
  rw [valueIn_append, zeros, List.length_replicate]
  rfl

end Number

namespace Format

/-- A whole part and places, with a point in between or without one. -/
structure Positional where
  whole : Bytes
  point : Bool
  places : Bytes

namespace Positional

def bytes (text : Positional) : Bytes :=
  text.whole ++ (if text.point then [Format.point] else []) ++ text.places

/-- The number that is denoted. -/
def value (text : Positional) : ℚ :=
  Number.valueIn 10 (text.whole ++ text.places) / 10 ^ text.places.length

/-- The whole part is a shortest numeral, and a point separates it from the places. -/
structure WellFormed (text : Positional) : Prop where
  whole : ∃ number, Number.IsShortest 10 false number text.whole
  places : ∀ byte ∈ text.places, Number.IsDigitOf 10 false byte
  point : text.places ≠ [] → text.point = true

/-- The number `digits / 10 ^ places`. Zeros at the end of the places are dropped on request. -/
def written (digits places : ℕ) (dropZeros keepPoint : Bool) : Positional :=
  let kept :=
    if dropZeros then withoutTrailingZeros (Number.lastPlaces digits places)
    else Number.lastPlaces digits places
  { whole := Number.decimal (digits / 10 ^ places)
    point := keepPoint || !kept.isEmpty
    places := kept }

end Positional

theorem withoutTrailingZeros_eq (places : Bytes) :
    withoutTrailingZeros places = places.rdropWhile (· == 0x30) := rfl

theorem getLast?_withoutTrailingZeros (places : Bytes) :
    (withoutTrailingZeros places).getLast? ≠ some 0x30 := by
  intro zero
  rw [withoutTrailingZeros_eq, List.getLast?_eq_some_iff] at zero
  rcases zero with ⟨others, split⟩
  have nonempty : places.rdropWhile (· == 0x30) ≠ [] := by
    rw [split]
    exact List.concat_ne_nil _ _
  have last := List.rdropWhile_last_not _ _ nonempty
  simp only [split, List.getLast_append_singleton] at last
  exact last rfl

variable (digits places : ℕ) (dropZeros keepPoint : Bool)

theorem positional_eq :
    positional digits places dropZeros keepPoint =
      (Positional.written digits places dropZeros keepPoint).bytes := by
  have split := Number.zeroFilled_decimal digits places
  have length : (Number.zeroFilled (places + 1) (Number.decimal digits)).length - places =
      (Number.decimal (digits / 10 ^ places)).length := by
    rw [split, List.length_append, Number.length_lastPlaces, Nat.add_sub_cancel]
  simp only [positional, length]
  rw [split, List.take_left, List.drop_left, pointed, Positional.written, Positional.bytes]
  generalize (if dropZeros = true then _ else _ : Bytes) = kept
  cases kept with
  | nil => cases keepPoint <;> simp
  | cons first rest => simp

namespace Positional

/-- What is written of the places is all of them but zeros. -/
theorem exists_lastPlaces_eq :
    ∃ count, Number.lastPlaces digits places =
      (written digits places dropZeros keepPoint).places ++ List.replicate count 0x30 := by
  cases dropZeros with
  | false => exact ⟨0, (List.append_nil _).symm⟩
  | true => exact Bytes.exists_eq_rdropWhile_append 0x30 _

theorem wellFormed_written : (written digits places dropZeros keepPoint).WellFormed where
  whole := ⟨_, Number.isShortest_decimal _⟩
  places := by
    intro byte byteMem
    rcases exists_lastPlaces_eq digits places dropZeros keepPoint with ⟨count, split⟩
    apply Number.isDigitOf_lastPlaces byte
    rw [split]
    exact List.mem_append_left _ byteMem
  point := by
    intro nonempty
    apply (Bool.or_eq_true _ _).mpr
    right
    rw [Bool.not_eq_true', List.isEmpty_eq_false_iff]
    exact nonempty

/-- The text denotes the number that is written, with or without the zeros at its end. -/
theorem value_written :
    (written digits places dropZeros keepPoint).value = digits / 10 ^ places := by
  have whole : Number.valueIn 10
      (Number.decimal (digits / 10 ^ places) ++ Number.lastPlaces digits places) = digits := by
    rw [← Number.zeroFilled_decimal]
    exact Number.valueIn_zeroFilled _ digits
  have length := Number.length_lastPlaces digits places
  rcases exists_lastPlaces_eq digits places dropZeros keepPoint with ⟨count, split⟩
  rw [split, ← List.append_assoc, Number.valueIn_append_zeros] at whole
  rw [split, List.length_append, List.length_replicate] at length
  have scaled : (digits : ℚ) = Number.valueIn 10 (Number.decimal (digits / 10 ^ places) ++
      (written digits places dropZeros keepPoint).places) * 10 ^ count := by
    exact_mod_cast whole.symm
  have powers : (10 : ℚ) ^ places =
      10 ^ (written digits places dropZeros keepPoint).places.length * 10 ^ count := by
    rw [← pow_add, length]
  rw [scaled, powers, mul_div_mul_right _ _ (Number.ten_pow_ne_zero count)]
  rfl

theorem length_places_written :
    (written digits places false keepPoint).places.length = places :=
  Number.length_lastPlaces digits places

theorem point_written_iff :
    (written digits places dropZeros keepPoint).point = true ↔
      keepPoint = true ∨ (written digits places dropZeros keepPoint).places ≠ [] := by
  rw [written, Bool.or_eq_true, Bool.not_eq_true', List.isEmpty_eq_false_iff]

theorem point_written_of_kept_iff :
    (written digits places false keepPoint).point = true ↔ keepPoint = true ∨ places ≠ 0 := by
  rw [point_written_iff, ← List.length_pos_iff, length_places_written, Nat.pos_iff_ne_zero]

/-- Less than ten units of the first place are written with one digit in front of the point. -/
theorem length_whole_written {digits places : ℕ} (below : digits < 10 ^ (places + 1)) :
    (written digits places dropZeros keepPoint).whole.length = 1 := by
  have quotient : digits / 10 ^ places < 10 := by
    rw [pow_succ'] at below
    exact Nat.div_lt_of_lt_mul (by rwa [Nat.mul_comm] at below)
  change ((Number.digits 10 (digits / 10 ^ places)).map _).length = 1
  rw [Number.digits_of_lt quotient]
  rfl

end Positional

end Format

end Rtos
