import Mathlib.Algebra.Group.Int.Defs
import Mathlib.Algebra.Group.Nat.Defs
import Rtos.Number.Digits

/-!
# What numerals denote

Digits denote a number, whether or not there are zeros in front of them. The digits of a
number denote it, and no fewer digits do (`isShortest_numeral`): those of a number that is
not zero begin with one that is not zero.
-/

namespace Rtos

namespace Number

/-- The number that digits denote, behind a number that is already read. -/
def readDigits (base : Nat) (digits : List Nat) (number : Nat) : Nat :=
  digits.foldl (fun number digit => number * base + digit) number

/-- The value of an ASCII digit. -/
def digitValue (byte : UInt8) : Nat :=
  if byte ≤ 0x39 then byte.toNat - 0x30
  else if byte ≤ 0x46 then byte.toNat - 0x37
  else byte.toNat - 0x57

/-- The number that ASCII digits denote. -/
def valueIn (base : Nat) (bytes : Bytes) : Nat :=
  readDigits base (bytes.map digitValue) 0

/-- Whether a byte is a digit of a base up to sixteen, in capital letters or in small ones. -/
def IsDigitOf (base : Nat) (upper : Bool) (byte : UInt8) : Prop :=
  ∃ digit < base, byte = digitByte upper digit

/-- The digits denote the number, and no fewer digits do. -/
structure IsShortest (base : Nat) (upper : Bool) (number : Nat) (bytes : Bytes) : Prop where
  nonempty : bytes ≠ []
  isDigitOf : ∀ byte ∈ bytes, IsDigitOf base upper byte
  value : valueIn base bytes = number
  length_le : ∀ other : Bytes, other ≠ [] →
    (∀ byte ∈ other, IsDigitOf base upper byte) →
    valueIn base other = number → bytes.length ≤ other.length

/-! ## Digits in groups -/

theorem lastDigitsOnto_mod (base count number : Nat) (known : List Nat) :
    lastDigitsOnto base count (number % base ^ count) known =
      lastDigitsOnto base count number known := by
  induction count generalizing number known with
  | zero => rfl
  | succ count ih =>
      simp only [lastDigitsOnto, Nat.pow_succ', Nat.mod_mul_right_div_self,
        Nat.mod_mul_right_mod, ih]

/-- The last digits of a number that has more can be taken off at once. -/
theorem digitsOnto_of_pow_le {base count number : Nat} (two_le : 2 ≤ base)
    (pow_le : base ^ count ≤ number) (known : List Nat) :
    digitsOnto base number known =
      digitsOnto base (number / base ^ count) (lastDigitsOnto base count number known) := by
  induction count generalizing number known with
  | zero => simp [lastDigitsOnto]
  | succ count ih =>
      have pow_le_div : base ^ count ≤ number / base :=
        (Nat.le_div_iff_mul_le (by omega)).2 pow_le
      have positive : 0 < base ^ count := Nat.pow_pos (by omega)
      have base_le : base ≤ number := by
        rw [Nat.pow_succ'] at pow_le
        exact Nat.le_trans (Nat.le_mul_of_pos_right base positive) pow_le
      rw [digitsOnto, dif_pos ⟨two_le, base_le⟩, ih pow_le_div]
      simp only [lastDigitsOnto, Nat.div_div_eq_div_mul, Nat.pow_succ']

theorem groupedDigitsOnto_eq (base number : Nat) (known : List Nat) :
    groupedDigitsOnto base number known = digitsOnto base number known := by
  fun_induction groupedDigitsOnto base number known with
  | case1 number known group more ih =>
      have power : group = base ^ groupSize := rfl
      rw [ih, power, lastDigitsOnto_mod, ← digitsOnto_of_pow_le more.1 more.2]
  | case2 => rfl

/-- Finding digits in groups finds the digits. -/
theorem digits_eq_digitsOnto (base number : Nat) :
    digits base number = digitsOnto base number [] :=
  groupedDigitsOnto_eq base number []

variable {base number : Nat}

/-! ## Bounds on the number that is denoted -/

theorem readDigits_eq_add (base : Nat) (digits : List Nat) (number : Nat) :
    readDigits base digits number =
      number * base ^ digits.length + readDigits base digits 0 := by
  induction digits generalizing number with
  | nil => simp [readDigits]
  | cons digit digits ih =>
    change readDigits base digits (number * base + digit) =
      number * base ^ (digits.length + 1) + readDigits base digits (0 * base + digit)
    rw [ih, ih (0 * base + digit), Nat.add_mul, Nat.pow_succ', Nat.mul_assoc, Nat.zero_mul,
      Nat.zero_add, Nat.add_assoc]

theorem readDigits_lt {digits : List Nat} (below : ∀ digit ∈ digits, digit < base) :
    readDigits base digits 0 < base ^ digits.length := by
  induction digits with
  | nil => simp [readDigits]
  | cons digit digits ih =>
    rw [List.forall_mem_cons] at below
    have rest := ih below.2
    have first := Nat.mul_le_mul_right (base ^ digits.length) (Nat.succ_le_of_lt below.1)
    change readDigits base digits (0 * base + digit) < base ^ (digits.length + 1)
    rw [readDigits_eq_add, Nat.pow_succ', Nat.zero_mul, Nat.zero_add]
    rw [Nat.succ_mul] at first
    omega

theorem pow_le_readDigits (base : Nat) {first : Nat} (notZero : first ≠ 0) (digits : List Nat) :
    base ^ digits.length ≤ readDigits base (first :: digits) 0 := by
  have bound := Nat.le_mul_of_pos_left (base ^ digits.length) (Nat.pos_of_ne_zero notZero)
  change _ ≤ readDigits base digits (0 * base + first)
  rw [readDigits_eq_add, Nat.zero_mul, Nat.zero_add]
  omega

/-! ## The digits of a number -/

theorem readDigits_digitsOnto (base number : Nat) (known : List Nat) :
    readDigits base (digitsOnto base number known) 0 = readDigits base known number := by
  fun_induction digitsOnto base number known with
  | case1 number known more ih =>
    rw [ih]
    change readDigits base known (number / base * base + number % base) = _
    rw [Nat.mul_comm, Nat.div_add_mod]
  | case2 number known =>
    change readDigits base known (0 * base + number) = _
    rw [Nat.zero_mul, Nat.zero_add]

theorem readDigits_digits (base number : Nat) :
    readDigits base (digits base number) 0 = number := by
  rw [digits_eq_digitsOnto, readDigits_digitsOnto]
  rfl

theorem lt_of_mem_digitsOnto {known : List Nat} (two_le : 2 ≤ base)
    (below : ∀ digit ∈ known, digit < base) :
    ∀ digit ∈ digitsOnto base number known, digit < base := by
  fun_induction digitsOnto base number known with
  | case1 number known more ih =>
    apply ih
    rw [List.forall_mem_cons]
    exact ⟨Nat.mod_lt _ (by omega), below⟩
  | case2 number known notMore =>
    rw [List.forall_mem_cons]
    exact ⟨by omega, below⟩

theorem lt_of_mem_digits (two_le : 2 ≤ base) (number : Nat) :
    ∀ digit ∈ digits base number, digit < base := by
  rw [digits_eq_digitsOnto]
  exact lt_of_mem_digitsOnto two_le (by simp)

theorem exists_digitsOnto_eq_cons (base number : Nat) (known : List Nat) :
    ∃ first rest, digitsOnto base number known = first :: rest ∧
      (number ≠ 0 → first ≠ 0) := by
  fun_induction digitsOnto base number known with
  | case1 number known more ih =>
    obtain ⟨first, rest, split, notZero⟩ := ih
    have positive := Nat.div_pos more.2 (by omega : 0 < base)
    exact ⟨first, rest, split, fun _ => notZero (by omega)⟩
  | case2 number known => exact ⟨number, known, rfl, id⟩

theorem exists_digits_eq_cons (base number : Nat) :
    ∃ first rest, digits base number = first :: rest ∧ (number ≠ 0 → first ≠ 0) := by
  rw [digits_eq_digitsOnto]
  exact exists_digitsOnto_eq_cons base number []

theorem digits_zero (two_le : 2 ≤ base) : digits base 0 = [0] := by
  rw [digits_eq_digitsOnto, digitsOnto, dif_neg (by omega)]

theorem length_digits_le {other : List Nat} (two_le : 2 ≤ base) (nonempty : other ≠ [])
    (below : ∀ digit ∈ other, digit < base) (same : readDigits base other 0 = number) :
    (digits base number).length ≤ other.length := by
  obtain ⟨first, rest, split, notZero⟩ := exists_digits_eq_cons base number
  have positive := List.length_pos_iff.mpr nonempty
  rw [split, List.length_cons]
  by_cases zero : number = 0
  · subst zero
    rw [digits_zero two_le] at split
    cases split
    exact positive
  · have lower := pow_le_readDigits base (notZero zero) rest
    rw [← split, readDigits_digits] at lower
    have upper := readDigits_lt below
    rw [same] at upper
    have shorter := (Nat.pow_lt_pow_iff_right two_le).mp (Nat.lt_of_le_of_lt lower upper)
    exact shorter

/-- The number of digits of a number between two powers of the base. -/
theorem length_digits_eq {count : Nat} (two_le : 2 ≤ base) (lower : base ^ count ≤ number)
    (upper : number < base ^ (count + 1)) : (digits base number).length = count + 1 := by
  obtain ⟨first, rest, split, notZero⟩ := exists_digits_eq_cons base number
  have positive := Nat.pow_pos (n := count) (by omega : 0 < base)
  have few := pow_le_readDigits base (notZero (by omega)) rest
  have many := readDigits_lt (lt_of_mem_digits two_le number)
  rw [← split, readDigits_digits] at few
  rw [readDigits_digits] at many
  have notMore := (Nat.pow_lt_pow_iff_right two_le).mp (Nat.lt_of_le_of_lt few upper)
  have notLess := (Nat.pow_lt_pow_iff_right two_le).mp (Nat.lt_of_le_of_lt lower many)
  rw [split, List.length_cons] at notLess ⊢
  omega

/-! ## Numerals -/

theorem digitValue_digitByte (upper : Bool) {digit : Nat} (below : digit < 16) :
    digitValue (digitByte upper digit) = digit := by
  revert digit upper
  decide

theorem valueIn_map_digitByte (base : Nat) (upper : Bool) {digits : List Nat}
    (below : ∀ digit ∈ digits, digit < 16) :
    valueIn base (digits.map (digitByte upper)) = readDigits base digits 0 := by
  have inverse : digits.map (digitValue ∘ digitByte upper) = digits.map id :=
    List.map_congr_left fun digit digitMem => digitValue_digitByte upper (below digit digitMem)
  rw [valueIn, List.map_map, inverse, List.map_id]

theorem exists_map_digitByte {upper : Bool} {bytes : Bytes}
    (isDigit : ∀ byte ∈ bytes, IsDigitOf base upper byte) :
    ∃ digits : List Nat, bytes = digits.map (digitByte upper) ∧
      ∀ digit ∈ digits, digit < base := by
  induction bytes with
  | nil => exact ⟨[], rfl, by simp⟩
  | cons byte bytes ih =>
    rw [List.forall_mem_cons] at isDigit
    obtain ⟨digit, below, rfl⟩ := isDigit.1
    obtain ⟨digits, rfl, restBelow⟩ := ih isDigit.2
    exact ⟨digit :: digits, rfl, List.forall_mem_cons.mpr ⟨below, restBelow⟩⟩

theorem valueIn_numeral (two_le : 2 ≤ base) (le_sixteen : base ≤ 16) (upper : Bool)
    (number : Nat) : valueIn base (numeral base upper number) = number := by
  rw [numeral, valueIn_map_digitByte, readDigits_digits]
  intro digit digitMem
  exact Nat.lt_of_lt_of_le (lt_of_mem_digits two_le number digit digitMem) le_sixteen

/-- A numeral has as few digits as its number has. -/
theorem isShortest_numeral (two_le : 2 ≤ base) (le_sixteen : base ≤ 16) (upper : Bool)
    (number : Nat) : IsShortest base upper number (numeral base upper number) where
  nonempty := by
    obtain ⟨first, rest, split, _⟩ := exists_digits_eq_cons base number
    rw [numeral, split]
    exact List.cons_ne_nil _ _
  isDigitOf := by
    intro byte byteMem
    obtain ⟨digit, digitMem, rfl⟩ := List.mem_map.mp byteMem
    exact ⟨digit, lt_of_mem_digits two_le number digit digitMem, rfl⟩
  value := valueIn_numeral two_le le_sixteen upper number
  length_le := by
    intro other nonempty isDigit same
    obtain ⟨digits, rfl, below⟩ := exists_map_digitByte isDigit
    have belowSixteen : ∀ digit ∈ digits, digit < 16 :=
      fun digit digitMem => Nat.lt_of_lt_of_le (below digit digitMem) le_sixteen
    rw [valueIn_map_digitByte base upper belowSixteen] at same
    rw [numeral, List.length_map, List.length_map]
    exact length_digits_le two_le (by simpa using nonempty) below same

theorem readDigits_zeros (base count : Nat) (digits : List Nat) :
    readDigits base (List.replicate count 0 ++ digits) 0 = readDigits base digits 0 := by
  induction count with
  | zero => rfl
  | succ count ih =>
    rw [List.replicate_succ, List.cons_append, ← ih]
    change readDigits base _ (0 * base + 0) = _
    rw [Nat.zero_mul]

theorem valueIn_zeros (base count : Nat) (bytes : Bytes) :
    valueIn base (List.replicate count 0x30 ++ bytes) = valueIn base bytes := by
  rw [valueIn, List.map_append, List.map_replicate]
  exact readDigits_zeros base count _

theorem head?_numeral_eq_zero_iff (two_le : 2 ≤ base) (le_sixteen : base ≤ 16) (upper : Bool)
    (number : Nat) : (numeral base upper number).head? = some 0x30 ↔ number = 0 := by
  obtain ⟨first, rest, split, notZero⟩ := exists_digits_eq_cons base number
  have below := lt_of_mem_digits two_le number first (split ▸ List.mem_cons_self)
  have same : digitByte upper first = 0x30 → first = 0 := by
    intro zero
    rw [← digitValue_digitByte upper (Nat.lt_of_lt_of_le below le_sixteen), zero]
    rfl
  rw [numeral, split, List.map_cons, List.head?_cons, Option.some.injEq]
  constructor
  · intro zero
    exact Decidable.byContradiction fun positive => notZero positive (same zero)
  · intro zero
    rw [zero, digits_zero two_le] at split
    cases split
    rfl

end Number

end Rtos
