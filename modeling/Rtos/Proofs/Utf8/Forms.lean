import Mathlib.Tactic.IntervalCases
import Rtos.Utf8.Decoder

/-!
# Forms of a number

A form writes a number as a first byte and some continuation bytes. The first byte says how
many follow and carries the highest bits; each continuation byte carries six more. A small
number has several forms. The encoding of a character is the shortest of its forms.
-/

namespace Rtos

namespace Utf8

/-! ## Scalars -/

theorem scalarOrReplacement_toNat (character : Char) :
    scalarOrReplacement character.toNat = character := by
  have valid : character.toNat.isValidChar := character.valid
  rw [scalarOrReplacement, scalar?, dif_pos valid]
  exact Char.ext rfl

theorem toNat_scalarOrReplacement {code : Nat} (valid : code.isValidChar) :
    (scalarOrReplacement code).toNat = code := by
  rw [scalarOrReplacement, scalar?, dif_pos valid]
  rfl

theorem scalarOrReplacement_of_not_valid {code : Nat} (invalid : ¬code.isValidChar) :
    scalarOrReplacement code = replacement := by
  rw [scalarOrReplacement, scalar?, dif_neg invalid]
  rfl

theorem toNat_lt (character : Char) : character.toNat < 0x110000 := by
  have valid : character.toNat.isValidChar := character.valid
  simp only [Nat.isValidChar] at valid
  omega

/-! ## Continuation bytes -/

theorem isContinuation_iff (byte : UInt8) :
    isContinuation byte ↔ 0x80 ≤ byte.toNat ∧ byte.toNat < 0xC0 := by
  simp [isContinuation, UInt8.le_iff_toNat_le, UInt8.lt_iff_toNat_lt]

theorem toNat_continuation (bits : Nat) : (continuation bits).toNat = 0x80 + bits % 64 := by
  rw [continuation, UInt8.toNat_ofNat']
  omega

theorem isContinuation_continuation (bits : Nat) : isContinuation (continuation bits) := by
  rw [isContinuation_iff, toNat_continuation]
  omega

theorem continuation_eq {byte : UInt8} (continues : isContinuation byte) {bits : Nat}
    (same : bits % 64 = byte.toNat % 64) : continuation bits = byte := by
  rw [isContinuation_iff] at continues
  apply UInt8.toNat_inj.mp
  rw [toNat_continuation]
  omega

/-- The continuation bytes that carry the lowest bits of a number. -/
def continuations : Nat → Nat → Bytes
  | 0, _ => []
  | count + 1, code => continuation (code / 64 ^ count) :: continuations count code

theorem length_continuations (count code : Nat) : (continuations count code).length = count := by
  induction count with
  | zero => rfl
  | succ count ih => rw [continuations, List.length_cons, ih]

/-- Continuation bytes do not tell the bits above those that they carry. -/
theorem continuations_add (count high low : Nat) :
    continuations count (high * 64 ^ count + low) = continuations count low := by
  induction count generalizing high with
  | zero => rfl
  | succ count ih =>
      have shift : high * 64 ^ (count + 1) = high * 64 * 64 ^ count := by
        rw [Nat.pow_succ, Nat.mul_assoc, Nat.mul_comm 64]
      have next : (high * 64 * 64 ^ count + low) / 64 ^ count =
          low / 64 ^ count + high * 64 := by
        rw [Nat.add_comm, Nat.add_mul_div_right _ _ (Nat.pow_pos (by decide))]
      rw [continuations, continuations, shift, ih, next, continuation, Nat.add_mul_mod_self_right,
        continuation]

theorem add_div_shift {count high low : Nat} (bounded : low < 64 ^ count) :
    (high * 64 ^ count + low) / 64 ^ count = high := by
  rw [Nat.add_comm, Nat.add_mul_div_right _ _ (Nat.pow_pos (by decide)),
    Nat.div_eq_of_lt bounded, Nat.zero_add]

/-- The next continuation byte adds the next six bits. -/
theorem add_next_bits (code count : Nat) :
    code / 64 ^ (count + 1) * 64 + (0x80 + code / 64 ^ count % 64) % 64 = code / 64 ^ count := by
  rw [Nat.pow_succ, ← Nat.div_div_eq_div_mul]
  omega

theorem exists_continuations {bytes : Bytes} (all : ∀ byte ∈ bytes, isContinuation byte) :
    ∃ code < 64 ^ bytes.length, continuations bytes.length code = bytes := by
  induction bytes with
  | nil => exact ⟨0, by decide, rfl⟩
  | cons byte bytes ih =>
      rcases ih fun other present => all other (List.mem_cons_of_mem byte present) with
        ⟨code, bounded, same⟩
      refine ⟨byte.toNat % 64 * 64 ^ bytes.length + code, ?_, ?_⟩
      · have high : byte.toNat % 64 * 64 ^ bytes.length ≤ 63 * 64 ^ bytes.length :=
          Nat.mul_le_mul_right _ (by omega)
        rw [List.length_cons, Nat.pow_succ]
        omega
      · rw [List.length_cons, continuations, continuations_add, same, add_div_shift bounded]
        congr 1
        exact continuation_eq (all byte List.mem_cons_self) (Nat.mod_mod _ _)

/-! ## First bytes -/

/-- The smallest first byte before so many continuation bytes. -/
def leadMark : Nat → Nat
  | 0 => 0
  | 1 => 0xC0
  | 2 => 0xE0
  | _ => 0xF0

/-- How many first bytes there are before so many continuation bytes. -/
def leadRoom : Nat → Nat
  | 0 => 128
  | 1 => 32
  | 2 => 16
  | _ => 8

/-- Whether a byte says that so many continuation bytes follow. -/
def IsLead (following : Nat) (byte : UInt8) : Prop :=
  leadMark following ≤ byte.toNat ∧ byte.toNat < leadMark following + leadRoom following

theorem IsLead.unique {count other : Nat} {byte : UInt8} (few : count ≤ 3) (others : other ≤ 3)
    (lead : IsLead count byte) (again : IsLead other byte) : count = other := by
  rw [IsLead] at lead again
  interval_cases count <;> interval_cases other <;> simp only [leadMark, leadRoom] at lead again <;>
    omega

/-- A number, and how many continuation bytes it is written with. -/
structure Form where
  following : Nat
  code : Nat
  following_le : following ≤ 3
  code_lt : code < leadRoom following * 64 ^ following

namespace Form

variable (form : Form)

def lead : UInt8 :=
  UInt8.ofNat (leadMark form.following + form.code / 64 ^ form.following)

def bytes : Bytes :=
  form.lead :: continuations form.following form.code

theorem length_bytes : form.bytes.length = form.following + 1 := by
  rw [bytes, List.length_cons, length_continuations]

theorem high_lt : form.code / 64 ^ form.following < leadRoom form.following :=
  Nat.div_lt_of_lt_mul (Nat.mul_comm _ _ ▸ form.code_lt)

theorem toNat_lead :
    form.lead.toNat = leadMark form.following + form.code / 64 ^ form.following := by
  have bounded : leadMark form.following + leadRoom form.following ≤ 256 := by
    have := form.following_le
    generalize form.following = following at this
    interval_cases following <;> decide
  rw [lead, UInt8.toNat_ofNat', Nat.mod_eq_of_lt]
  exact Nat.lt_of_lt_of_le (Nat.add_lt_add_left form.high_lt _) bounded

theorem isLead : IsLead form.following form.lead := by
  rw [IsLead, toNat_lead]
  exact ⟨Nat.le_add_right _ _, Nat.add_lt_add_left form.high_lt _⟩

theorem code_lt_pow : form.code < 2 ^ 21 := by
  have few := form.following_le
  have bounded := form.code_lt
  generalize form.following = following at few bounded
  interval_cases following <;> simp only [leadRoom] at bounded <;> omega

end Form

/-- A first byte and the continuation bytes that it asks for are a form. -/
theorem exists_form {first : UInt8} {rest : Bytes} (few : rest.length ≤ 3)
    (lead : IsLead rest.length first) (all : ∀ byte ∈ rest, isContinuation byte) :
    ∃ form : Form, form.following = rest.length ∧ form.bytes = first :: rest := by
  rcases exists_continuations all with ⟨low, bounded, same⟩
  rcases lead with ⟨above, below⟩
  have room : first.toNat - leadMark rest.length < leadRoom rest.length := by omega
  have code_lt : (first.toNat - leadMark rest.length) * 64 ^ rest.length + low <
      leadRoom rest.length * 64 ^ rest.length := by
    calc (first.toNat - leadMark rest.length) * 64 ^ rest.length + low
        < (first.toNat - leadMark rest.length + 1) * 64 ^ rest.length := by
          rw [Nat.add_mul, Nat.one_mul]
          exact Nat.add_lt_add_left bounded _
      _ ≤ leadRoom rest.length * 64 ^ rest.length := Nat.mul_le_mul_right _ room
  refine ⟨⟨rest.length, _, few, code_lt⟩, rfl, ?_⟩
  simp only [Form.bytes, Form.lead]
  rw [continuations_add, same, add_div_shift bounded, Nat.add_sub_cancel' above, UInt8.ofNat_toNat]

/-! ## Shortest forms -/

/-- The smallest number of continuation bytes with which a number can be written. -/
def least (code : Nat) : Nat :=
  if code < 0x80 then 0 else if code < 0x800 then 1 else if code < 0x10000 then 2 else 3

/-- The shortest form of a character. -/
def Form.ofChar (character : Char) : Form where
  following := least character.toNat
  code := character.toNat
  following_le := by
    unfold least
    split_ifs <;> decide
  code_lt := by
    have := toNat_lt character
    unfold least
    split_ifs <;> simp only [leadRoom] <;> omega

theorem encode_eq (character : Char) : encode character = (Form.ofChar character).bytes := by
  unfold encode Form.bytes Form.lead Form.ofChar least
  dsimp only
  split_ifs <;> simp [continuations, leadMark]

theorem length_encode (character : Char) :
    (encode character).length = least character.toNat + 1 := by
  rw [encode_eq, Form.length_bytes]
  rfl

theorem Form.least_le (form : Form) : least form.code ≤ form.following := by
  have few := form.following_le
  have bounded := form.code_lt
  generalize form.following = following at few bounded
  unfold least
  interval_cases following <;> simp only [leadRoom] at bounded <;> split_ifs <;> omega

/-- The smallest number that needs so many continuation bytes. -/
def leastCode : Nat → Nat
  | 0 => 0
  | 1 => 0x80
  | 2 => 0x800
  | _ => 0x10000

theorem Form.least_eq_iff (form : Form) :
    least form.code = form.following ↔ leastCode form.following ≤ form.code := by
  have few := form.following_le
  have bounded := form.code_lt
  generalize form.following = following at few bounded ⊢
  unfold least
  interval_cases following <;> simp only [leadRoom, leastCode] at bounded ⊢ <;>
    split_ifs <;> simp <;> omega

end Utf8

end Rtos
