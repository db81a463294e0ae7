import Rtos.Proofs.Utf8.Decoding

/-!
# Bits of the accumulator

How many bits a decoder has collected is told by its state: three after the first byte of the
longest form, and six more with every continuation byte. So the accumulator, which has room for
thirty-two, never loses one. What was collected for a character is gone with the first byte of
the next, and a decoder that has failed takes no further notice of its input.
-/

namespace Rtos

namespace Utf8

/-- The number of bits that a decoder in a state has collected at most. -/
def State.bits : State → Nat
  | ready => 21
  | oneLeft => 15
  | twoLeft => 9
  | threeLeft => 3
  | failed => 21

theorem State.bits_left {count : Nat} (few : count ≤ 3) :
    (State.left count).bits = 21 - 6 * count := by
  interval_cases count <;> rfl

theorem State.bits_le (state : State) : state.bits ≤ 21 := by
  cases state <;> decide

/-- Whether a decoder has read a part of a character. -/
def State.IsWaiting (state : State) : Prop :=
  state ≠ .ready ∧ state ≠ .failed

instance (state : State) : Decidable state.IsWaiting :=
  inferInstanceAs (Decidable (_ ∧ _))

theorem State.IsWaiting.exists_left {state : State} (waits : state.IsWaiting) :
    ∃ count < 3, state = .left (count + 1) := by
  cases state with
  | ready => exact absurd rfl waits.1
  | oneLeft => exact ⟨0, by decide, rfl⟩
  | twoLeft => exact ⟨1, by decide, rfl⟩
  | threeLeft => exact ⟨2, by decide, rfl⟩
  | failed => exact absurd rfl waits.2

namespace Decoder

/-- All that a byte can do to a decoder. -/
inductive Moves (decoder : Decoder) (byte : UInt8) : Decoder → Prop where
  | begins (count : Nat) (ready : decoder.state = .ready) (few : count ≤ 3)
      (lead : IsLead count byte) :
      Moves decoder byte ⟨.left count, UInt32.ofNat (byte.toNat - leadMark count)⟩
  | rejects (ready : decoder.state = .ready) (stray : ∀ count ≤ 3, ¬IsLead count byte) :
      Moves decoder byte decoder.fail
  | goesOn (count : Nat) (waits : decoder.state = .left (count + 1)) (few : count < 3)
      (continues : isContinuation byte) :
      Moves decoder byte ⟨.left count, decoder.accumulator * 64 + (byte % 64).toUInt32⟩
  | breaks (waits : decoder.state.IsWaiting) (cut : ¬isContinuation byte) :
      Moves decoder byte decoder.fail
  | stays (failed : decoder.state = .failed) : Moves decoder byte decoder

theorem step_of_continuation {decoder : Decoder} {byte : UInt8} {count : Nat}
    (waits : decoder.state = .left (count + 1)) (few : count < 3)
    (continues : isContinuation byte) :
    decoder.step byte = ⟨.left count, decoder.accumulator * 64 + (byte % 64).toUInt32⟩ := by
  rcases decoder with ⟨state, accumulator⟩
  change state = .left (count + 1) at waits
  subst waits
  rw [step_left few, extend, if_pos continues]

theorem moves (decoder : Decoder) (byte : UInt8) : decoder.Moves byte (decoder.step byte) := by
  rcases decoder with ⟨state, accumulator⟩
  -- the three states inside of a form are one case, with the count of what is left
  by_cases waits : state.IsWaiting
  · rcases waits.exists_left with ⟨count, few, rfl⟩
    by_cases continues : isContinuation byte
    · rw [step_of_continuation rfl few continues]
      exact .goesOn count rfl few continues
    · rw [step_left few, extend, if_neg continues]
      exact .breaks waits continues
  · by_cases ready : state = .ready
    · subst ready
      by_cases lead : ∃ count ≤ 3, IsLead count byte
      · rcases lead with ⟨count, few, lead⟩
        rw [step_lead few lead]
        exact .begins count rfl few lead
      · have stray : ∀ count ≤ 3, ¬IsLead count byte := by
          intro count few is
          exact lead ⟨count, few, is⟩
        rw [step_stray stray]
        exact .rejects rfl stray
    · have failed : state = .failed := by
        apply Decidable.byContradiction
        intro other
        exact waits ⟨ready, other⟩
      subst failed
      exact .stays rfl

/-- A decoder has collected no more bits than its state says. -/
def Bounded (decoder : Decoder) : Prop :=
  decoder.accumulator.toNat < 2 ^ decoder.state.bits

variable {decoder : Decoder}

theorem Bounded.fail (bounded : decoder.Bounded) : decoder.fail.Bounded := by
  apply Nat.lt_of_lt_of_le bounded
  exact Nat.pow_le_pow_right (by decide) decoder.state.bits_le

/-- Six more bits are added to those of the accumulator, and none of these is lost. -/
theorem Bounded.toNat_extended {count : Nat} (bounded : decoder.Bounded)
    (waits : decoder.state = .left (count + 1)) (few : count < 3) (byte : UInt8) :
    (decoder.accumulator * 64 + (byte % 64).toUInt32).toNat =
      decoder.accumulator.toNat * 64 + byte.toNat % 64 := by
  have small : decoder.accumulator.toNat < 2 ^ 15 := by
    apply Nat.lt_of_lt_of_le bounded
    rw [waits, State.bits_left few]
    exact Nat.pow_le_pow_right (by decide) (by omega)
  have low : (byte % 64).toUInt32.toNat = byte.toNat % 64 := by
    rw [UInt8.toNat_toUInt32, UInt8.toNat_mod]
    rfl
  rw [UInt32.toNat_add, UInt32.toNat_mul, low]
  simp only [UInt32.reduceToNat]
  omega

theorem Bounded.step (bounded : decoder.Bounded) (byte : UInt8) : (decoder.step byte).Bounded := by
  have moved := decoder.moves byte
  generalize decoder.step byte = next at moved ⊢
  cases moved with
  | begins count ready few lead =>
      rcases lead with ⟨_, below⟩
      simp only [Bounded, State.bits_left few, UInt32.toNat_ofNat']
      interval_cases count <;> simp only [leadMark, leadRoom] at below ⊢ <;> omega
  | rejects ready stray => exact bounded.fail
  | goesOn count waits few continues =>
      have extended := bounded.toNat_extended waits few byte
      have room : 2 ^ (21 - 6 * count) = 2 ^ (21 - 6 * (count + 1)) * 64 := by
        rw [← Nat.pow_add (n := 6)]
        congr 1
        omega
      rw [Bounded, waits, State.bits_left (show count + 1 ≤ 3 from few)] at bounded
      rw [Bounded, extended, State.bits_left (Nat.le_of_lt few), room]
      omega
  | breaks waits cut => exact bounded.fail
  | stays failed => exact bounded

theorem Bounded.run (bounded : decoder.Bounded) (bytes : Bytes) : (decoder.run bytes).Bounded := by
  induction bytes generalizing decoder with
  | nil => exact bounded
  | cons byte bytes ih => exact ih (bounded.step byte)

theorem run_of_failed (failed : decoder.state = .failed) (bytes : Bytes) :
    decoder.run bytes = decoder := by
  induction bytes with
  | nil => rfl
  | cons byte bytes ih =>
      have stays : decoder.step byte = decoder := by
        simp only [step, failed]
      change (decoder.step byte).run bytes = decoder
      rw [stays]
      exact ih

/-- The first byte of a character makes the same of all decoders that are ready for it. -/
theorem step_of_ready {other : Decoder} {byte : UInt8} (ready : decoder.state = .ready)
    (otherReady : other.state = .ready) (accepted : (decoder.step byte).state ≠ .failed) :
    decoder.step byte = other.step byte := by
  have moved := decoder.moves byte
  generalize decoder.step byte = next at moved accepted ⊢
  cases moved with
  | begins count _ few lead =>
      rcases other with ⟨state, accumulator⟩
      cases otherReady
      exact (step_lead few lead).symm
  | rejects _ stray => exact absurd rfl accepted
  | goesOn count waits few continues =>
      rw [ready] at waits
      exact absurd waits.symm (State.left_ne_ready count)
  | breaks waits cut => exact absurd ready waits.1
  | stays failed => exact absurd failed accepted

theorem step_of_rejected {byte : UInt8} (ready : decoder.state = .ready)
    (rejected : (decoder.step byte).state = .failed) : decoder.step byte = decoder.fail := by
  have moved := decoder.moves byte
  generalize decoder.step byte = next at moved rejected ⊢
  cases moved with
  | begins count _ few lead => exact absurd rejected (State.left_ne_failed count)
  | rejects _ stray => rfl
  | goesOn count waits few continues => exact absurd rejected (State.left_ne_failed count)
  | breaks waits cut => rfl
  | stays failed =>
      rw [ready] at failed
      contradiction

/--
A stream is decoded without the loss of a bit, whatever its bytes. After any of them the
accumulator keeps to the bound of the state, and a continuation byte adds its six bits to all
that were there. A decoder that has failed does not change any more; and one that is ready makes
of its further input what any other makes of it that is ready, unless it rejects the first byte.
-/
theorem run_keeps_bits (accumulator : UInt32) (bounded : accumulator.toNat < 2 ^ 21)
    (bytes : Bytes) :
    let decoder := run ⟨.ready, accumulator⟩ bytes
    decoder.accumulator.toNat < 2 ^ decoder.state.bits ∧
      (∀ byte, decoder.state.IsWaiting → isContinuation byte →
        (decoder.step byte).accumulator.toNat =
          decoder.accumulator.toNat * 64 + byte.toNat % 64) ∧
      (decoder.state = .failed → ∀ further, decoder.run further = decoder) ∧
      (decoder.state = .ready → ∀ byte rest,
        ((decoder.step byte).state ≠ .failed → ∀ other : Decoder, other.state = .ready →
          decoder.run (byte :: rest) = other.run (byte :: rest)) ∧
        ((decoder.step byte).state = .failed →
          decoder.run (byte :: rest) = ⟨.failed, decoder.accumulator⟩)) := by
  intro decoder
  have start : Bounded ⟨.ready, accumulator⟩ := bounded
  have within : decoder.Bounded := start.run bytes
  refine ⟨within, ?_, run_of_failed, ?_⟩
  · intro byte waits continues
    rcases waits.exists_left with ⟨count, few, left⟩
    rw [step_of_continuation left few continues]
    exact within.toNat_extended left few byte
  · intro ready byte rest
    constructor
    · intro accepted other otherReady
      change (decoder.step byte).run rest = (other.step byte).run rest
      rw [step_of_ready ready otherReady accepted]
    · intro rejected
      change (decoder.step byte).run rest = _
      rw [run_of_failed rejected, step_of_rejected ready rejected]
      rfl

/-- The largest number that there is a form of fills the bits of every state. -/
theorem run_keeps_bits_full :
    let decoder := run ⟨.ready, 0x1FFFFF⟩ [0xF7, 0xBF, 0xBF]
    let complete := run ⟨.ready, 0x1FFFFF⟩ [0xF7, 0xBF, 0xBF, 0xBF]
    (0x1FFFFF : UInt32).toNat < 2 ^ 21 ∧
      decoder.state = .oneLeft ∧ decoder.accumulator.toNat = 2 ^ 15 - 1 ∧
      (decoder.step 0xBF).accumulator.toNat = decoder.accumulator.toNat * 64 + 63 ∧
      complete.state = .ready ∧
      complete.run [0xC3, 0xA9] = run ⟨.ready, 0⟩ [0xC3, 0xA9] ∧
      complete.run [0x80, 0x41] = ⟨.failed, complete.accumulator⟩ := by
  intro decoder complete
  have small : (0x1FFFFF : UInt32).toNat < 2 ^ 21 := by decide
  rcases run_keeps_bits 0x1FFFFF small [0xF7, 0xBF, 0xBF] with ⟨_, extends', _, _⟩
  rcases run_keeps_bits 0x1FFFFF small [0xF7, 0xBF, 0xBF, 0xBF] with ⟨_, _, _, restarts⟩
  have ready : complete.state = .ready := by decide
  refine ⟨small, by decide, by decide, ?_, ready, ?_, ?_⟩
  · exact extends' 0xBF (by decide) (by decide)
  · exact (restarts ready 0xC3 [0xA9]).1 (by decide) ⟨.ready, 0⟩ rfl
  · exact (restarts ready 0x80 [0x41]).2 (by decide)

end Decoder

end Utf8

end Rtos
