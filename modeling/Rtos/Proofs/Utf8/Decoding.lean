import Rtos.Proofs.Utf8.Forms
import Rtos.Utf8.Characters

/-!
# Decoding forms

The decoder takes a form apart byte by byte. Between two bytes it holds the bits read so far
and knows how many continuation bytes are left; these stages do not depend on what it held
before the form. A character that is cut off ends where its continuation bytes do.
-/

namespace Rtos

namespace Utf8

/-- The state of a decoder that waits for so many continuation bytes. -/
def State.left : Nat → State
  | 0 => .ready
  | 1 => .oneLeft
  | 2 => .twoLeft
  | _ => .threeLeft

theorem State.left_ne_failed (count : Nat) : State.left count ≠ .failed := by
  intro same
  rcases count with _ | _ | _ | count <;> cases same

theorem State.left_ne_ready (count : Nat) : State.left (count + 1) ≠ .ready := by
  intro same
  rcases count with _ | _ | count <;> cases same

namespace Decoder

/-- The decoder when so many bytes of a form of the number are left. -/
def stage (code left : Nat) : Decoder :=
  ⟨.left left, UInt32.ofNat (code / 64 ^ left)⟩

/-- The decoders from that stage on until the form is complete. -/
def stages (code : Nat) : Nat → List Decoder
  | 0 => [stage code 0]
  | left + 1 => stage code (left + 1) :: stages code left

variable {count code : Nat} {accumulator : UInt32} {first byte : UInt8}

theorem toUInt32_eq (byte : UInt8) : byte.toUInt32 = UInt32.ofNat byte.toNat :=
  (UInt32.ofNat_uInt8ToNat byte).symm

theorem step_lead (few : count ≤ 3) (lead : IsLead count first) :
    step ⟨.ready, accumulator⟩ first =
      ⟨.left count, UInt32.ofNat (first.toNat - leadMark count)⟩ := by
  simp only [IsLead] at lead
  simp only [step, start, UInt8.lt_iff_toNat_lt, toUInt32_eq, UInt8.toNat_mod,
    UInt8.reduceToNat]
  interval_cases count <;> simp only [leadMark, leadRoom] at lead ⊢
  · rw [if_pos (by omega)]
    rfl
  · have bits : first.toNat % 32 = first.toNat - 0xC0 := by omega
    rw [if_neg (by omega), if_neg (by omega), if_pos (by omega), bits]
    rfl
  · have bits : first.toNat % 16 = first.toNat - 0xE0 := by omega
    rw [if_neg (by omega), if_neg (by omega), if_neg (by omega), if_pos (by omega), bits]
    rfl
  · have bits : first.toNat % 8 = first.toNat - 0xF0 := by omega
    rw [if_neg (by omega), if_neg (by omega), if_neg (by omega), if_neg (by omega),
      if_pos (by omega), bits]
    rfl

theorem step_stray (stray : ∀ count ≤ 3, ¬IsLead count first) :
    step ⟨.ready, accumulator⟩ first = ⟨.failed, accumulator⟩ := by
  have beyond := first.toNat_lt
  have ends := stray 0 (by decide)
  have two := stray 1 (by decide)
  have three := stray 2 (by decide)
  have four := stray 3 (by decide)
  simp only [IsLead, leadMark, leadRoom] at ends two three four
  simp only [step, start, UInt8.lt_iff_toNat_lt, UInt8.reduceToNat, fail]
  split_ifs <;> first | rfl | omega

theorem step_left (few : count < 3) :
    step ⟨.left (count + 1), accumulator⟩ byte =
      extend ⟨.left (count + 1), accumulator⟩ (.left count) byte := by
  interval_cases count <;> rfl

theorem step_stage (few : count < 3) :
    (stage code (count + 1)).step (continuation (code / 64 ^ count)) = stage code count := by
  rw [stage, step_left few, extend, if_pos (isContinuation_continuation _), stage]
  congr 1
  have bits : (continuation (code / 64 ^ count) % 64).toUInt32 =
      UInt32.ofNat ((0x80 + code / 64 ^ count % 64) % 64) := by
    rw [toUInt32_eq, UInt8.toNat_mod, toNat_continuation]
    rfl
  rw [bits]
  conv_rhs => rw [← add_next_bits, UInt32.ofNat_add, UInt32.ofNat_mul]
  rfl

/-- The first byte of a form leads to its first stage, whatever the decoder held before. -/
theorem step_form (form : Form) (accumulator : UInt32) :
    step ⟨.ready, accumulator⟩ form.lead = stage form.code form.following := by
  rw [step_lead form.following_le form.isLead, form.toNat_lead, Nat.add_sub_cancel_left]
  rfl

theorem trace_continuations (few : count ≤ 3) :
    stage code count :: (stage code count).trace (continuations count code) =
      stages code count := by
  induction count with
  | zero => rfl
  | succ count ih =>
      rw [continuations, trace, step_stage few, ih (Nat.le_of_succ_le few), stages]

theorem trace_form (form : Form) (accumulator : UInt32) :
    trace ⟨.ready, accumulator⟩ form.bytes = stages form.code form.following := by
  rw [Form.bytes, trace, step_form, trace_continuations form.following_le]

theorem trace_append (decoder : Decoder) (bytes rest : Bytes) :
    decoder.trace (bytes ++ rest) = decoder.trace bytes ++ (decoder.run bytes).trace rest := by
  induction bytes generalizing decoder with
  | nil => rfl
  | cons byte bytes ih =>
      rw [List.cons_append, trace, ih, trace, List.cons_append]
      rfl

theorem run_append (decoder : Decoder) (bytes rest : Bytes) :
    decoder.run (bytes ++ rest) = (decoder.run bytes).run rest :=
  List.foldl_append

theorem run_continuations (few : count ≤ 3) :
    (stage code count).run (continuations count code) = stage code 0 := by
  induction count with
  | zero => rfl
  | succ count ih =>
      rw [continuations, run, List.foldl_cons, step_stage few]
      exact ih (Nat.le_of_succ_le few)

theorem run_form (form : Form) (accumulator : UInt32) :
    run ⟨.ready, accumulator⟩ form.bytes = stage form.code 0 := by
  rw [Form.bytes, run, List.foldl_cons, step_form]
  exact run_continuations form.following_le

theorem state_ne_failed_of_mem_stages {decoder : Decoder}
    (present : decoder ∈ stages code count) :
    decoder.state ≠ .failed := by
  induction count with
  | zero =>
      rw [List.mem_singleton.mp present]
      nofun
  | succ count ih =>
      rcases List.mem_cons.mp present with rfl | later
      · exact State.left_ne_failed _
      · exact ih later

/-- Only at the last of its stages is a form complete. -/
theorem filter_ready_stages (code count : Nat) :
    (stages code count).filter (·.state = .ready) = [stage code 0] := by
  induction count with
  | zero => rfl
  | succ count ih =>
      have waits : decide ((stage code (count + 1)).state = .ready) = false :=
        decide_eq_false (State.left_ne_ready count)
      rw [stages, List.filter_cons, waits, if_neg nofun, ih]

theorem toNat_accumulator_stage_zero (form : Form) :
    (stage form.code 0).accumulator.toNat = form.code := by
  have bounded := form.code_lt_pow
  simp only [stage, Nat.pow_zero, Nat.div_one, UInt32.toNat_ofNat']
  omega

end Decoder

/-! ## Characters -/

variable {decoder : Decoder} {byte : UInt8} {rest : Bytes}

theorem finishCharacter_of_ready (complete : (decoder.step byte).state = .ready) :
    finishCharacter decoder (byte :: rest) =
      (scalarOrReplacement (decoder.step byte).accumulator.toNat, rest) := by
  simp only [finishCharacter, complete]

theorem finishCharacter_of_failed (failed : (decoder.step byte).state = .failed) :
    finishCharacter decoder (byte :: rest) =
      (replacement, if decoder.state = .ready then rest else byte :: rest) := by
  simp only [finishCharacter, failed]

theorem finishCharacter_of_left {left : Nat}
    (incomplete : (decoder.step byte).state = .left (left + 1)) :
    finishCharacter decoder (byte :: rest) = finishCharacter (decoder.step byte) rest := by
  have unfinished := State.left_ne_ready left
  have unfailed := State.left_ne_failed (left + 1)
  rw [← incomplete] at unfinished unfailed
  rw [finishCharacter]
  split
  · contradiction
  · contradiction
  · rfl

theorem finishCharacter_continuations {code left : Nat} (few : left < 3) (rest : Bytes) :
    finishCharacter (.stage code (left + 1)) (continuations (left + 1) code ++ rest) =
      (scalarOrReplacement (Decoder.stage code 0).accumulator.toNat, rest) := by
  induction left with
  | zero =>
      rw [continuations, List.cons_append, finishCharacter_of_ready]
      · rw [Decoder.step_stage few]
        rfl
      · rw [Decoder.step_stage few]
        rfl
  | succ left ih =>
      have next : (Decoder.stage code (left + 2)).step (continuation (code / 64 ^ (left + 1))) =
          .stage code (left + 1) := Decoder.step_stage few
      have incomplete : ((Decoder.stage code (left + 2)).step
          (continuation (code / 64 ^ (left + 1)))).state = .left (left + 1) := by
        rw [next]
        rfl
      rw [continuations, List.cons_append, finishCharacter_of_left incomplete, next]
      exact ih (Nat.lt_of_succ_lt few)

/-- A form is read as the character with its number, if there is one. -/
theorem finishCharacter_form (form : Form) (rest : Bytes) :
    finishCharacter {} (form.bytes ++ rest) = (scalarOrReplacement form.code, rest) := by
  have started := Decoder.step_form form 0
  rw [← Decoder.toNat_accumulator_stage_zero form, Form.bytes, List.cons_append]
  cases following : form.following with
  | zero =>
      rw [following] at started
      rw [finishCharacter_of_ready]
      · rw [started]
        rfl
      · rw [started]
        rfl
  | succ left =>
      have few := form.following_le
      rw [following] at started few
      have incomplete : (Decoder.step {} form.lead).state = .left (left + 1) := by
        rw [started]
        rfl
      rw [finishCharacter_of_left incomplete, started]
      exact finishCharacter_continuations few rest

/-- A character is cut off where its continuation bytes end too early. -/
theorem finishCharacter_cut {left : Nat} {accumulator : UInt32} (few : left < 3) {read : Bytes}
    (all : ∀ byte ∈ read, isContinuation byte) (short : read.length ≤ left)
    (stops : ∀ byte ∈ rest.head?, ¬isContinuation byte) :
    finishCharacter ⟨.left (left + 1), accumulator⟩ (read ++ rest) = (replacement, rest) := by
  induction read generalizing left accumulator with
  | nil =>
      cases rest with
      | nil => rfl
      | cons byte rest =>
          have broken : Decoder.step ⟨.left (left + 1), accumulator⟩ byte =
              ⟨.failed, accumulator⟩ := by
            rw [Decoder.step_left few, Decoder.extend, if_neg (stops byte rfl), Decoder.fail]
          rw [List.nil_append, finishCharacter_of_failed, if_neg (State.left_ne_ready left)]
          rw [broken]
  | cons byte read ih =>
      cases left with
      | zero => cases short
      | succ left =>
          have next : Decoder.step ⟨.left (left + 2), accumulator⟩ byte =
              ⟨.left (left + 1), accumulator * 64 + (byte % 64).toUInt32⟩ := by
            rw [Decoder.step_left few, Decoder.extend, if_pos (all byte List.mem_cons_self)]
          have incomplete : (Decoder.step ⟨.left (left + 2), accumulator⟩ byte).state =
              .left (left + 1) := by rw [next]
          rw [List.cons_append, finishCharacter_of_left incomplete, next]
          apply ih (Nat.lt_of_succ_lt few)
          · intro other present
            exact all other (List.mem_cons_of_mem byte present)
          · exact Nat.le_of_succ_le_succ short

end Utf8

end Rtos
