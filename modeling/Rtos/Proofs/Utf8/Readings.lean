import Mathlib.Data.List.TakeWhile
import Rtos.Proofs.Utf8.Decoding

/-!
# Readings

Every byte sequence is read as characters one after the other, each from some bytes of its
own: from a form, from a form that is cut off, or from a single byte with which no form
begins. What is proved of each of these is proved of whole sequences by `reading_induction`.
-/

namespace Rtos

namespace Utf8

/-- The bytes from which one character is read, the bytes after them, and the character. -/
inductive Reads : Bytes → Bytes → Char → Prop where
  | form (form : Form) (rest : Bytes) :
      Reads form.bytes rest (scalarOrReplacement form.code)
  | cut (following : Nat) (first : UInt8) (read rest : Bytes) (few : following ≤ 3)
      (lead : IsLead following first) (all : ∀ byte ∈ read, isContinuation byte)
      (short : read.length < following) (stops : ∀ byte ∈ rest.head?, ¬isContinuation byte) :
      Reads (first :: read) rest replacement
  | stray (first : UInt8) (rest : Bytes) (stray : ∀ count ≤ 3, ¬IsLead count first) :
      Reads [first] rest replacement

variable {taken rest bytes : Bytes} {character : Char}

theorem Reads.finishCharacter_eq (reads : Reads taken rest character) :
    finishCharacter {} (taken ++ rest) = (character, rest) := by
  cases reads with
  | form form rest => exact finishCharacter_form form rest
  | cut following first read rest few lead all short stops =>
      cases following with
      | zero => cases short
      | succ left =>
          have started : Decoder.step {} first =
              ⟨.left (left + 1), UInt32.ofNat (first.toNat - leadMark (left + 1))⟩ :=
            Decoder.step_lead few lead
          have incomplete : (Decoder.step {} first).state = .left (left + 1) := by rw [started]
          rw [List.cons_append, finishCharacter_of_left incomplete, started]
          exact finishCharacter_cut few all (Nat.le_of_lt_succ short) stops
  | stray first rest stray =>
      have failed : (Decoder.step {} first).state = .failed := by
        rw [Decoder.step_stray stray]
      rw [List.singleton_append, finishCharacter_of_failed failed]
      rfl

theorem Reads.ne_nil (reads : Reads taken rest character) : taken ≠ [] := by
  cases reads with
  | form form rest => exact List.cons_ne_nil _ _
  | cut following first read rest few lead all short stops => exact List.cons_ne_nil _ _
  | stray first rest stray => exact List.cons_ne_nil _ _

theorem exists_reads (first : UInt8) (others : Bytes) :
    ∃ taken rest character, first :: others = taken ++ rest ∧ Reads taken rest character := by
  by_cases leads : ∃ count ≤ 3, IsLead count first
  · rcases leads with ⟨count, few, lead⟩
    -- The character takes as many continuation bytes as it asks for, or as there are.
    rcases Nat.lt_or_ge (others.takeWhile isContinuation).length count with short | enough
    · refine ⟨first :: others.takeWhile isContinuation, others.dropWhile isContinuation,
        replacement, ?_, .cut count first _ _ few lead ?_ short ?_⟩
      · rw [List.cons_append, List.takeWhile_append_dropWhile]
      · intro byte present
        exact List.mem_takeWhile_imp present
      · intro byte starts continues
        have ends := List.head?_dropWhile_not isContinuation others
        rw [Option.mem_def] at starts
        simp [starts, continues] at ends
    · have length : ((others.takeWhile isContinuation).take count).length = count := by
        rw [List.length_take, Nat.min_eq_left enough]
      have all : ∀ byte ∈ (others.takeWhile isContinuation).take count,
          isContinuation byte := by
        intro byte present
        exact List.mem_takeWhile_imp (List.mem_of_mem_take present)
      rw [← length] at few lead
      rcases exists_form few lead all with ⟨form, _, same⟩
      refine ⟨form.bytes, (others.takeWhile isContinuation).drop count ++
        others.dropWhile isContinuation, scalarOrReplacement form.code, ?_, .form form _⟩
      rw [same, List.cons_append, ← List.append_assoc, List.take_append_drop,
        List.takeWhile_append_dropWhile]
  · refine ⟨[first], others, replacement, rfl, .stray first others ?_⟩
    intro count few lead
    exact leads ⟨count, few, lead⟩

/-- The characters that are read from a sequence, each with the bytes that it is read from. -/
def readings : Bytes → List (Char × Bytes)
  | [] => []
  | first :: rest =>
      let read := finishCharacter {} (first :: rest)
      (read.1, (first :: rest).take ((first :: rest).length - read.2.length)) :: readings read.2
termination_by bytes => bytes.length
decreasing_by exact finishCharacter_length_lt {} rfl first rest

theorem Reads.readings_eq (reads : Reads taken rest character) :
    readings (taken ++ rest) = (character, taken) :: readings rest := by
  have read := reads.finishCharacter_eq
  rcases List.exists_cons_of_ne_nil reads.ne_nil with ⟨first, others, rfl⟩
  rw [List.cons_append] at read ⊢
  rw [readings, read]
  have length : (first :: (others ++ rest)).length - rest.length = (first :: others).length := by
    simp only [List.length_cons, List.length_append]
    omega
  simp only [length]
  rw [← List.cons_append, List.take_left]

theorem Reads.characters_eq (reads : Reads taken rest character) :
    characters (taken ++ rest) = character :: characters rest := by
  have read := reads.finishCharacter_eq
  rcases List.exists_cons_of_ne_nil reads.ne_nil with ⟨first, others, rfl⟩
  rw [List.cons_append] at read ⊢
  rw [characters, read]

@[elab_as_elim]
theorem reading_induction {motive : Bytes → Prop} (nil : motive [])
    (reads : ∀ taken rest character, Reads taken rest character → motive rest →
      motive (taken ++ rest)) (bytes : Bytes) : motive bytes := by
  induction size : bytes.length using Nat.strongRecOn generalizing bytes with
  | ind size' ih =>
      cases bytes with
      | nil => exact nil
      | cons first others =>
          rcases exists_reads first others with ⟨taken, rest, character, split, read⟩
          rw [split]
          have shorter : rest.length < size' := by
            have pos := List.length_pos_iff.mpr read.ne_nil
            rw [← size, split, List.length_append]
            omega
          exact reads taken rest character read (ih rest.length shorter rest rfl)

theorem map_fst_readings (bytes : Bytes) : (readings bytes).map Prod.fst = characters bytes := by
  refine reading_induction ?nil ?reads bytes
  case nil => rw [readings, characters, List.map_nil]
  case reads =>
    intro taken rest character reads ih
    rw [reads.readings_eq, reads.characters_eq, List.map_cons, ih]

/-- The readings of a sequence take all of its bytes, one after the other. -/
theorem flatMap_snd_readings (bytes : Bytes) : (readings bytes).flatMap Prod.snd = bytes := by
  refine reading_induction ?nil ?reads bytes
  case nil => rw [readings, List.flatMap_nil]
  case reads =>
    intro taken rest character reads ih
    rw [reads.readings_eq, List.flatMap_cons, ih]

theorem exists_reads_of_mem_readings {reading : Char × Bytes}
    (present : reading ∈ readings bytes) :
    ∃ rest, Reads reading.2 rest reading.1 := by
  revert present
  refine reading_induction ?nil ?reads bytes
  case nil =>
    intro present
    rw [readings] at present
    cases present
  case reads =>
    intro taken rest character reads ih present
    rw [reads.readings_eq] at present
    rcases List.mem_cons.mp present with rfl | later
    · exact ⟨rest, reads⟩
    · exact ih later

end Utf8

end Rtos
