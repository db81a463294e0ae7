import Rtos.Proofs.Utf8.RoundTrip

/-!
# Overlong forms

The reader of characters judges a form by its number alone, and so it takes forms that are
longer than they need to be, which the strict reader refuses. These are all that the two
disagree about: whatever else is malformed is read as a replacement character.
-/

namespace Rtos

namespace Utf8

/-- Whether the bytes are a form of the character that is longer than its encoding. -/
def IsOverlong (character : Char) (bytes : Bytes) : Prop :=
  ∃ form : Form, form.bytes = bytes ∧ form.code = character.toNat ∧
    (encode character).length < bytes.length

variable {taken rest bytes : Bytes} {character : Char}

theorem Reads.encode_or_overlong (reads : Reads taken rest character)
    (genuine : character ≠ replacement) :
    taken = encode character ∨ IsOverlong character taken := by
  cases reads with
  | form form rest =>
      have valid : form.code.isValidChar := by
        by_contra invalid
        exact genuine (scalarOrReplacement_of_not_valid invalid)
      have code := toNat_scalarOrReplacement valid
      rcases Nat.eq_or_lt_of_le form.least_le with shortest | longer
      · exact .inl (Form.IsStrict.bytes_eq ⟨shortest, valid⟩)
      · right
        refine ⟨form, rfl, code.symm, ?_⟩
        rw [length_encode, Form.length_bytes, code]
        exact Nat.succ_lt_succ longer
  | cut following first read rest few lead all short stops => exact absurd rfl genuine
  | stray first rest stray => exact absurd rfl genuine

theorem IsOverlong.reads (overlong : IsOverlong character bytes) (rest : Bytes) :
    Reads bytes rest character := by
  rcases overlong with ⟨form, rfl, code, longer⟩
  have reads := Reads.form form rest
  rwa [code, scalarOrReplacement_toNat] at reads

theorem readings_encodeAll (list : List Char) :
    readings (encodeAll list) = list.map fun character => (character, encode character) := by
  induction list with
  | nil => rw [encodeAll, List.flatMap_nil, readings, List.map_nil]
  | cons character list ih =>
      rw [encodeAll_cons, (reads_encode character _).readings_eq, ih, List.map_cons]

/-- A sequence is well-formed exactly if every character is read from its encoding. -/
theorem isWellFormed_iff_readings (bytes : Bytes) :
    isWellFormed bytes ↔ ∀ reading ∈ readings bytes, reading.2 = encode reading.1 := by
  rw [isWellFormed_iff]
  constructor
  · rintro ⟨list, rfl⟩ reading present
    rw [readings_encodeAll] at present
    rcases List.mem_map.mp present with ⟨character, _, rfl⟩
    rfl
  · intro own
    refine ⟨characters bytes, ?_⟩
    calc bytes
        = (readings bytes).flatMap Prod.snd := (flatMap_snd_readings bytes).symm
      _ = (readings bytes).flatMap fun reading => encode reading.1 := List.flatMap_congr own
      _ = ((readings bytes).map Prod.fst).flatMap encode := (List.flatMap_map _ _ _).symm
      _ = encodeAll (characters bytes) := by rw [map_fst_readings, encodeAll]

theorem IsOverlong.isWellFormed_append (overlong : IsOverlong character taken) (rest : Bytes) :
    isWellFormed (taken ++ rest) = false := by
  apply eq_false_of_ne_true
  intro wellFormed
  rw [isWellFormed_iff_readings, (overlong.reads rest).readings_eq, List.forall_mem_cons]
    at wellFormed
  have own : taken = encode character := wellFormed.1
  rcases overlong with ⟨form, _, _, longer⟩
  exact Nat.lt_irrefl _ (own ▸ longer)

/-- Malformed bytes are read as replacement characters, unless they are overlong forms: these
are read as the characters that they are forms of, although they are not well-formed. -/
theorem encode_or_overlong_of_mem_readings (bytes : Bytes) :
    (∀ reading ∈ readings bytes, reading.1 ≠ replacement →
      reading.2 = encode reading.1 ∨ IsOverlong reading.1 reading.2) ∧
      (isWellFormed bytes = false →
        replacement ∈ characters bytes ∨
          ∃ reading ∈ readings bytes, IsOverlong reading.1 reading.2) ∧
      ∀ character overlong, IsOverlong character overlong →
        readings (overlong ++ bytes) = (character, overlong) :: readings bytes ∧
          isWellFormed (overlong ++ bytes) = false := by
  have genuine : ∀ reading ∈ readings bytes, reading.1 ≠ replacement →
      reading.2 = encode reading.1 ∨ IsOverlong reading.1 reading.2 := by
    intro reading present
    rcases exists_reads_of_mem_readings present with ⟨rest, reads⟩
    exact reads.encode_or_overlong
  refine ⟨genuine, ?_, ?_⟩
  · intro malformed
    by_contra neither
    rw [not_or] at neither
    rcases neither with ⟨noReplacement, noOverlong⟩
    have wellFormed : isWellFormed bytes := by
      rw [isWellFormed_iff_readings]
      intro reading present
      have other : reading.1 ≠ replacement := by
        intro same
        apply noReplacement
        rw [← map_fst_readings, ← same]
        exact List.mem_map_of_mem present
      rcases genuine reading present other with own | overlong
      · exact own
      · exact absurd ⟨reading, present, overlong⟩ noOverlong
    rw [malformed] at wellFormed
    cases wellFormed
  · intro character overlong longer
    exact ⟨(longer.reads bytes).readings_eq, longer.isWellFormed_append bytes⟩

/-- Two bytes for U+0000 are read as that character, although its encoding is one byte; and
although they are not well-formed, no replacement character is read from them. -/
theorem not_encode_of_nul :
    (¬∀ bytes, ∀ reading ∈ readings bytes, reading.1 ≠ replacement →
      reading.2 = encode reading.1) ∧
      ¬∀ bytes, isWellFormed bytes = false → replacement ∈ characters bytes := by
  have overlong : IsOverlong '\x00' [0xC0, 0x80] :=
    ⟨⟨1, 0, by decide, by decide⟩, by decide, by decide, by decide⟩
  have read := (overlong.reads []).readings_eq
  rw [List.append_nil] at read
  constructor
  · intro shortest
    have same := shortest [0xC0, 0x80] ('\x00', [0xC0, 0x80]) (read ▸ List.mem_cons_self)
      (by decide)
    exact absurd same (by decide)
  · intro replaced
    have present := replaced [0xC0, 0x80] (overlong.isWellFormed_append [])
    rw [← map_fst_readings, read, readings] at present
    exact absurd present (by decide)

end Utf8

end Rtos
