import Rtos.Proofs.Utf8.Readings

/-!
# Segments

The bytes that one character is read from, in terms of the bytes alone: a first byte with
all the continuation bytes that it asks for, a first byte with too few of them, or a stray
byte. Every sequence is parted into such segments in exactly one way, and its characters
are those of its segments.

A segment that is cut off ends before the first byte that does not continue it. So what is
malformed takes no byte from what begins behind it: the characters of two sequences in a
row are those of the first and those of the second, if the second does not begin in the
middle of a character.
-/

namespace Rtos

namespace Utf8

/-- The payload bits of a first byte and of the continuation bytes after it as one number.
A first byte has as many of them as its room needs, and a continuation byte has six. -/
def payload (following : Nat) (lead : UInt8) (more : Bytes) : Nat :=
  more.foldl (fun value byte => value * 64 + byte.toNat % 64) (lead.toNat % leadRoom following)

/-- A number that is a surrogate or too large stands for the replacement character, and any
other for the character of that number. -/
def Denotes (value : Nat) (character : Char) : Prop :=
  if 0xD800 ≤ value ∧ value ≤ 0xDFFF ∨ 0x10FFFF < value then character = replacement
  else character.toNat = value

/-- The bytes of one character, what stands behind them, and the character. -/
inductive Segment : Bytes → Bytes → Char → Prop where
  /-- A first byte is followed by all the continuation bytes that it asks for. -/
  | whole (following : Nat) (lead : UInt8) (more after : Bytes) (character : Char)
      (few : following ≤ 3) (leads : IsLead following lead) (length : more.length = following)
      (all : ∀ byte ∈ more, isContinuation byte)
      (denotes : Denotes (payload following lead more) character) :
      Segment (lead :: more) after character
  /-- There are fewer of them, up to the end or to a byte that is none. -/
  | cut (following : Nat) (lead : UInt8) (more after : Bytes) (few : following ≤ 3)
      (leads : IsLead following lead) (short : more.length < following)
      (all : ∀ byte ∈ more, isContinuation byte)
      (stops : ∀ byte ∈ after.head?, ¬isContinuation byte) :
      Segment (lead :: more) after replacement
  /-- No character begins with the byte. -/
  | stray (byte : UInt8) (after : Bytes) (stray : isContinuation byte ∨ 0xF8 ≤ byte.toNat) :
      Segment [byte] after replacement

/-- A sequence parted into segments, each with its character. -/
inductive Partition : Bytes → List (Char × Bytes) → Prop where
  | nil : Partition [] []
  | cons (taken after : Bytes) (character : Char) (segments : List (Char × Bytes))
      (segment : Segment taken after character) (behind : Partition after segments) :
      Partition (taken ++ after) ((character, taken) :: segments)

/-! ## Segments and readings -/

theorem denotes_iff (value : Nat) (character : Char) :
    Denotes value character ↔ character = scalarOrReplacement value := by
  unfold Denotes
  by_cases valid : value.isValidChar
  · have inside : ¬(0xD800 ≤ value ∧ value ≤ 0xDFFF ∨ 0x10FFFF < value) := by
      rcases valid with low | high <;> omega
    rw [if_neg inside]
    constructor
    · rintro rfl
      exact (scalarOrReplacement_toNat character).symm
    · rintro rfl
      exact toNat_scalarOrReplacement valid
  · have outside : 0xD800 ≤ value ∧ value ≤ 0xDFFF ∨ 0x10FFFF < value := by
      simp only [Nat.isValidChar] at valid
      omega
    rw [if_pos outside, scalarOrReplacement_of_not_valid valid]

theorem isStray_iff (byte : UInt8) :
    (isContinuation byte ∨ 0xF8 ≤ byte.toNat) ↔ ∀ count ≤ 3, ¬IsLead count byte := by
  have bound := byte.toNat_lt
  rw [isContinuation_iff]
  constructor
  · intro stray count few
    simp only [IsLead]
    interval_cases count <;> simp only [leadMark, leadRoom] <;> omega
  · intro stray
    have zero := stray 0 (by decide)
    have one := stray 1 (by decide)
    have two := stray 2 (by decide)
    have three := stray 3 (by decide)
    simp only [IsLead, leadMark, leadRoom] at zero one two three
    omega

theorem isContinuation_of_mem_continuations {count code : Nat} {byte : UInt8}
    (present : byte ∈ continuations count code) : isContinuation byte := by
  induction count with
  | zero => cases present
  | succ count ih =>
      rcases List.mem_cons.mp present with rfl | later
      · exact isContinuation_continuation _
      · exact ih later

theorem foldl_continuations (count code : Nat) :
    (continuations count code).foldl (fun value byte => value * 64 + byte.toNat % 64)
      (code / 64 ^ count) = code := by
  induction count with
  | zero => simp [continuations]
  | succ count ih =>
      rw [continuations, List.foldl_cons, toNat_continuation, add_next_bits]
      exact ih

/-- The payload of a form is the number that it is a form of. -/
theorem payload_form (form : Form) :
    payload form.following form.lead (continuations form.following form.code) = form.code := by
  have high := form.high_lt
  have bits : form.lead.toNat % leadRoom form.following = form.code / 64 ^ form.following := by
    have few := form.following_le
    rw [form.toNat_lead]
    generalize form.code / 64 ^ form.following = bits at high ⊢
    generalize form.following = following at few high ⊢
    interval_cases following <;> simp only [leadMark, leadRoom] at high ⊢ <;> omega
  rw [payload, bits, foldl_continuations]

variable {taken after bytes more : Bytes} {character : Char} {segments : List (Char × Bytes)}

theorem segment_iff_reads : Segment taken after character ↔ Reads taken after character := by
  constructor
  · intro segment
    cases segment with
    | whole following lead more after character few leads length all denotes =>
        subst length
        rcases exists_form few leads all with ⟨form, following, same⟩
        have parts := List.cons.inj same
        have value := payload_form form
        rw [parts.1, parts.2, following] at value
        rw [denotes_iff, value] at denotes
        rw [← same, denotes]
        exact .form form after
    | cut following lead more after few leads short all stops =>
        exact .cut following lead more after few leads all short stops
    | stray byte after stray => exact .stray byte after ((isStray_iff byte).mp stray)
  · intro reads
    cases reads with
    | form form after =>
        apply Segment.whole form.following form.lead _ _ _ form.following_le form.isLead
        · exact length_continuations _ _
        · intro byte present
          exact isContinuation_of_mem_continuations present
        · rw [denotes_iff, payload_form]
    | cut following first read after few lead all short stops =>
        exact .cut following first read _ few lead short all stops
    | stray first after stray => exact .stray first _ ((isStray_iff first).mpr stray)

theorem Segment.length_bounds (segment : Segment taken after character) :
    1 ≤ taken.length ∧ taken.length ≤ 4 := by
  cases segment with
  | whole following lead more after character few leads length all denotes =>
      simp only [List.length_cons]
      omega
  | cut following lead more after few leads short all stops =>
      simp only [List.length_cons]
      omega
  | stray byte after stray => simp

/-- A segment takes nothing from bytes that do not begin in the middle of a character. -/
theorem Segment.append (segment : Segment taken after character)
    (starts : ∀ byte ∈ more.head?, ¬isContinuation byte) :
    Segment taken (after ++ more) character := by
  cases segment with
  | whole following lead rest after character few leads length all denotes =>
      exact .whole following lead rest _ character few leads length all denotes
  | cut following lead rest after few leads short all stops =>
      refine .cut following lead rest _ few leads short all ?_
      cases after with
      | nil => exact starts
      | cons first others => exact stops
  | stray byte after stray => exact .stray byte _ stray

/-! ## Partitions -/

theorem partition_readings (bytes : Bytes) : Partition bytes (readings bytes) := by
  refine reading_induction ?nil ?reads bytes
  case nil =>
    rw [readings]
    exact .nil
  case reads =>
    intro taken rest character reads ih
    rw [reads.readings_eq]
    exact .cons taken rest character _ (segment_iff_reads.mpr reads) ih

theorem Partition.eq_readings (partition : Partition bytes segments) :
    segments = readings bytes := by
  induction partition with
  | nil => rw [readings]
  | cons taken after character segments segment behind ih =>
      rw [(segment_iff_reads.mp segment).readings_eq, ih]

theorem Partition.length_bounds (partition : Partition bytes segments) :
    ∀ segment ∈ segments, 1 ≤ segment.2.length ∧ segment.2.length ≤ 4 := by
  induction partition with
  | nil => simp
  | cons taken after character segments segment behind ih =>
      intro other present
      rcases List.mem_cons.mp present with rfl | later
      · exact segment.length_bounds
      · exact ih other later

theorem Partition.append {others : List (Char × Bytes)} (partition : Partition bytes segments)
    (starts : ∀ byte ∈ more.head?, ¬isContinuation byte) (behind : Partition more others) :
    Partition (bytes ++ more) (segments ++ others) := by
  induction partition with
  | nil => exact behind
  | cons taken after character segments segment rest ih =>
      rw [List.append_assoc]
      exact .cons taken _ character _ (segment.append starts) ih

/-- Bytes that do not begin in the middle of a character are read as if nothing stood before. -/
theorem readings_append (bytes : Bytes) (starts : ∀ byte ∈ more.head?, ¬isContinuation byte) :
    readings (bytes ++ more) = readings bytes ++ readings more :=
  ((partition_readings bytes).append starts (partition_readings more)).eq_readings.symm

/--
The characters of a sequence are those of the one way to part it into segments. Nothing is
left out or taken twice, and a segment has one to four bytes. The characters of two
sequences in a row are those of the first and those of the second, unless the second begins
with a continuation byte.
-/
theorem characters_partition (bytes : Bytes) :
    ∃ segments, (∀ others, Partition bytes others ↔ others = segments) ∧
      segments.flatMap Prod.snd = bytes ∧
      (∀ segment ∈ segments, 1 ≤ segment.2.length ∧ segment.2.length ≤ 4) ∧
      characters bytes = segments.map Prod.fst ∧
      ∀ more : Bytes, (∀ byte ∈ more.head?, ¬isContinuation byte) →
        characters (bytes ++ more) = characters bytes ++ characters more ∧
          length (bytes ++ more) = length bytes + length more := by
  refine ⟨readings bytes, ?_, flatMap_snd_readings bytes, ?_, (map_fst_readings bytes).symm, ?_⟩
  · intro others
    constructor
    · exact fun partition => partition.eq_readings
    · rintro rfl
      exact partition_readings bytes
  · exact (partition_readings bytes).length_bounds
  · intro more starts
    have split : characters (bytes ++ more) = characters bytes ++ characters more := by
      rw [← map_fst_readings, readings_append bytes starts, List.map_append, map_fst_readings,
        map_fst_readings]
    refine ⟨split, ?_⟩
    rw [length, split, List.length_append, length, length]

/-- A character of three bytes that lacks its last one does not swallow the letter behind it. -/
theorem characters_partition_truncated :
    (∀ byte ∈ ([0x41] : Bytes).head?, ¬isContinuation byte) ∧
      characters ([0xE3, 0x82] ++ [0x41]) = [replacement, 'A'] ∧
      length ([0xE3, 0x82] ++ [0x41]) = 2 := by
  have starts : ∀ byte ∈ ([0x41] : Bytes).head?, ¬isContinuation byte := by
    rintro byte ⟨⟩
    decide
  have truncated : Segment [0xE3, 0x82] [] replacement := by
    apply Segment.cut 2 0xE3 [0x82] [] (by decide) ⟨by decide, by decide⟩ (by decide)
    · exact List.forall_mem_singleton.mpr (by decide)
    · simp
  have letter : Segment [0x41] [] 'A' := by
    apply Segment.whole 0 0x41 [] [] 'A' (by decide) ⟨by decide, by decide⟩ rfl
    · simp
    · exact (denotes_iff _ _).mpr rfl
  have first := (segment_iff_reads.mp truncated).characters_eq
  have second := (segment_iff_reads.mp letter).characters_eq
  rw [List.append_nil, characters] at first second
  rcases characters_partition [0xE3, 0x82] with ⟨_, _, _, _, _, joined⟩
  rcases joined [0x41] starts with ⟨split, sizes⟩
  refine ⟨starts, ?_, ?_⟩
  · rw [split, first, second]
    rfl
  · rw [sizes, length, length, first, second]
    rfl

end Utf8

end Rtos
