import Rtos.Proofs.Utf8.Forms
import Rtos.Utf8.WellFormed

/-!
# Well-formed sequences

A sequence begins with a character exactly if it begins with the encoding of that character:
of all forms of a number the strict reader takes the shortest, and no form of a number that
is no character. So the well-formed sequences are the encodings of texts.
-/

namespace Rtos

namespace Utf8

/-- A form that is as short as it can be, of a number that is a character. -/
def Form.IsStrict (form : Form) : Prop :=
  least form.code = form.following ∧ form.code.isValidChar

theorem Form.isStrict_ofChar (character : Char) : (Form.ofChar character).IsStrict :=
  ⟨rfl, character.valid⟩

theorem Form.IsStrict.bytes_eq {form : Form} (strict : form.IsStrict) :
    form.bytes = encode (scalarOrReplacement form.code) := by
  rcases strict with ⟨shortest, valid⟩
  have code := toNat_scalarOrReplacement valid
  simp only [encode_eq, Form.bytes, Form.lead, Form.ofChar, code, shortest]

theorem le_and_le_eq_isContinuation (byte : UInt8) :
    (0x80 ≤ byte && byte ≤ 0xBF) = isContinuation byte := by
  rw [Bool.eq_iff_iff, isContinuation_iff]
  simp only [Bool.and_eq_true, decide_eq_true_eq, UInt8.le_iff_toNat_le, UInt8.reduceToNat]
  omega

/-! ## First and second bytes -/

/-- The bounds of a second byte, by the number that the first byte is. -/
inductive SecondByte (first : Nat) : Option (UInt8 × UInt8 × Nat) → Prop where
  | tooSmall (below : first < 0xC2) : SecondByte first none
  | one (above : 0xC2 ≤ first) (below : first < 0xE0) : SecondByte first (some (0x80, 0xBF, 0))
  | overlongTwo (only : first = 0xE0) : SecondByte first (some (0xA0, 0xBF, 1))
  | surrogate (only : first = 0xED) : SecondByte first (some (0x80, 0x9F, 1))
  | two (above : 0xE0 < first) (below : first < 0xF0) (other : first ≠ 0xED) :
      SecondByte first (some (0x80, 0xBF, 1))
  | overlongThree (only : first = 0xF0) : SecondByte first (some (0x90, 0xBF, 2))
  | three (above : 0xF0 < first) (below : first < 0xF4) :
      SecondByte first (some (0x80, 0xBF, 2))
  | last (only : first = 0xF4) : SecondByte first (some (0x80, 0x8F, 2))
  | tooLarge (above : 0xF4 < first) : SecondByte first none

theorem secondByte?_cases (first : UInt8) : SecondByte first.toNat (secondByte? first) := by
  simp only [secondByte?, UInt8.lt_iff_toNat_lt, ← UInt8.toNat_inj, UInt8.reduceToNat]
  repeat' split
  · exact .tooSmall (by omega)
  · exact .one (by omega) (by omega)
  · exact .overlongTwo (by omega)
  · exact .surrogate (by omega)
  · exact .two (by omega) (by omega) (by omega)
  · exact .overlongThree (by omega)
  · exact .three (by omega) (by omega)
  · exact .last (by omega)
  · exact .tooLarge (by omega)

theorem secondByte?_eq_some {first low high : UInt8} {due : Nat}
    (begins : secondByte? first = some (low, high, due)) :
    due < 3 ∧ IsLead (due + 1) first ∧ 0x80 ≤ low.toNat ∧ high.toNat < 0xC0 := by
  have bounds := secondByte?_cases first
  rw [begins] at bounds
  cases bounds <;> simp only [IsLead, leadMark, leadRoom, UInt8.reduceToNat] <;> omega

theorem exists_bounds_iff {lowest highest : UInt8} {due count : Nat}
    {Between : UInt8 → UInt8 → Prop} :
    (∃ low high, some (lowest, highest, due) = some (low, high, count) ∧ Between low high) ↔
      due = count ∧ Between lowest highest := by
  constructor
  · rintro ⟨low, high, same, between⟩
    cases same
    exact ⟨rfl, between⟩
  · rintro ⟨rfl, between⟩
    exact ⟨lowest, highest, rfl, between⟩

/-- Whether a byte may come second is decided by whether the form is strict. -/
theorem secondByte?_form (form : Form) {count : Nat} (following : form.following = count + 1) :
    form.IsStrict ↔ ∃ low high, secondByte? form.lead = some (low, high, count) ∧
      low ≤ continuation (form.code / 64 ^ count) ∧
        continuation (form.code / 64 ^ count) ≤ high := by
  have few := form.following_le
  have bounded := form.code_lt
  have first := form.toNat_lead
  have second := toNat_continuation (form.code / 64 ^ count)
  rw [Form.IsStrict, form.least_eq_iff]
  rw [following] at few bounded first ⊢
  generalize form.lead = lead at first ⊢
  generalize continuation (form.code / 64 ^ count) = byte at second ⊢
  generalize form.code = code at *
  have bounds := secondByte?_cases lead
  generalize secondByte? lead = begins at bounds ⊢
  -- Both sides bound the number, once its parts in the two bytes are put together.
  have lengths : count = 0 ∨ count = 1 ∨ count = 2 := by omega
  rcases lengths with rfl | rfl | rfl
  all_goals
    simp only [leadMark, leadRoom, leastCode, Nat.reduceAdd, Nat.reducePow, Nat.div_one]
      at first second bounded ⊢
    cases bounds
    all_goals
      simp only [exists_bounds_iff, UInt8.le_iff_toNat_le, Nat.isValidChar, reduceCtorEq,
        true_and, false_and, exists_false, iff_false, UInt8.reduceToNat]
      omega

/-! ## The first character -/

theorem headTail_continuations (code read count : Nat) (rest : Bytes) :
    headTail (code / 64 ^ count) read count (continuations count code ++ rest) =
      .character (scalarOrReplacement code) := by
  induction count generalizing read with
  | zero => rw [continuations, List.nil_append, headTail, Nat.pow_zero, Nat.div_one]
  | succ count ih =>
      rw [continuations, List.cons_append, headTail, le_and_le_eq_isContinuation,
        if_pos (isContinuation_continuation _), toNat_continuation, add_next_bits]
      exact ih (read + 1)

theorem exists_of_headTail_eq {value read due : Nat} {bytes : Bytes} {character : Char}
    (complete : headTail value read due bytes = .character character) :
    ∃ taken rest : Bytes, bytes = taken ++ rest ∧ taken.length = due ∧
      ∀ byte ∈ taken, isContinuation byte := by
  induction due generalizing value read bytes with
  | zero => exact ⟨[], bytes, rfl, rfl, by simp⟩
  | succ due ih =>
      cases bytes with
      | nil => cases complete
      | cons byte bytes =>
          rw [headTail, le_and_le_eq_isContinuation] at complete
          split at complete
          · rename_i continues
            rcases ih complete with ⟨taken, rest, rfl, length, all⟩
            refine ⟨byte :: taken, rest, rfl, by rw [List.length_cons, length], ?_⟩
            intro other present
            rcases List.mem_cons.mp present with rfl | later
            · exact continues
            · exact all other later
          · cases complete

theorem leadingBits_lead (form : Form) {count : Nat} (following : form.following = count + 1) :
    leadingBits form.lead (count + 1) = form.code / 64 ^ (count + 1) := by
  have few := form.following_le
  have room := form.high_lt
  have first := form.toNat_lead
  rw [following] at few room first
  rw [leadingBits, first, Nat.pow_eq]
  generalize form.code / 64 ^ (count + 1) = high at room ⊢
  have lengths : count = 0 ∨ count = 1 ∨ count = 2 := by omega
  rcases lengths with rfl | rfl | rfl <;> simp only [leadMark, leadRoom] at room ⊢ <;> omega

/-- A first byte below 0x80 stands alone. -/
theorem lt_iff_isLead_zero (first : UInt8) : first < 0x80 ↔ IsLead 0 first := by
  simp [IsLead, leadMark, leadRoom, UInt8.lt_iff_toNat_lt]

theorem Form.not_lt_of_following {form : Form} {count : Nat}
    (following : form.following = count + 1) : ¬form.lead < 0x80 := by
  rw [lt_iff_isLead_zero]
  intro alone
  have none := form.isLead.unique form.following_le (Nat.zero_le 3) alone
  rw [following] at none
  cases none

theorem Form.IsStrict.head_eq {form : Form} (strict : form.IsStrict) (rest : Bytes) :
    head form.lead (continuations form.following form.code ++ rest) =
      .character (scalarOrReplacement form.code) := by
  cases following : form.following with
  | zero =>
      have first := form.toNat_lead
      have alone := form.isLead
      rw [following] at alone
      rw [following, Nat.pow_zero, Nat.div_one, leadMark, Nat.zero_add] at first
      simp only [head, if_pos ((lt_iff_isLead_zero _).mpr alone), first]
  | succ count =>
      rcases (secondByte?_form form following).mp strict with ⟨low, high, begins, above, below⟩
      simp only [head, if_neg (form.not_lt_of_following following), continuations,
        List.cons_append, begins, above, below, decide_true, Bool.and_self, if_true,
        leadingBits_lead form following, toNat_continuation, add_next_bits,
        headTail_continuations]

theorem Form.isStrict_of_following {form : Form} (alone : form.following = 0) :
    form.IsStrict := by
  have small := form.code_lt
  rw [alone] at small
  simp only [leadRoom, Nat.pow_zero] at small
  rw [Form.IsStrict, form.least_eq_iff, alone]
  exact ⟨Nat.zero_le _, .inl (by omega)⟩

theorem exists_form_of_head_eq {first : UInt8} {others : Bytes} {character : Char}
    (begins : head first others = .character character) :
    ∃ (form : Form) (rest : Bytes), form.IsStrict ∧ first :: others = form.bytes ++ rest := by
  simp only [head] at begins
  split at begins
  · rename_i small
    have lead := (lt_iff_isLead_zero first).mp small
    rcases @exists_form first [] (Nat.zero_le 3) lead nofun with ⟨form, following, same⟩
    exact ⟨form, others, form.isStrict_of_following following, by rw [same]; rfl⟩
  · split at begins
    · cases begins
    · cases begins
    · rename_i low high due second rest starts
      split at begins
      · rename_i between
        rcases secondByte?_eq_some starts with ⟨few, lead, lowest, highest⟩
        rcases exists_of_headTail_eq begins with ⟨taken, left, rfl, length, all⟩
        simp only [Bool.and_eq_true, decide_eq_true_eq] at between
        have continues : isContinuation second := by
          have above := UInt8.le_iff_toNat_le.mp between.1
          have below := UInt8.le_iff_toNat_le.mp between.2
          rw [isContinuation_iff]
          omega
        have count : (second :: taken).length = due + 1 := by rw [List.length_cons, length]
        have both : ∀ byte ∈ second :: taken, isContinuation byte :=
          List.forall_mem_cons.mpr ⟨continues, all⟩
        rcases exists_form (count ▸ few) (count ▸ lead) both with ⟨form, following, same⟩
        rw [count] at following
        have parts := same
        simp only [Form.bytes, following, continuations, List.cons.injEq] at parts
        refine ⟨form, left, ?_, by rw [same]; rfl⟩
        rw [secondByte?_form form following, parts.1, parts.2.1]
        exact ⟨low, high, starts, between⟩
      · cases begins

/-- A sequence begins with a character exactly if it begins with its encoding. -/
theorem head_eq_character_iff {first : UInt8} {others : Bytes} {character : Char} :
    head first others = .character character ↔
      ∃ rest, first :: others = encode character ++ rest := by
  constructor
  · intro begins
    rcases exists_form_of_head_eq begins with ⟨form, rest, strict, split⟩
    have parts := split
    rw [Form.bytes, List.cons_append] at parts
    rcases List.cons.inj parts with ⟨rfl, rfl⟩
    rw [strict.head_eq] at begins
    cases begins
    exact ⟨rest, strict.bytes_eq ▸ split⟩
  · rintro ⟨rest, split⟩
    rw [encode_eq] at split
    rcases List.cons.inj split with ⟨rfl, rfl⟩
    have begins := (Form.isStrict_ofChar character).head_eq rest
    have code : (Form.ofChar character).code = character.toNat := rfl
    rw [code, scalarOrReplacement_toNat] at begins
    exact begins

/-! ## Texts -/

theorem length_encode_pos (character : Char) : 0 < (encode character).length := by
  rw [length_encode]
  exact Nat.succ_pos _

theorem headsFrom_encode_append (character : Char) (rest : Bytes) (offset : Nat) :
    headsFrom offset (encode character ++ rest) =
      (offset, .character character) ::
        headsFrom (offset + (encode character).length) rest := by
  have pos := length_encode_pos character
  rcases List.exists_cons_of_ne_nil (List.ne_nil_of_length_pos pos) with ⟨first, others, same⟩
  have begins : head first (others ++ rest) = .character character :=
    head_eq_character_iff.mpr ⟨rest, by rw [same]; rfl⟩
  have size : (Head.character character).size = (encode character).length :=
    Nat.max_eq_right pos
  rw [same, List.cons_append, headsFrom]
  simp only [begins, size]
  rw [← List.cons_append, ← same, List.drop_left]

theorem headsFrom_encodeAll (characters : List Char) (offset : Nat) :
    (headsFrom offset (encodeAll characters)).map Prod.snd = characters.map .character := by
  induction characters generalizing offset with
  | nil => rw [encodeAll, List.flatMap_nil, headsFrom, List.map_nil, List.map_nil]
  | cons character characters ih =>
      rw [encodeAll, List.flatMap_cons, headsFrom_encode_append, List.map_cons, List.map_cons]
      exact congrArg _ (ih _)

theorem Head.malformation?_eq_none_iff {offset : Nat} {part : Head} :
    part.malformation? offset = none ↔ ∃ character, part = .character character := by
  cases part <;> simp [Head.malformation?]

theorem malformation?_eq_none_iff (bytes : Bytes) :
    malformation? bytes = none ↔
      ∀ part ∈ (heads bytes).map Prod.snd, ∃ character, part = .character character := by
  simp only [malformation?, List.findSome?_eq_none_iff, Head.malformation?_eq_none_iff,
    List.forall_mem_map]

theorem exists_text_of_headsFrom {offset : Nat} {bytes : Bytes}
    (all : ∀ part ∈ (headsFrom offset bytes).map Prod.snd,
      ∃ character, part = .character character) :
    ∃ characters, bytes = encodeAll characters := by
  fun_induction headsFrom offset bytes with
  | case1 => exact ⟨[], rfl⟩
  | case2 offset first rest part ih =>
      rw [List.map_cons, List.forall_mem_cons] at all
      rcases all with ⟨⟨character, begins⟩, all⟩
      change part = .character character at begins
      rcases head_eq_character_iff.mp begins with ⟨left, split⟩
      rcases ih all with ⟨characters, same⟩
      have size : part.size = (encode character).length := by
        rw [begins]
        exact Nat.max_eq_right (length_encode_pos character)
      rw [size, split, List.drop_left] at same
      exact ⟨character :: characters, by rw [split, same]; rfl⟩

/-- The well-formed sequences are the encodings of texts. -/
theorem isWellFormed_iff (bytes : Bytes) :
    isWellFormed bytes ↔ ∃ characters, bytes = encodeAll characters := by
  rw [isWellFormed, Option.isNone_iff_eq_none, malformation?_eq_none_iff]
  constructor
  · intro all
    exact exists_text_of_headsFrom all
  · rintro ⟨characters, rfl⟩ part present
    rw [heads, headsFrom_encodeAll] at present
    rcases List.mem_map.mp present with ⟨character, _, rfl⟩
    exact ⟨character, rfl⟩

theorem lossyText_encodeAll (characters : List Char) :
    lossyText (encodeAll characters) = String.ofList characters := by
  have read := congrArg (List.map Head.shown) (headsFrom_encodeAll characters 0)
  rw [List.map_map, List.map_map] at read
  exact congrArg String.ofList (read.trans (List.map_id _))

theorem text?_encodeAll (characters : List Char) :
    text? (encodeAll characters) = .ok (String.ofList characters) := by
  have wellFormed := (isWellFormed_iff _).mpr ⟨characters, rfl⟩
  rw [isWellFormed, Option.isNone_iff_eq_none] at wellFormed
  rw [text?, wellFormed, lossyText_encodeAll]

/-- The text of a well-formed sequence shows all of it. -/
theorem lossyText_inj {first second : Bytes} (wellFormed : isWellFormed first)
    (otherWellFormed : isWellFormed second) :
    lossyText first = lossyText second ↔ first = second := by
  rcases (isWellFormed_iff first).mp wellFormed with ⟨characters, rfl⟩
  rcases (isWellFormed_iff second).mp otherWellFormed with ⟨others, rfl⟩
  constructor
  · intro shown
    rw [lossyText_encodeAll, lossyText_encodeAll, String.ofList_inj] at shown
    rw [shown]
  · intro same
    rw [same]

theorem isWellFormed_append {first second : Bytes} (wellFormed : isWellFormed first)
    (otherWellFormed : isWellFormed second) : isWellFormed (first ++ second) := by
  rcases (isWellFormed_iff first).mp wellFormed with ⟨characters, rfl⟩
  rcases (isWellFormed_iff second).mp otherWellFormed with ⟨others, rfl⟩
  exact (isWellFormed_iff _).mpr ⟨characters ++ others, List.flatMap_append.symm⟩

theorem isWellFormed_of_ascii {bytes : Bytes} (ascii : ∀ byte ∈ bytes, byte < 0x80) :
    isWellFormed bytes := by
  refine (isWellFormed_iff bytes).mpr ⟨bytes.map Char.ofUInt8, ?_⟩
  induction bytes with
  | nil => rfl
  | cons byte rest ih =>
    have single : encode (Char.ofUInt8 byte) = [byte] := by
      have small : (Char.ofUInt8 byte).toNat < 0x80 := ascii byte (List.mem_cons_self ..)
      rw [encode, if_pos small]
      exact congrArg (fun read => [read]) (UInt8.ofNat_toNat)
    rw [List.map_cons, encodeAll, List.flatMap_cons, single, ← encodeAll,
      ← ih fun later laterMem => ascii later (List.mem_cons_of_mem _ laterMem)]
    rfl

end Utf8

end Rtos
