import Rtos.ByteString.Text
import Rtos.Proofs.ByteString.Content
import Rtos.Proofs.Utf8.Readings
import Rtos.Proofs.Utf8.WellFormed

/-!
# Writing characters and reading them back

A string that characters are pushed to holds their encodings, and all who read it find the
characters again: the strict reader, the reader of characters, and the decoder that is fed
byte by byte, whatever it held before. Encodings are forms, and a form is read without regard
to what comes before and after it.
-/

namespace Rtos

namespace Utf8

theorem encodeAll_cons (character : Char) (characters : List Char) :
    encodeAll (character :: characters) = encode character ++ encodeAll characters :=
  List.flatMap_cons

theorem reads_encode (character : Char) (rest : Bytes) :
    Reads (encode character) rest character := by
  have reads := Reads.form (Form.ofChar character) rest
  have code : (Form.ofChar character).code = character.toNat := rfl
  rwa [← encode_eq, code, scalarOrReplacement_toNat] at reads

theorem characters_encodeAll (list : List Char) : characters (encodeAll list) = list := by
  induction list with
  | nil => rw [encodeAll, List.flatMap_nil, characters]
  | cons character list ih =>
      rw [encodeAll_cons, (reads_encode character _).characters_eq, ih]

namespace Decoder

/-- A decoder that is fed with the encodings of characters goes through the stages of each. -/
theorem trace_encodeAll (characters : List Char) (accumulator : UInt32) :
    trace ⟨.ready, accumulator⟩ (encodeAll characters) =
      characters.flatMap fun character => stages character.toNat (least character.toNat) := by
  induction characters generalizing accumulator with
  | nil => rfl
  | cons character characters ih =>
      rw [encodeAll_cons, trace_append, encode_eq, run_form, trace_form, List.flatMap_cons]
      exact congrArg _ (ih _)

theorem state_run_encodeAll (characters : List Char) (accumulator : UInt32) :
    (run ⟨.ready, accumulator⟩ (encodeAll characters)).state = .ready := by
  induction characters generalizing accumulator with
  | nil => rfl
  | cons character characters ih =>
      rw [encodeAll_cons, run_append, encode_eq, run_form]
      exact ih _

/-- The accumulator holds each character when its encoding is complete. -/
theorem completed_encodeAll (characters : List Char) (accumulator : UInt32) :
    ((trace ⟨.ready, accumulator⟩ (encodeAll characters)).filter (·.state = .ready)).map
      (·.accumulator.toNat) = characters.map Char.toNat := by
  rw [trace_encodeAll, List.filter_flatMap, List.map_flatMap]
  simp only [filter_ready_stages, List.map_cons, List.map_nil]
  have value (character : Char) :
      (stage character.toNat 0).accumulator.toNat = character.toNat :=
    toNat_accumulator_stage_zero (Form.ofChar character)
  simp only [value]
  exact List.map_eq_flatMap.symm

end Decoder

end Utf8

namespace ByteString

theorem Holds.pushCharacters {string : ByteString} {bytes : Bytes} (holds : string.Holds bytes)
    (characters : List Char) :
    (characters.foldl pushCharacter string).Holds (bytes ++ Utf8.encodeAll characters) := by
  induction characters generalizing string bytes with
  | nil => rwa [Utf8.encodeAll, List.flatMap_nil, List.append_nil]
  | cons character characters ih =>
      rw [List.foldl_cons, Utf8.encodeAll_cons, ← List.append_assoc]
      exact ih (holds.pushBytes (Utf8.encode character))

/-- Characters that are pushed to an empty string one after the other are read back by the
strict reader, by the reader of characters and by a decoder that is fed byte by byte. -/
theorem read_pushCharacters (characters : List Char) (accumulator : UInt32) :
    let string := characters.foldl pushCharacter empty
    let decoder : Utf8.Decoder := ⟨.ready, accumulator⟩
    string.text? = .ok (String.ofList characters) ∧
      string.characters = characters ∧
      Utf8.length string.content = characters.length ∧
      (∀ later ∈ decoder.trace string.content, later.state ≠ .failed) ∧
      (decoder.run string.content).state = .ready ∧
      ((decoder.trace string.content).filter (·.state = .ready)).map (·.accumulator.toNat) =
        characters.map Char.toNat := by
  intro string decoder
  have content : string.content = Utf8.encodeAll characters :=
    (Holds.empty.pushCharacters characters).content_eq
  refine ⟨?_, ?_, ?_, ?_, ?_, ?_⟩
  · rw [text?, content]
    exact Utf8.text?_encodeAll characters
  · rw [ByteString.characters, content]
    exact Utf8.characters_encodeAll characters
  · rw [content, Utf8.length, Utf8.characters_encodeAll]
  · intro later present
    rw [content, Utf8.Decoder.trace_encodeAll] at present
    rcases List.mem_flatMap.mp present with ⟨character, _, staged⟩
    exact Utf8.Decoder.state_ne_failed_of_mem_stages staged
  · rw [content]
    exact Utf8.Decoder.state_run_encodeAll characters accumulator
  · rw [content]
    exact Utf8.Decoder.completed_encodeAll characters accumulator

end ByteString

end Rtos
