import Rtos.Proofs.ByteString.Content

/-!
# Trimming

What trimming leaves of a string: the bytes lie in it between two runs of bytes of the set, and
begin and end with a byte that is not in the set, if there is any. This says all about them,
whatever way the ends are found.
-/

namespace Rtos

namespace Bytes

/-- Some bytes are what is left of others without those of a set at both ends. -/
structure IsTrimmed (set bytes kept : Bytes) : Prop where
  split : ∃ front back, bytes = front ++ kept ++ back ∧
    (∀ byte ∈ front, byte ∈ set) ∧ ∀ byte ∈ back, byte ∈ set
  first : ∀ byte ∈ kept.head?, byte ∉ set
  last : ∀ byte ∈ kept.getLast?, byte ∉ set

variable {set bytes kept front back : Bytes}

theorem dropWhile_of_head_not_mem (first : ∀ byte ∈ bytes.head?, byte ∉ set) :
    bytes.dropWhile (set.contains ·) = bytes := by
  cases bytes with
  | nil => rfl
  | cons byte bytes =>
      apply List.dropWhile_cons_of_neg
      simpa using first byte rfl

theorem dropWhile_append_of_forall_mem (inside : ∀ byte ∈ front, byte ∈ set) :
    (front ++ bytes).dropWhile (set.contains ·) = bytes.dropWhile (set.contains ·) := by
  apply List.dropWhile_append_of_pos
  intro byte present
  simpa using inside byte present

theorem rdropWhile_append_of_forall_mem (inside : ∀ byte ∈ back, byte ∈ set) :
    (bytes ++ back).rdropWhile (set.contains ·) = bytes.rdropWhile (set.contains ·) := by
  rw [List.rdropWhile, List.reverse_append, dropWhile_append_of_forall_mem, ← List.rdropWhile]
  intro byte present
  exact inside byte (List.mem_reverse.mp present)

theorem rdropWhile_of_last_not_mem (last : ∀ byte ∈ bytes.getLast?, byte ∉ set) :
    bytes.rdropWhile (set.contains ·) = bytes := by
  rw [List.rdropWhile, dropWhile_of_head_not_mem, List.reverse_reverse]
  intro byte present
  rw [List.head?_reverse] at present
  exact last byte present

namespace IsTrimmed

theorem eq_nil_iff (trims : IsTrimmed set bytes kept) :
    kept = [] ↔ ∀ byte ∈ bytes, byte ∈ set := by
  rcases trims.split with ⟨front, back, rfl, frontInside, backInside⟩
  constructor
  · rintro rfl byte present
    rw [List.append_nil, List.mem_append] at present
    rcases present with inFront | inBack
    · exact frontInside byte inFront
    · exact backInside byte inBack
  · intro inside
    cases kept with
    | nil => rfl
    | cons byte kept =>
        apply absurd (inside byte (by simp))
        exact trims.first byte rfl

/-- There is only one way to trim some bytes. -/
theorem eq_trimmed (trims : IsTrimmed set bytes kept) : kept = trimmed set bytes := by
  have empties := trims.eq_nil_iff
  rcases trims.split with ⟨front, back, rfl, frontInside, backInside⟩
  rw [trimmed, List.append_assoc, dropWhile_append_of_forall_mem frontInside]
  cases kept with
  | nil =>
      symm
      rw [List.nil_append, List.rdropWhile_eq_nil_iff]
      intro byte present
      simpa using backInside byte (List.dropWhile_suffix _ |>.mem present)
  | cons byte rest =>
      have stays : (byte :: rest ++ back).dropWhile (set.contains ·) = byte :: rest ++ back :=
        dropWhile_of_head_not_mem trims.first
      rw [stays, rdropWhile_append_of_forall_mem backInside,
        rdropWhile_of_last_not_mem trims.last]

theorem reverse (trims : IsTrimmed set bytes kept) :
    IsTrimmed set bytes.reverse kept.reverse where
  split := by
    rcases trims.split with ⟨front, back, rfl, frontInside, backInside⟩
    refine ⟨back.reverse, front.reverse, by simp, ?_, ?_⟩
    · intro byte present
      exact backInside byte (List.mem_reverse.mp present)
    · intro byte present
      exact frontInside byte (List.mem_reverse.mp present)
  first := by
    rw [List.head?_reverse]
    exact trims.last
  last := by
    rw [List.getLast?_reverse]
    exact trims.first

/-- What is left has nothing more to be taken away. -/
theorem again (trims : IsTrimmed set bytes kept) : IsTrimmed set kept kept where
  split := ⟨[], [], by simp, by simp, by simp⟩
  first := trims.first
  last := trims.last

end IsTrimmed

theorem isTrimmed_trimmed (set bytes : Bytes) : IsTrimmed set bytes (trimmed set bytes) where
  split := by
    refine ⟨bytes.takeWhile (set.contains ·),
      (bytes.dropWhile (set.contains ·)).rtakeWhile (set.contains ·), ?_, ?_, ?_⟩
    · rw [List.append_assoc, trimmed, List.rdropWhile_append_rtakeWhile,
        List.takeWhile_append_dropWhile]
    · intro byte present
      simpa using List.mem_takeWhile_imp present
    · intro byte present
      simpa using List.mem_rtakeWhile_imp present
  first := by
    intro byte present
    rw [trimmed, Option.mem_def] at present
    -- what is dropped at the end does not change the first byte, if any stays
    rcases List.rdropWhile_prefix (set.contains ·) (bytes.dropWhile (set.contains ·)) with
      ⟨dropped, split⟩
    have head := List.head?_dropWhile_not (set.contains ·) bytes
    rw [← split, List.head?_append_of_ne_nil, present] at head
    · simpa using head
    · intro nothing
      rw [nothing] at present
      contradiction
  last := by
    intro byte present
    have head := List.head?_dropWhile_not (set.contains ·)
      (bytes.dropWhile (set.contains ·)).reverse
    rw [trimmed, List.rdropWhile, List.getLast?_reverse] at present
    rw [present] at head
    simpa using head

end Bytes

namespace ByteString

variable (string : ByteString) (set : Bytes)

/-- The room of a trimmed string is that of its buffer and of the string before. -/
theorem capacity_trim :
    (string.trim set).capacity = max string.capacity (string.trim set).buffer.length := rfl

theorem trim_trim : (string.trim set).trim set = string.trim set := by
  have once := Holds.trim_content string set
  have twice := Holds.trim_content (string.trim set) set
  have trims := Bytes.isTrimmed_trimmed set string.content
  have buffers : ((string.trim set).trim set).buffer = (string.trim set).buffer := by
    rw [twice, once, once.content_eq, ← trims.again.eq_trimmed]
  have room : ((string.trim set).trim set).capacity = (string.trim set).capacity := by
    rw [capacity_trim, buffers, capacity_trim, Nat.max_assoc, Nat.max_self]
  generalize (string.trim set).trim set = last at buffers room ⊢
  cases last
  cases buffers
  cases room
  rfl

/--
Trimming takes the bytes of a set away at both ends and nothing else. What it leaves is the one
part of the string that lies between bytes of the set and has none at its own ends; it is empty
exactly if all bytes are in the set. To trim once more changes nothing, and the reversed string
is trimmed to the reversed rest.
-/
theorem trim_leaves_middle :
    (string.trim set).Terminated ∧
      Bytes.IsTrimmed set string.content (string.trim set).content ∧
      (∀ kept, Bytes.IsTrimmed set string.content kept → kept = (string.trim set).content) ∧
      ((string.trim set).content = [] ↔ ∀ byte ∈ string.content, byte ∈ set) ∧
      (string.trim set).trim set = string.trim set ∧
      ((string.setBytes string.content.reverse).trim set).content =
        (string.trim set).content.reverse := by
  have holds := Holds.trim_content string set
  have trims := Bytes.isTrimmed_trimmed set string.content
  rw [holds.content_eq]
  refine ⟨holds.terminated, trims, ?_, trims.eq_nil_iff, string.trim_trim set, ?_⟩
  · intro kept other
    exact other.eq_trimmed
  · have mirrored := Holds.trim_content (string.setBytes string.content.reverse) set
    rw [(Holds.setBytes string _).content_eq] at mirrored
    rw [mirrored.content_eq]
    exact trims.reverse.eq_trimmed.symm

end ByteString

end Rtos
