import Mathlib.Data.List.DropRight
import Mathlib.Data.List.GetD
import Rtos.Proofs.ByteString.Content
import Rtos.Proofs.Bytes.Comparison

/-!
# The comparisons as preorders

A comparison reads both sequences as if they went on with NULs without end, and the first
place at which they differ decides (`Decides`). From this reading the laws of a total
preorder follow for three sequences of any lengths. The sequences that count as equal are
those that are equal without the NULs at their ends, and the order is the lexicographic one
on what is left. A comparison without regard to case is the same one on other bytes, so it
obeys the same laws.
-/

namespace Rtos

namespace Bytes

/-- The byte at a position of a sequence that goes on with NULs. -/
def extended (bytes : Bytes) (position : Nat) : UInt8 :=
  bytes.getD position 0

/-- The bytes without the NULs at their end. -/
def unpadded (bytes : Bytes) : Bytes :=
  bytes.rdropWhile (· == 0)

/-- What the first difference of two sequences without end decides. -/
inductive Decides (left right : Nat → UInt8) : Int → Prop where
  | nothing (same : ∀ position, left position = right position) : Decides left right 0
  | first (position : Nat)
      (before : ∀ earlier, earlier < position → left earlier = right earlier)
      (apart : left position ≠ right position) :
      Decides left right (gap (left position) (right position))

/-- At the end of every common beginning the first sequence is not above the second one. -/
def NotAbove (left right : Nat → UInt8) : Prop :=
  ∀ position, (∀ earlier, earlier < position → left earlier = right earlier) →
    left position ≤ right position

/-- The laws of a comparison that looks at a view of its sequences. -/
structure Preordered (compared : Bytes → Bytes → Int) (view : Bytes → Bytes) : Prop where
  /-- The sign is the lexicographic order without the NULs at the ends. -/
  negative : ∀ left right,
    compared left right < 0 ↔ unpadded (view left) < unpadded (view right)
  positive : ∀ left right,
    0 < compared left right ↔ unpadded (view right) < unpadded (view left)
  zero : ∀ left right, compared left right = 0 ↔ unpadded (view left) = unpadded (view right)
  /-- The value is the difference of the first bytes that differ. -/
  value : ∀ left right,
    Decides (extended (view left)) (extended (view right)) (compared left right)
  bounds : ∀ left right, -255 ≤ compared left right ∧ compared left right ≤ 255
  swap : ∀ left right, compared right left = -compared left right
  total : ∀ left right, compared left right ≤ 0 ∨ compared right left ≤ 0
  trans : ∀ left middle right, compared left middle ≤ 0 → compared middle right ≤ 0 →
    compared left right ≤ 0

variable {left middle right : Nat → UInt8} {value other : Int}

/-! ## The first difference -/

theorem gap_bounds (first second : UInt8) :
    -255 ≤ gap first second ∧ gap first second ≤ 255 := by
  have firstBound := first.toNat_lt
  have secondBound := second.toNat_lt
  unfold gap
  omega

theorem gap_nonpos_iff (first second : UInt8) : gap first second ≤ 0 ↔ first ≤ second := by
  rw [UInt8.le_iff_toNat_le, gap]
  omega

theorem Decides.behind (start : left 0 = right 0)
    (decides : Decides (fun position => left (position + 1)) (fun position => right (position + 1))
      value) : Decides left right value := by
  cases decides with
  | nothing same =>
      apply Decides.nothing
      intro position
      cases position with
      | zero => exact start
      | succ position => exact same position
  | first position before apart =>
      refine .first (position + 1) ?_ apart
      intro earlier earlierLt
      cases earlier with
      | zero => exact start
      | succ earlier => exact before earlier (Nat.lt_of_succ_lt_succ earlierLt)

theorem Decides.here (apart : left 0 ≠ right 0) :
    Decides left right (gap (left 0) (right 0)) := by
  refine .first 0 ?_ apart
  intro earlier earlierLt
  exact absurd earlierLt (Nat.not_lt_zero earlier)

/-- The comparison goes through both sequences at once, and NULs stand behind the shorter one. -/
theorem decides_difference (key : UInt8 → UInt8) (first second : Bytes) :
    Decides (key ∘ extended first) (key ∘ extended second) (difference key first second) := by
  fun_induction difference key first second with
  | case1 => exact .nothing fun _ => rfl
  | case2 byte right same ih => exact .behind same ih
  | case3 byte right apart => exact .here apart
  | case4 byte left same ih => exact .behind same ih
  | case5 byte left apart => exact .here apart
  | case6 first left second right same ih => exact .behind same ih
  | case7 first left second right apart => exact .here apart

theorem Decides.unique (decides : Decides left right value)
    (otherDecides : Decides left right other) : value = other := by
  cases decides with
  | nothing same =>
      cases otherDecides with
      | nothing _ => rfl
      | first position _ apart => exact absurd (same position) apart
  | first position before apart =>
      cases otherDecides with
      | nothing same => exact absurd (same position) apart
      | first place otherBefore otherApart =>
          have notBefore : ¬position < place := fun earlier => apart (otherBefore position earlier)
          have notBehind : ¬place < position := fun earlier => otherApart (before place earlier)
          have same : position = place := by omega
          rw [same]

theorem Decides.bounds (decides : Decides left right value) : -255 ≤ value ∧ value ≤ 255 := by
  cases decides with
  | nothing _ => omega
  | first position _ _ => exact gap_bounds _ _

theorem Decides.nonpos_iff (decides : Decides left right value) :
    value ≤ 0 ↔ NotAbove left right := by
  cases decides with
  | nothing same =>
      refine iff_of_true (Int.le_refl 0) ?_
      intro position _
      exact UInt8.le_of_eq (same position)
  | first position before apart =>
      rw [gap_nonpos_iff]
      constructor
      · intro notAbove place common
        rcases Nat.lt_trichotomy place position with earlier | rfl | later
        · exact UInt8.le_of_eq (before place earlier)
        · exact notAbove
        · exact absurd (common position later) apart
      · intro notAbove
        exact notAbove position before

/--
If the ends of the three-part chain have a common beginning, then it is common to the
sequence in the middle too, because that is caught between two equal bytes.
-/
theorem NotAbove.trans (below : NotAbove left middle) (above : NotAbove middle right) :
    NotAbove left right := by
  intro position common
  have between : ∀ place, place ≤ position → ∀ earlier, earlier < place →
      left earlier = middle earlier ∧ middle earlier = right earlier := by
    intro place
    induction place with
    | zero =>
        intro _ earlier earlierLt
        exact absurd earlierLt (Nat.not_lt_zero earlier)
    | succ place ih =>
        intro inside
        have known := ih (Nat.le_of_succ_le inside)
        have lower := below place fun earlier earlierLt => (known earlier earlierLt).1
        have upper := above place fun earlier earlierLt => (known earlier earlierLt).2
        have ends := common place inside
        intro earlier earlierLt
        rcases Nat.lt_succ_iff_lt_or_eq.mp earlierLt with before | rfl
        · exact known earlier before
        · rw [← ends] at upper ⊢
          have same := UInt8.le_antisymm lower upper
          exact ⟨same, same.symm⟩
  have known := between position (Nat.le_refl position)
  have lower := below position fun earlier earlierLt => (known earlier earlierLt).1
  have upper := above position fun earlier earlierLt => (known earlier earlierLt).2
  exact UInt8.le_trans lower upper

/-! ## NULs at the end -/

theorem unpadded_append_replicate (bytes : Bytes) (count : Nat) :
    unpadded (bytes ++ List.replicate count 0) = unpadded bytes := by
  induction count with
  | zero => exact congrArg unpadded (List.append_nil bytes)
  | succ count ih =>
      rw [List.replicate_succ', ← List.append_assoc]
      exact (List.rdropWhile_concat_pos _ _ _ rfl).trans ih

theorem extended_append_replicate (bytes : Bytes) (count : Nat) :
    extended (bytes ++ List.replicate count 0) = extended bytes := by
  funext position
  unfold extended
  rcases Nat.lt_or_ge position bytes.length with inside | behind
  · exact List.getD_append _ _ _ _ inside
  · rw [List.getD_append_right _ _ _ _ behind, List.getD_eq_default bytes _ behind]
    rw [List.getD_eq_getElem?_getD]
    exact List.getElem?_getD_replicate_default_eq _ _ _

theorem extended_unpadded (bytes : Bytes) : extended (unpadded bytes) = extended bytes := by
  rcases exists_eq_rdropWhile_append 0 bytes with ⟨count, padded⟩
  conv_rhs => rw [padded]
  exact (extended_append_replicate _ count).symm

theorem decides_compare (first second : Bytes) :
    Decides (extended first) (extended second) (compare first second) :=
  decides_difference id first second

theorem compare_unpadded (first second : Bytes) :
    compare (unpadded first) (unpadded second) = compare first second := by
  have decides := decides_compare (unpadded first) (unpadded second)
  rw [extended_unpadded, extended_unpadded] at decides
  exact decides.unique (decides_compare first second)

theorem compare_eq_zero_iff_unpadded (first second : Bytes) :
    compare first second = 0 ↔ unpadded first = unpadded second := by
  constructor
  · intro none
    rcases compare_eq_zero_iff.mp none with ⟨count, rfl⟩ | ⟨count, rfl⟩
    · exact unpadded_append_replicate second count
    · exact (unpadded_append_replicate first count).symm
  · intro same
    rw [← compare_unpadded, same]
    exact (decides_compare _ _).unique (.nothing fun _ => rfl)

/-! ## The order -/

theorem order_eq_lt_iff {first second : Bytes} : order first second = .lt ↔ first < second := by
  fun_induction order first second with
  | case1 => simp
  | case2 byte right => simp
  | case3 byte left => simp
  | case4 first left second right less => simp [List.cons_lt_cons_iff, less]
  | case5 first left second right notLess greater =>
      have apart : first ≠ second := fun same => notLess (same ▸ greater)
      simp [List.cons_lt_cons_iff, notLess, apart]
  | case6 first left second right notLess notGreater ih =>
      have same : first = second :=
        UInt8.le_antisymm (UInt8.not_lt.mp notGreater) (UInt8.not_lt.mp notLess)
      rw [ih, List.cons_lt_cons_iff, or_iff_right notLess, and_iff_right same]

theorem compare_neg_iff (first second : Bytes) :
    compare first second < 0 ↔ unpadded first < unpadded second := by
  rw [← compare_unpadded]
  constructor
  · intro negative
    apply order_eq_lt_iff.mp
    rw [← cmp_compare_of_ne_zero (Int.ne_of_lt negative)]
    exact (cmp_eq_lt_iff _ _).mpr negative
  · intro less
    have apart : compare (unpadded first) (unpadded second) ≠ 0 := by
      rw [compare_unpadded, Ne, compare_eq_zero_iff_unpadded]
      intro same
      rw [same] at less
      exact List.lt_irrefl _ less
    apply (cmp_eq_lt_iff _ _).mp
    rw [cmp_compare_of_ne_zero apart]
    exact order_eq_lt_iff.mpr less

/-! ## The laws -/

theorem preordered_view (view : Bytes → Bytes) :
    Preordered (fun first second => compare (view first) (view second)) view where
  negative first second := compare_neg_iff _ _
  positive first second := by
    rw [← compare_neg_iff, compare_swap (view first)]
    omega
  zero first second := compare_eq_zero_iff_unpadded _ _
  value first second := decides_compare _ _
  bounds first second := (decides_compare _ _).bounds
  swap first second := compare_swap _ _
  total first second := by
    have swap := compare_swap (view first) (view second)
    omega
  trans first middle last below above := by
    apply (decides_compare _ _).nonpos_iff.mpr
    have lower := (decides_compare _ _).nonpos_iff.mp below
    exact lower.trans ((decides_compare _ _).nonpos_iff.mp above)

theorem extended_map_lowercase (bytes : Bytes) :
    extended (bytes.map lowercase) = lowercase ∘ extended bytes := by
  funext position
  exact List.getD_map bytes 0 lowercase

theorem compareIgnoringCase_eq (first second : Bytes) :
    compareIgnoringCase first second =
      compare (first.map lowercase) (second.map lowercase) := by
  have decides := decides_compare (first.map lowercase) (second.map lowercase)
  rw [extended_map_lowercase, extended_map_lowercase] at decides
  exact (decides_difference lowercase first second).unique decides

/--
Both comparisons are total preorders. They tell sequences apart as the lexicographic order
does, but without the NULs at the ends, and the one without regard to case compares the
sequences with each byte in lower case.
-/
theorem comparisons_preordered :
    Preordered compare id ∧
      (∀ first second, compareIgnoringCase first second =
        compare (first.map lowercase) (second.map lowercase)) ∧
      Preordered compareIgnoringCase (List.map lowercase) := by
  have ignoringCase : compareIgnoringCase =
      fun first second => compare (first.map lowercase) (second.map lowercase) :=
    funext fun first => funext (compareIgnoringCase_eq first)
  refine ⟨preordered_view id, compareIgnoringCase_eq, ?_⟩
  rw [ignoringCase]
  exact preordered_view (List.map lowercase)

end Bytes

end Rtos
