import Mathlib.Data.Int.Order.Basic
import Mathlib.Order.Compare
import Rtos.ByteString.Basic
import Rtos.Bytes.Order

/-!
# Agreement of the comparisons

The sign of the difference of two sequences is their lexicographic order, unless the
difference is zero. It is zero for equal sequences, but also if one of them is the other
with NULs added at its end, because a sequence that has ended goes on with NULs. Then, and
only then, do the comparisons of two byte strings disagree.
-/

namespace Rtos

namespace Bytes

variable {left right : Bytes}

/-! ## The order -/

theorem order_eq_iff : order left right = .eq ↔ left = right := by
  fun_induction order left right with
  | case1 => simp
  | case2 => simp
  | case3 => simp
  | case4 first left second right less =>
      simp only [reduceCtorEq, List.cons.injEq, false_iff]
      rintro ⟨rfl, _⟩
      exact UInt8.lt_irrefl _ less
  | case5 first left second right _ greater =>
      simp only [reduceCtorEq, List.cons.injEq, false_iff]
      rintro ⟨rfl, _⟩
      exact UInt8.lt_irrefl _ greater
  | case6 first left second right less greater ih =>
      have same : first = second :=
        UInt8.le_antisymm (UInt8.not_lt.mp greater) (UInt8.not_lt.mp less)
      rw [ih, List.cons.injEq, and_iff_right same]

/-! ## The difference -/

theorem gap_swap (first second : UInt8) : gap second first = -gap first second :=
  (Int.neg_sub _ _).symm

theorem cmp_gap_of_lt {first second : UInt8} (less : first < second) :
    cmp (gap first second) 0 = .lt := by
  rw [cmp_eq_lt_iff, gap]
  rw [UInt8.lt_iff_toNat_lt] at less
  omega

theorem cmp_gap_of_gt {first second : UInt8} (greater : second < first) :
    cmp (gap first second) 0 = .gt := by
  rw [cmp_eq_gt_iff, gap]
  rw [UInt8.lt_iff_toNat_lt] at greater
  omega

theorem gap_ne_zero {first second : UInt8} (apart : first ≠ second) : gap first second ≠ 0 := by
  intro none
  apply apart
  apply UInt8.toNat_inj.mp
  rw [gap] at none
  omega

theorem difference_swap (key : UInt8 → UInt8) (left right : Bytes) :
    difference key right left = -difference key left right := by
  fun_induction difference key left right with
  | case1 => simp [difference]
  | case2 byte right same ih => simpa [difference, same] using ih
  | case3 byte right apart => simpa [difference, Ne.symm apart] using gap_swap _ _
  | case4 byte left same ih => simpa [difference, same] using ih
  | case5 byte left apart => simpa [difference, Ne.symm apart] using gap_swap _ _
  | case6 first left second right same ih => simpa [difference, same] using ih
  | case7 first left second right apart =>
      simpa [difference, Ne.symm apart] using gap_swap _ _

theorem compare_swap (left right : Bytes) : compare right left = -compare left right :=
  difference_swap id left right

theorem cmp_compare_swap (left right : Bytes) :
    cmp (compare right left) 0 = (cmp (compare left right) 0).swap := by
  rw [compare_swap, cmp_swap]
  simp [cmp, cmpUsing]

/-- The difference has the sign of the order, unless it is zero. -/
theorem cmp_compare_of_ne_zero (apart : compare left right ≠ 0) :
    cmp (compare left right) 0 = order left right := by
  unfold compare at apart ⊢
  fun_induction difference id left right with
  | case1 => contradiction
  | case2 byte right same ih =>
      -- A NUL at the end decides nothing, so the difference comes later, and there is more.
      cases right with
      | nil => simp [difference] at apart
      | cons next right => exact ih apart
  | case3 byte right other =>
      exact cmp_gap_of_lt (UInt8.pos_iff_ne_zero.mpr (Ne.symm other))
  | case4 byte left same ih =>
      cases left with
      | nil => simp [difference] at apart
      | cons next left => exact ih apart
  | case5 byte left other =>
      exact cmp_gap_of_gt (UInt8.pos_iff_ne_zero.mpr other)
  | case6 first left second right same ih =>
      rw [ih apart, order, show first = second from same]
      simp
  | case7 first left second right other =>
      rcases UInt8.lt_or_lt_of_ne other with less | greater
      · rw [cmp_gap_of_lt less, order]
        exact (if_pos less).symm
      · have notLess : ¬first < second := UInt8.lt_asymm greater
        rw [cmp_gap_of_gt greater, order, if_neg notLess]
        exact (if_pos greater).symm

/-- The first sequence is the second one with NULs added at its end, if any. -/
def Pads (longer shorter : Bytes) : Prop :=
  ∃ count, longer = shorter ++ List.replicate count 0

theorem pads_refl (bytes : Bytes) : Pads bytes bytes :=
  ⟨0, (List.append_nil bytes).symm⟩

theorem pads_cons_cons {first second : UInt8} :
    Pads (first :: left) (second :: right) ↔ first = second ∧ Pads left right := by
  simp [Pads]

theorem pads_cons_nil {byte : UInt8} {bytes : Bytes} :
    Pads (byte :: bytes) [] ↔ byte = 0 ∧ Pads bytes [] := by
  constructor
  · rintro ⟨count, padding⟩
    cases count with
    | zero => contradiction
    | succ count =>
        cases padding
        exact ⟨rfl, count, rfl⟩
  · rintro ⟨rfl, count, rfl⟩
    exact ⟨count + 1, rfl⟩

theorem not_pads_nil_cons {byte : UInt8} {bytes : Bytes} : ¬Pads [] (byte :: bytes) := by
  rintro ⟨count, padding⟩
  contradiction

theorem pads_nil_of_pads {bytes : Bytes} (padded : Pads [] bytes) : Pads bytes [] := by
  cases bytes with
  | nil => exact pads_refl []
  | cons byte bytes => exact absurd padded not_pads_nil_cons

theorem compare_eq_zero_iff : compare left right = 0 ↔ Pads left right ∨ Pads right left := by
  unfold compare
  fun_induction difference id left right with
  | case1 => simp [pads_refl]
  | case2 byte right same ih =>
      have nul : byte = 0 := Eq.symm same
      rw [ih, pads_cons_nil, and_iff_right nul]
      simp only [not_pads_nil_cons, false_or, or_iff_right_iff_imp]
      exact pads_nil_of_pads
  | case3 byte right other =>
      have other : byte ≠ 0 := Ne.symm other
      simp [gap_ne_zero other.symm, not_pads_nil_cons, pads_cons_nil, other]
  | case4 byte left same ih =>
      have nul : byte = 0 := same
      rw [ih, pads_cons_nil, and_iff_right nul]
      simp only [not_pads_nil_cons, or_false, or_iff_left_iff_imp]
      exact pads_nil_of_pads
  | case5 byte left other =>
      have other : byte ≠ 0 := other
      simp [gap_ne_zero other, not_pads_nil_cons, pads_cons_nil, other]
  | case6 first left second right same ih =>
      have same : first = second := same
      rw [ih, pads_cons_cons, pads_cons_cons, and_iff_right same, and_iff_right same.symm]
  | case7 first left second right other =>
      have other : first ≠ second := other
      simp [gap_ne_zero other, pads_cons_cons, other, other.symm]

end Bytes

namespace ByteString

variable {left right : ByteString}

theorem Terminated.buffer_eq_iff (leftEnds : left.Terminated) (rightEnds : right.Terminated) :
    left.buffer = right.buffer ↔ left.content = right.content := by
  rw [leftEnds, rightEnds, List.append_left_inj]

/-- All comparisons of two strings say the same. -/
structure Agree (left right : ByteString) : Prop where
  /-- The sign of the difference is the order. -/
  sign : cmp (Bytes.compare left.content right.content) 0 =
    Bytes.order left.content right.content
  /-- There is no difference if and only if the contents are equal, and the buffers too. -/
  equal : Bytes.compare left.content right.content = 0 ↔
    left.content = right.content ∧ left.buffer = right.buffer
  /-- Strings that differ have a difference, and the opposite one the other way round. -/
  opposite : left.buffer ≠ right.buffer →
    Bytes.compare left.content right.content ≠ 0 ∧
      cmp (Bytes.compare right.content left.content) 0 =
        (cmp (Bytes.compare left.content right.content) 0).swap

/--
The comparisons of two strings agree unless one string is the other one with NULs added at
its end. In that case there is no difference, although neither the contents nor the buffers
are equal, and the order tells them apart.
-/
theorem agree_iff_not_padded (leftEnds : left.Terminated) (rightEnds : right.Terminated) :
    (Agree left right ↔ left.content = right.content ∨
      ¬Bytes.Pads left.content right.content ∧ ¬Bytes.Pads right.content left.content) ∧
    (left.buffer = right.buffer ↔ left.content = right.content) ∧
    (Bytes.order left.content right.content = .eq ↔ left.content = right.content) ∧
    (Bytes.compare left.content right.content = 0 ↔
      Bytes.Pads left.content right.content ∨ Bytes.Pads right.content left.content) ∧
    Bytes.compare right.content left.content = -Bytes.compare left.content right.content := by
  have buffers := leftEnds.buffer_eq_iff rightEnds
  refine ⟨?_, buffers, Bytes.order_eq_iff, Bytes.compare_eq_zero_iff, Bytes.compare_swap _ _⟩
  rw [← not_or, ← Bytes.compare_eq_zero_iff]
  constructor
  · intro agree
    by_cases same : Bytes.compare left.content right.content = 0
    · exact .inl (agree.equal.mp same).1
    · exact .inr same
  · rintro (same | apart)
    · have none : Bytes.compare left.content right.content = 0 :=
        Bytes.compare_eq_zero_iff.mpr (.inl (same ▸ Bytes.pads_refl _))
      refine ⟨?_, ?_, fun differ => absurd (buffers.mpr same) differ⟩
      · rw [none, Bytes.order_eq_iff.mpr same, cmp_self_eq_eq]
      · exact iff_of_true none ⟨same, buffers.mpr same⟩
    · refine ⟨Bytes.cmp_compare_of_ne_zero apart, ?_, ?_⟩
      · refine iff_of_false apart fun ⟨same, _⟩ => apart ?_
        exact Bytes.compare_eq_zero_iff.mpr (.inl (same ▸ Bytes.pads_refl _))
      · intro _
        exact ⟨apart, Bytes.cmp_compare_swap _ _⟩

/-- Two strings with a common beginning, of which one goes on after a NUL. -/
theorem agree_after_nul :
    (ofBytes [97]).Terminated ∧ (ofBytes [97, 0, 98]).Terminated ∧
      Agree (ofBytes [97]) (ofBytes [97, 0, 98]) := by
  have left : (ofBytes [97]).Terminated := rfl
  have right : (ofBytes [97, 0, 98]).Terminated := rfl
  refine ⟨left, right, (agree_iff_not_padded left right).1.mpr (.inr ?_)⟩
  simp [content, ofBytes, Bytes.pads_cons_cons, Bytes.pads_cons_nil, Bytes.not_pads_nil_cons]

/-- The empty string and the string of one NUL have no difference, but are not equal. -/
theorem not_every_pair_agrees :
    ¬∀ left right : ByteString, left.Terminated → right.Terminated → Agree left right := by
  intro all
  have agree := all (ofBytes []) (ofBytes [0]) rfl rfl
  have none : Bytes.compare (ofBytes []).content (ofBytes [0]).content = 0 := by
    simp [content, ofBytes, Bytes.compare, Bytes.difference]
  cases (agree.equal.mp none).1

end ByteString

end Rtos
