import Mathlib.Data.List.Forall2
import Mathlib.Data.List.Nodup
import Rtos.Sync.Monitor

/-!
# Waiting calls

What signals do to the calls that wait. A signal changes nothing but who is woken, and it
wakes nobody twice. If a call is still parked on a condition after some signals, then
each of them that was meant for one call has woken another one.
-/

namespace Rtos

namespace Sync

section Lists

variable {α : Type} {test : α → Bool} {list rest : List α} {found : α}

theorem extractFirst?_eq_some_iff :
    extractFirst? test list = some (found, rest) ↔
      ∃ before after, list = before ++ found :: after ∧ rest = before ++ after ∧
        test found = true ∧ ∀ item ∈ before, test item = false := by
  constructor
  · intro extracted
    induction list generalizing rest with
    | nil => cases extracted
    | cons head tail ih =>
        simp only [extractFirst?] at extracted
        split at extracted
        · rename_i holds
          cases extracted
          exact ⟨[], tail, rfl, rfl, holds, by simp⟩
        · rename_i fails
          simp only [Option.map_eq_some_iff, Prod.mk.injEq] at extracted
          rcases extracted with ⟨⟨inner, others⟩, innerExtracted, rfl, rfl⟩
          rcases ih innerExtracted with ⟨before, after, rfl, rfl, holds, fail⟩
          refine ⟨head :: before, after, rfl, rfl, holds, ?_⟩
          exact List.forall_mem_cons.mpr ⟨eq_false_of_ne_true fails, fail⟩
  · rintro ⟨before, after, rfl, rfl, holds, fail⟩
    induction before with
    | nil => simp [extractFirst?, holds]
    | cons head before ih =>
        rw [List.forall_mem_cons] at fail
        simp [extractFirst?, fail.1, ih fail.2]

theorem perm_of_extractFirst? (extracted : extractFirst? test list = some (found, rest)) :
    list.Perm (found :: rest) := by
  rcases extractFirst?_eq_some_iff.mp extracted with ⟨before, after, rfl, rfl, _, _⟩
  exact List.perm_middle

theorem test_of_extractFirst? (extracted : extractFirst? test list = some (found, rest)) :
    test found = true := by
  rcases extractFirst?_eq_some_iff.mp extracted with ⟨_, _, _, _, holds, _⟩
  exact holds

theorem extractFirst?_of_imp {narrower : α → Bool}
    (narrows : ∀ item, narrower item → test item)
    (extracted : extractFirst? test list = some (found, rest)) (own : narrower found) :
    extractFirst? narrower list = some (found, rest) := by
  rw [extractFirst?_eq_some_iff] at extracted ⊢
  rcases extracted with ⟨before, after, split, left, _, fail⟩
  refine ⟨before, after, split, left, own, ?_⟩
  intro item member
  apply eq_false_of_ne_true
  intro holds
  simpa [fail item member] using narrows item holds

theorem eq_false_of_extractFirst?_eq_none (nothing : extractFirst? test list = none) {item : α}
    (present : item ∈ list) : test item = false := by
  induction list with
  | nil => simp at present
  | cons head tail ih =>
      simp only [extractFirst?] at nothing
      split at nothing
      · cases nothing
      · rename_i fails
        rcases List.mem_cons.mp present with rfl | member
        · exact eq_false_of_ne_true fails
        · exact ih (by simpa using nothing) member

/-- A change of the first element of a kind adds it to those of another kind. -/
theorem countP_modifyFirst {change : α → α} {kind : α → Bool}
    (enters : ∀ item, test item → kind item = false ∧ kind (change item) = true)
    (present : list.any test) :
    (modifyFirst test change list).countP kind = list.countP kind + 1 := by
  induction list with
  | nil => simp at present
  | cons head tail ih =>
      simp only [modifyFirst]
      split
      · rename_i holds
        simp [enters head holds]
      · rename_i fails
        simp only [List.any_cons, fails, Bool.false_or] at present
        rw [List.countP_cons, List.countP_cons, ih present]
        omega

/-- A change of the first element of a kind that at most one element is of. -/
theorem modifyFirst_eq_map {β : Type} [DecidableEq β] {view : α → β} {chosen : β}
    (change : α → α) (distinct : (list.map view).Nodup)
    (only : ∀ item ∈ list, test item ↔ view item = chosen) :
    modifyFirst test change list =
      list.map fun item => if view item = chosen then change item else item := by
  induction list with
  | nil => rfl
  | cons head tail ih =>
      rw [List.map_cons, List.nodup_cons] at distinct
      simp only [modifyFirst, List.map_cons, only head List.mem_cons_self]
      split
      · rename_i same
        congr 1
        symm
        rw [List.map_congr_left (g := id), List.map_id]
        intro item member
        rw [if_neg]
        · rfl
        · intro again
          exact distinct.1 (same.trans again.symm ▸ List.mem_map_of_mem member)
      · congr 1
        exact ih distinct.2 fun item member => only item (List.mem_cons_of_mem _ member)

end Lists

section Waiters

variable {Party Request Condition : Type} {waiters later : List (Waiter Party Request Condition)}

/-- The same calls, of which some more may be woken. -/
def Awakened (waiters later : List (Waiter Party Request Condition)) : Prop :=
  List.Forall₂ (fun waiter next => next = waiter ∨ next = waiter.wake) waiters later

namespace Awakened

theorem refl (waiters : List (Waiter Party Request Condition)) : Awakened waiters waiters :=
  List.forall₂_same.mpr fun _ _ => .inl rfl

theorem trans {last : List (Waiter Party Request Condition)} (first : Awakened waiters later)
    (second : Awakened later last) : Awakened waiters last := by
  induction first generalizing last with
  | nil =>
      cases second
      exact .nil
  | cons head tail ih =>
      cases second with
      | cons next rest =>
          refine .cons ?_ (ih rest)
          rcases head with rfl | rfl
          · exact next
          · rcases next with rfl | rfl
            · exact .inr rfl
            · exact .inr rfl

theorem modifyFirst (test : Waiter Party Request Condition → Bool)
    (waiters : List (Waiter Party Request Condition)) :
    Awakened waiters (modifyFirst test Waiter.wake waiters) := by
  induction waiters with
  | nil => exact .nil
  | cons head tail ih =>
      simp only [Sync.modifyFirst]
      split
      · exact .cons (.inr rfl) (Awakened.refl tail)
      · exact .cons (.inl rfl) ih

theorem parties (awakened : Awakened waiters later) :
    later.map (·.party) = waiters.map (·.party) := by
  induction awakened with
  | nil => rfl
  | cons head tail ih => rcases head with rfl | rfl <;> simp [ih, Waiter.wake]

theorem exists_of_mem (awakened : Awakened waiters later)
    {waiter : Waiter Party Request Condition} (present : waiter ∈ later) :
    ∃ earlier ∈ waiters, waiter = earlier ∨ waiter = earlier.wake := by
  induction awakened with
  | nil => simp at present
  | cons head tail ih =>
      rcases List.mem_cons.mp present with rfl | present
      · exact ⟨_, List.mem_cons_self, head⟩
      · rcases ih present with ⟨earlier, member, same⟩
        exact ⟨earlier, List.mem_cons_of_mem _ member, same⟩

theorem mem_of_parked (awakened : Awakened waiters later)
    {waiter : Waiter Party Request Condition} (present : waiter ∈ later)
    (parked : waiter.woken = false) : waiter ∈ waiters := by
  rcases awakened.exists_of_mem present with ⟨earlier, member, rfl | rfl⟩
  · exact member
  · simp [Waiter.wake] at parked

end Awakened

variable [DecidableEq Condition]

def parkedOn (condition : Condition) (waiters : List (Waiter Party Request Condition)) : Nat :=
  waiters.countP (Waiter.isParkedOn condition)

/-- Whether a call was woken by a signal of a condition. -/
def Waiter.isWokenFrom (condition : Condition) (waiter : Waiter Party Request Condition) :
    Bool :=
  waiter.woken && waiter.condition = condition

theorem Waiter.isWokenFrom_wake {condition : Condition}
    {waiter : Waiter Party Request Condition} (woken : waiter.isWokenFrom condition) :
    waiter.wake.isWokenFrom condition := by
  simp_all [isWokenFrom, wake]

/-- The number of calls that were woken by signals of a condition and have not resumed. -/
def wokenFrom (condition : Condition) (waiters : List (Waiter Party Request Condition)) : Nat :=
  waiters.countP (Waiter.isWokenFrom condition)

theorem parkedOn_pos {condition : Condition} :
    0 < parkedOn condition waiters ↔
      ∃ waiter ∈ waiters, waiter.woken = false ∧ waiter.condition = condition := by
  simp [parkedOn, List.countP_pos_iff, Waiter.isParkedOn]

theorem wokenFrom_eq_zero (condition : Condition)
    (rest : ∀ waiter ∈ waiters, waiter.woken = false) : wokenFrom condition waiters = 0 := by
  rw [wokenFrom, List.countP_eq_zero]
  intro waiter present
  simp [Waiter.isWokenFrom, rest waiter present]

theorem Awakened.parkedOn_pos (awakened : Awakened waiters later) {condition : Condition}
    (parked : 0 < parkedOn condition later) : 0 < parkedOn condition waiters := by
  rw [Sync.parkedOn_pos] at parked ⊢
  rcases parked with ⟨waiter, present, asleep, own⟩
  exact ⟨waiter, awakened.mem_of_parked present asleep, asleep, own⟩

theorem Awakened.wokenFrom_le (awakened : Awakened waiters later) (condition : Condition) :
    wokenFrom condition waiters ≤ wokenFrom condition later := by
  induction awakened with
  | nil => exact Nat.le_refl _
  | cons head tail ih =>
      simp only [wokenFrom, List.countP_cons] at ih ⊢
      rcases head with rfl | rfl
      · omega
      · split
        · rename_i woken
          rw [if_pos (Waiter.isWokenFrom_wake woken)]
          omega
        · omega

section Deliver

variable [DecidableEq Party] (favourite : Option Party)

theorem awakened_deliver (waiters : List (Waiter Party Request Condition))
    (signal : Signal Condition) : Awakened waiters (signal.deliver favourite waiters) := by
  cases signal with
  | one condition =>
      simp only [Signal.deliver]
      split
      · exact .modifyFirst _ _
      · exact .modifyFirst _ _
  | all condition =>
      refine List.forall₂_map_right_iff.mpr (List.forall₂_same.mpr ?_)
      intro waiter _
      split
      · exact .inr rfl
      · exact .inl rfl

theorem awakened_deliverAll (signals : List (Signal Condition))
    (waiters : List (Waiter Party Request Condition)) :
    Awakened waiters (Signal.deliverAll favourite signals waiters) := by
  induction signals generalizing waiters with
  | nil => exact .refl waiters
  | cons signal signals ih =>
      exact (awakened_deliver favourite waiters signal).trans (ih _)

/-- A signal for one call may wake any that is parked on its condition, and then only that. -/
theorem deliver_one_favourite {condition : Condition} {waiter : Waiter Party Request Condition}
    (distinct : (waiters.map (·.party)).Nodup) (present : waiter ∈ waiters)
    (parked : waiter.isParkedOn condition) :
    Signal.deliver (some waiter.party) waiters (.one condition) =
      waiters.map fun other => if other.party = waiter.party then other.wake else other := by
  have own : ∀ other ∈ waiters, other.party = waiter.party → other = waiter := by
    intro other member same
    exact List.inj_on_of_nodup_map distinct member present same
  have chosen : waiters.any (fun other =>
      other.isParkedOn condition && decide (some other.party = some waiter.party)) := by
    rw [List.any_eq_true]
    exact ⟨waiter, present, by simp [parked]⟩
  simp only [Signal.deliver, chosen, if_true]
  apply modifyFirst_eq_map Waiter.wake distinct
  intro other member
  simp only [Bool.and_eq_true, decide_eq_true_eq, Option.some.injEq, and_iff_right_iff_imp]
  intro same
  rw [own other member same]
  exact parked

theorem wokenFrom_deliver_one {condition : Condition}
    (parked : 0 < parkedOn condition waiters) :
    wokenFrom condition (Signal.deliver favourite waiters (.one condition)) =
      wokenFrom condition waiters + 1 := by
  simp only [Signal.deliver, wokenFrom]
  split
  · rename_i chosen
    apply countP_modifyFirst _ chosen
    intro waiter isFavourite
    simp_all [Waiter.isParkedOn, Waiter.isWokenFrom, Waiter.wake]
  · apply countP_modifyFirst
    · intro waiter isParked
      simp_all [Waiter.isParkedOn, Waiter.isWokenFrom, Waiter.wake]
    · simpa [parkedOn, List.countP_pos_iff] using parked

theorem parkedOn_deliver_all (condition : Condition)
    (waiters : List (Waiter Party Request Condition)) :
    parkedOn condition (Signal.deliver favourite waiters (.all condition)) = 0 := by
  rw [parkedOn, List.countP_eq_zero]
  intro waiter present
  simp only [Signal.deliver, List.mem_map] at present
  rcases present with ⟨earlier, _, rfl⟩
  split
  · simp [Waiter.isParkedOn, Waiter.wake]
  · assumption

/--
If a call is still parked on a condition after some signals, it was so before them, none
of them was for all calls, and each one that was for one call has woken another.
-/
theorem woken_of_stillParked {condition : Condition} {signals : List (Signal Condition)}
    (parked : 0 < parkedOn condition (Signal.deliverAll favourite signals waiters)) :
    0 < parkedOn condition waiters ∧ .all condition ∉ signals ∧
      wokenFrom condition waiters + signals.count (.one condition) ≤
        wokenFrom condition (Signal.deliverAll favourite signals waiters) := by
  refine ⟨(awakened_deliverAll favourite signals waiters).parkedOn_pos parked, ?_⟩
  induction signals generalizing waiters with
  | nil => simp [Signal.deliverAll]
  | cons signal signals ih =>
      have first := awakened_deliver favourite waiters signal
      have between : 0 < parkedOn condition (signal.deliver favourite waiters) :=
        (awakened_deliverAll favourite signals _).parkedOn_pos parked
      rcases ih parked with ⟨notAll, counted⟩
      change _ ≤ wokenFrom condition
        (Signal.deliverAll favourite signals (signal.deliver favourite waiters)) at counted
      constructor
      · intro member
        rcases List.mem_cons.mp member with rfl | member
        · rw [parkedOn_deliver_all] at between
          omega
        · exact notAll member
      · change _ ≤ wokenFrom condition
          (Signal.deliverAll favourite signals (signal.deliver favourite waiters))
        rw [List.count_cons]
        split
        · rename_i same
          rw [beq_iff_eq] at same
          subst same
          rw [wokenFrom_deliver_one favourite (first.parkedOn_pos between)] at counted
          omega
        · have grown := first.wokenFrom_le condition
          omega

end Deliver

end Waiters

end Sync

end Rtos
