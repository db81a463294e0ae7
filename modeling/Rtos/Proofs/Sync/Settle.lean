import Rtos.Proofs.Sync.Run

/-!
# Coming to rest

Every monitor comes to rest: settling it is one of its runs, in which woken calls resume
and nothing else happens, and at the end of which no woken call is left.
-/

namespace Rtos

namespace Sync

variable {Party Object Request Condition Result : Type}

namespace Monitor

variable [DecidableEq Party] [DecidableEq Condition]
  {pass : Object → Request → Pass Object Condition Result}
  {monitor next : Monitor Party Object Request Condition} {party : Party}
  {progress : Progress Result}

/-- Settling goes on where the first woken call leaves the monitor. -/
theorem settle_of_passAgain?
    (passed : monitor.passAgain? pass (·.woken) false none = some (party, next, progress)) :
    (monitor.settle pass).1 = (next.settle pass).1 := by
  conv_lhs => unfold settle
  split
  · rename_i nothing
    rw [passed] at nothing
    cases nothing
  · rename_i again
    rw [passed] at again
    cases again
    cases progress <;> rfl

theorem settle_of_none
    (nothing : monitor.passAgain? pass (·.woken) false none = none) :
    (monitor.settle pass).1 = monitor := by
  unfold settle
  split
  · rfl
  · rename_i again
    rw [nothing] at again
    cases again

/-- The first woken call that passes again is the one that its party resumes. -/
theorem step_resume_of_passAgain?
    (passed : monitor.passAgain? pass (·.woken) false none = some (party, next, progress)) :
    monitor.step pass (.resume party none) = (next, some (party, progress)) := by
  simp only [passAgain?, Option.map_eq_some_iff, Prod.mk.injEq] at passed
  rcases passed with ⟨⟨waiter, others⟩, extracted, rfl, attempted⟩
  have woken := test_of_extractFirst? extracted
  have own : extractFirst? (fun other => other.woken && decide (other.party = waiter.party))
      monitor.waiters = some (waiter, others) := by
    apply extractFirst?_of_imp _ extracted
    · simp [woken]
    · simp +contextual
  simp only [step, resume?, passAgain?, own, Option.map_some, attempted]

/-- What holds of a monitor with no woken call, and of one whose first woken call leaves a
monitor it holds of, holds of every monitor. -/
@[elab_as_elim]
theorem settle_induction (pass : Object → Request → Pass Object Condition Result)
    {motive : Monitor Party Object Request Condition → Prop}
    (rests : ∀ monitor : Monitor Party Object Request Condition,
      monitor.passAgain? pass (·.woken) false none = none → motive monitor)
    (passes : ∀ (monitor next : Monitor Party Object Request Condition) (party : Party)
      (progress : Progress Result),
      monitor.passAgain? pass (·.woken) false none = some (party, next, progress) →
        motive next → motive monitor)
    (monitor : Monitor Party Object Request Condition) : motive monitor := by
  induction size : monitor.unrest using Nat.strongRecOn generalizing monitor with
  | ind size' ih =>
      cases passed : monitor.passAgain? pass (·.woken) false none with
      | none => exact rests monitor passed
      | some outcome =>
          rcases outcome with ⟨party, next, progress⟩
          apply passes monitor next party progress passed
          exact ih next.unrest (size ▸ unrest_passAgain_lt pass monitor none passed) next rfl

theorem settle_atRest (pass : Object → Request → Pass Object Condition Result)
    (monitor : Monitor Party Object Request Condition) : (monitor.settle pass).1.AtRest := by
  refine settle_induction pass ?rests ?passes monitor
  case rests =>
    intro monitor nothing
    rw [settle_of_none nothing]
    intro waiter present
    simp only [passAgain?, Option.map_eq_none_iff] at nothing
    exact eq_false_of_extractFirst?_eq_none nothing present
  case passes =>
    intro monitor next party progress passed ih
    rw [settle_of_passAgain? passed]
    exact ih

end Monitor

/-- Settling a monitor is a run of resumptions. -/
theorem Run.exists_after_eq_settle [DecidableEq Party] [DecidableEq Condition]
    (pass : Object → Request → Pass Object Condition Result)
    (run : Run Party Object Request Condition Result) :
    ∃ parties : List Party,
      (run.after pass (parties.map fun party => .resume party none)).monitor =
        (run.monitor.settle pass).1 := by
  generalize same : run.monitor = monitor
  revert run
  refine Monitor.settle_induction pass ?rests ?passes monitor
  case rests =>
    intro monitor nothing run same
    rw [Monitor.settle_of_none nothing]
    exact ⟨[], same⟩
  case passes =>
    intro monitor next party progress passed ih run same
    rw [Monitor.settle_of_passAgain? passed]
    have resumed : (run.next pass (.resume party none)).monitor = next := by
      simp only [Run.next, same, Monitor.step_resume_of_passAgain? passed]
    rcases ih (run.next pass (.resume party none)) resumed with ⟨parties, settled⟩
    exact ⟨party :: parties, settled⟩

end Sync

end Rtos
