import Rtos.Proofs.Sync.Changes

/-!
# Objects in another form

The same object may be kept in two forms, one of which is a view of the other: numbers are
kept in machine words, say. If every pass through the lock does in one form what it does in
the other, then nobody can tell the two apart: runs of the one are the runs of the other,
with the same calls waiting and the same results.
-/

namespace Rtos

namespace Sync

variable {Party Stored Object Request Condition Result : Type}

/-- A pass through the lock of an object, seen in another form. -/
def Pass.view (form : Stored → Object) :
    Pass Stored Condition Result → Pass Object Condition Result
  | finish result stored signals => finish result (form stored) signals
  | wait condition timeout => wait condition timeout
  | abort fault => abort fault

def Monitor.view (form : Stored → Object) (monitor : Monitor Party Stored Request Condition) :
    Monitor Party Object Request Condition :=
  ⟨form monitor.object, monitor.waiters⟩

def Run.view (form : Stored → Object) (run : Run Party Stored Request Condition Result) :
    Run Party Object Request Condition Result :=
  { run with monitor := run.monitor.view form }

/-- Whatever passes do to an object, they do to the form in which it is kept. -/
def Represents (form : Stored → Object)
    (passStored : Stored → Request → Pass Stored Condition Result)
    (pass : Object → Request → Pass Object Condition Result) : Prop :=
  ∀ stored request, (passStored stored request).view form = pass (form stored) request

namespace Represents

variable [DecidableEq Party] [DecidableEq Condition] {form : Stored → Object}
  {passStored : Stored → Request → Pass Stored Condition Result}
  {pass : Object → Request → Pass Object Condition Result}
  {refusal? : Request → Option Error} (represents : Represents form passStored pass)

include represents

theorem attempt (monitor : Monitor Party Stored Request Condition) (party : Party)
    (request : Request) (expired : Bool) (favourite : Option Party) :
    (monitor.view form).attempt pass party request expired favourite =
      ((monitor.attempt passStored party request expired favourite).1.view form,
        (monitor.attempt passStored party request expired favourite).2) := by
  have same := represents monitor.object request
  simp only [Monitor.attempt, Monitor.view, ← same]
  cases passStored monitor.object request with
  | finish result next signals => rfl
  | wait condition timeout =>
      simp only [Pass.view]
      split <;> rfl
  | abort fault => rfl

theorem passAgain? (monitor : Monitor Party Stored Request Condition)
    (test : Waiter Party Request Condition → Bool) (expired : Bool) (favourite : Option Party) :
    (monitor.view form).passAgain? pass test expired favourite =
      (monitor.passAgain? passStored test expired favourite).map
        fun (party, next, progress) => (party, next.view form, progress) := by
  simp only [Monitor.passAgain?, Option.map_map]
  apply Option.map_congr
  rintro ⟨waiter, others⟩ _
  simp only [Function.comp_apply]
  rw [← represents.attempt ⟨monitor.object, others⟩]
  rfl

theorem step (monitor : Monitor Party Stored Request Condition)
    (event : Event Party Request) :
    (monitor.view form).step pass event =
      ((monitor.step passStored event).1.view form, (monitor.step passStored event).2) := by
  cases event with
  | call party request favourite =>
      have free : (monitor.view form).isWaiting party = monitor.isWaiting party := rfl
      simp only [Monitor.step, free, Monitor.call, represents.attempt]
      split <;> rfl
  | resume party favourite =>
      simp only [Monitor.step, Monitor.resume?, represents.passAgain?]
      cases monitor.passAgain? passStored _ false favourite <;> rfl
  | expire party favourite =>
      simp only [Monitor.step, Monitor.expire?, represents.passAgain?]
      cases monitor.passAgain? passStored _ true favourite <;> rfl

theorem act (run : Run Party Stored Request Condition Result) (action : Action Party Request) :
    (run.view form).act pass refusal? action = (run.act passStored refusal? action).view form := by
  have next (event : Event Party Request) :
      (run.view form).next pass event = (run.next passStored event).view form := by
    simp only [Run.next, Run.view, represents.step]
  cases action with
  | event event => exact next event
  | interrupt party request favourite =>
      have free : (run.view form).monitor.isWaiting party = run.monitor.isWaiting party := rfl
      simp only [Run.act, free, next]
      split
      · split <;> rfl
      · rfl

/-- Runs of an object are the runs of the form in which it is kept. -/
theorem afterActions (run : Run Party Stored Request Condition Result)
    (actions : List (Action Party Request)) :
    (run.view form).afterActions pass refusal? actions =
      (run.afterActions passStored refusal? actions).view form := by
  induction actions generalizing run with
  | nil => rfl
  | cons action actions ih =>
      simp only [Run.afterActions, List.foldl_cons, represents.act] at ih ⊢
      exact ih (run.act passStored refusal? action)

end Represents

end Sync

end Rtos
