import Rtos.Machine.Script

/-!
# Frames of calls

What calls leave alone. Most calls change nothing but the objects of a machine, and some of
these only the labels of objects besides; a call on a mutex may register its caller first.
-/

namespace Rtos

namespace Machine

namespace Labelled

variable {Thing : Type} (things : Labelled Thing) (label other : Label) (thing : Thing)

@[simp]
theorem get?_erase :
    (things.erase label).get? other = if other = label then none else things.get? other := by
  simp only [erase, get?]
  induction things with
  | nil => simp
  | cons head tail ih =>
      rcases head with ⟨key, first⟩
      by_cases leaves : key = label
      · subst leaves
        by_cases same : other = key
        · simpa [same] using ih
        · have different : (other == key) = false := beq_false_of_ne same
          simpa [List.lookup_cons, same, different] using ih
      · by_cases found : other = key
        · subst found
          simp [leaves]
        · have different : (other == key) = false := beq_false_of_ne found
          simpa [List.lookup_cons, leaves, different] using ih

@[simp]
theorem get?_put :
    (things.put label thing).get? other =
      if other = label then some thing else things.get? other := by
  by_cases same : other = label
  · simp [put, get?, same]
  · have different : (other == label) = false := beq_false_of_ne same
    have rest := things.get?_erase label other
    simp only [get?, if_neg same] at rest
    simp [put, get?, List.lookup_cons, same, different, rest]

end Labelled

/-! ## Actors -/

section Actors

variable (machine : Machine) (label other : Label)

@[simp]
theorem get?_modifyActor (change : Actor → Actor) :
    (machine.modifyActor label change).actors.get? other =
      if other = label then (machine.actors.get? label).map change
      else machine.actors.get? other := by
  unfold modifyActor
  cases known : machine.actors.get? label with
  | none =>
      by_cases same : other = label
      · simp [same, known]
      · simp [same]
  | some actor => simp [putActor]

@[simp]
theorem store_modifyActor (change : Actor → Actor) :
    (machine.modifyActor label change).store = machine.store := by
  simp only [modifyActor]
  split <;> rfl

@[simp]
theorem table_modifyActor (change : Actor → Actor) :
    (machine.modifyActor label change).table = machine.table := by
  simp only [modifyActor]
  split <;> rfl

end Actors

/-! ## Objects -/

/-- A machine differs from another one in the states of its objects at most. -/
def ChangesObjects (machine next : Machine) : Prop :=
  ∃ objects, next = { machine with store := { machine.store with objects } }

/-- A machine differs from another one in its objects and their labels at most. -/
def ChangesStore (machine next : Machine) : Prop :=
  ∃ store, next = { machine with store }

theorem ChangesObjects.refl (machine : Machine) : machine.ChangesObjects machine :=
  ⟨_, rfl⟩

theorem ChangesObjects.changesStore {machine next : Machine}
    (changes : machine.ChangesObjects next) : machine.ChangesStore next := by
  rcases changes with ⟨objects, rfl⟩
  exact ⟨_, rfl⟩

theorem ChangesStore.refl (machine : Machine) : machine.ChangesStore machine :=
  ⟨_, rfl⟩

section Calls

variable (machine : Machine) (attempt : Attempt) (label : Label) (id : ObjectId)

theorem changesObjects_putRegistry (registry : Registry Label) :
    machine.ChangesObjects (machine.putRegistry id registry) := by
  simp only [putRegistry]
  split
  · exact .refl machine
  · exact ⟨_, rfl⟩

theorem changesObjects_callSemaphore (call : SemaphoreCall) :
    machine.ChangesObjects (machine.callSemaphore attempt id call).machine := by
  simp only [callSemaphore]
  split
  · cases call <;> exact ⟨_, rfl⟩
  · exact .refl machine

theorem changesObjects_callEventFlag (request : Sync.FlagWord.Request) :
    machine.ChangesObjects (machine.callEventFlag attempt id request).machine := by
  simp only [callEventFlag]
  split
  · exact ⟨_, rfl⟩
  · exact .refl machine

theorem changesObjects_callQueue (call : QueueCall) :
    machine.ChangesObjects (machine.callQueue attempt id call).machine := by
  simp only [callQueue]
  split
  · cases call <;> exact ⟨_, rfl⟩
  · exact .refl machine

theorem requestMutex_cases (request : ThreadId → Sync.Mutex.Request) :
    (machine.requestMutex attempt id request).machine = machine ∨
      (machine.current attempt.actor).1.ChangesObjects
        (machine.requestMutex attempt id request).machine := by
  simp only [requestMutex]
  split
  · exact .inl rfl
  · exact .inr ⟨_, rfl⟩

/-- A call on a mutex changes nothing, or registers its caller and changes the mutex. -/
theorem callMutex_cases (call : MutexCall) :
    (machine.callMutex attempt id call).machine = machine ∨
      (machine.current attempt.actor).1.ChangesObjects
        (machine.callMutex attempt id call).machine := by
  simp only [callMutex]
  split
  · exact .inl rfl
  · cases call with
    | kind => exact .inl rfl
    | owner => exact .inl rfl
    | acquire timeout | lock timeout | release => exact machine.requestMutex_cases attempt id _

theorem changesStore_callRegistry (call : RegistryCall) :
    machine.ChangesStore (machine.callRegistry attempt label id call).machine := by
  simp only [callRegistry]
  split
  · exact .refl machine
  · cases call with
    | publish name data | openRecord name wanted patience | close name | destroy name =>
        exact (machine.changesObjects_putRegistry id _).changesStore
    | teardown => exact ⟨_, rfl⟩
    | _ => exact .refl machine

theorem changesStore_callKernel (call : KernelCall) :
    machine.ChangesStore (machine.callKernel label id call).machine := by
  simp only [callKernel]
  split
  · cases call <;> exact ⟨_, rfl⟩
  · exact .refl machine

theorem changesStore_awaitReport : machine.ChangesStore machine.awaitReport.machine := by
  simp only [awaitReport]
  split
  · exact .refl machine
  · exact (machine.changesObjects_putRegistry _ _).changesStore

theorem changesStore_createObject (creation : Creation) :
    machine.ChangesStore (machine.createObject label creation).machine := by
  simp only [createObject]
  split
  · exact ⟨_, rfl⟩
  · exact .refl machine

theorem changesStore_discardObject :
    machine.ChangesStore (machine.discardObject label).machine := by
  simp only [discardObject]
  split
  · exact .refl machine
  · exact ⟨_, rfl⟩

theorem changesStore_onObject {perform : ObjectId → Effect}
    (changes : ∀ id, machine.ChangesStore (perform id).machine) :
    machine.ChangesStore (machine.onObject label perform).machine := by
  simp only [onObject]
  split
  · exact .refl machine
  · apply changes

/-- Whether a call changes the store of a machine at most. -/
def Call.isOfObjects : Call → Bool
  | create _ _ => true
  | discard _ => true
  | semaphore _ _ => true
  | eventFlag _ _ => true
  | queue _ _ => true
  | registry _ _ => true
  | kernel _ _ => true
  | delay _ => true
  | awaitReport => true
  | _ => false

theorem changesStore_perform {call : Call} (ofObjects : call.isOfObjects = true) :
    machine.ChangesStore (machine.perform attempt call).machine := by
  cases call with
  | create object creation => exact machine.changesStore_createObject object creation
  | discard object => exact machine.changesStore_discardObject object
  | semaphore object call =>
      apply changesStore_onObject
      intro id
      exact (machine.changesObjects_callSemaphore attempt id call).changesStore
  | eventFlag object request =>
      apply changesStore_onObject
      intro id
      exact (machine.changesObjects_callEventFlag attempt id request).changesStore
  | queue object call =>
      apply changesStore_onObject
      intro id
      exact (machine.changesObjects_callQueue attempt id call).changesStore
  | registry object call =>
      apply changesStore_onObject
      intro id
      exact machine.changesStore_callRegistry attempt object id call
  | kernel object call =>
      apply changesStore_onObject
      intro id
      exact machine.changesStore_callKernel object id call
  | delay way => exact .refl machine
  | awaitReport => exact machine.changesStore_awaitReport
  | _ => contradiction

end Calls

end Machine

end Rtos
