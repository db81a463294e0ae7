import Rtos.Sync.FlagWord
import Rtos.Sync.Mutex
import Rtos.Sync.Queue
import Rtos.Sync.Semaphore

/-!
# Calls on the primitives

All that a call can do while it holds the lock of a mutex, a semaphore, a queue or a flag
word, with the condition under which it does it. What is said about calls is proved from
these cases.
-/

namespace Rtos

namespace Sync

namespace Mutex

/-- What a call does to a mutex. -/
inductive Does (mutex : Mutex) : Request → Pass Mutex Condition Unit → Prop where
  | acquired (caller : ThreadId) (timeout : Timeout) (free : mutex.owner = none) :
      Does mutex (.acquire caller timeout)
        (.finish (.ok ()) { mutex with owner := some caller, depth := 1 } [])
  | nested (caller : ThreadId) (timeout : Timeout) (own : mutex.owner = some caller)
      (kind : mutex.kind = .recursive) :
      Does mutex (.acquire caller timeout)
        (.finish (.ok ()) { mutex with depth := mutex.depth + 1 } [])
  | deadlocked (caller : ThreadId) (own : mutex.owner = some caller)
      (kind : mutex.kind = .normal) :
      Does mutex (.acquire caller .forever) (.abort (.selfDeadlock caller))
  | waits (caller owner : ThreadId) (timeout : Timeout) (owned : mutex.owner = some owner)
      (own : owner = caller → mutex.kind = .normal ∧ timeout ≠ .forever) :
      Does mutex (.acquire caller timeout) (.wait .released timeout)
  | freed (caller : ThreadId) (own : mutex.owner = some caller) (last : mutex.depth ≤ 1) :
      Does mutex (.release caller)
        (.finish (.ok ()) { mutex with owner := none, depth := 0 } [.one .released])
  | unnested (caller : ThreadId) (own : mutex.owner = some caller) (deep : 1 < mutex.depth) :
      Does mutex (.release caller)
        (.finish (.ok ()) { mutex with depth := mutex.depth - 1 } [])
  | refused (caller : ThreadId) (other : mutex.owner ≠ some caller) :
      Does mutex (.release caller) (.finish (.error .notOwned) mutex [])

theorem does (mutex : Mutex) (request : Request) : mutex.Does request (mutex.pass request) := by
  cases request with
  | acquire caller timeout =>
      simp only [pass, passAcquire]
      split
      · exact .acquired caller timeout ‹_›
      · rename_i owner owned
        split
        · rename_i own
          subst own
          split
          · exact .nested owner _ owned ‹_›
          · exact .deadlocked owner owned ‹_›
          · exact .waits owner owner _ owned fun _ => ⟨‹_›, nofun⟩
        · exact .waits caller owner _ owned fun own => absurd own ‹_›
  | release caller =>
      simp only [pass, passRelease]
      split
      · split
        · exact .freed caller ‹_› ‹_›
        · exact .unnested caller ‹_› (by omega)
      · exact .refused caller ‹_›

end Mutex

namespace Semaphore

/-- What a call does to a semaphore. -/
inductive Does (semaphore : Semaphore) : Request → Pass Semaphore Condition Unit → Prop where
  | acquired (timeout : Timeout) (token : 0 < semaphore.count) :
      Does semaphore (.acquire timeout)
        (.finish (.ok ()) { semaphore with count := semaphore.count - 1 } [])
  | waits (timeout : Timeout) (none : semaphore.count = 0) :
      Does semaphore (.acquire timeout) (.wait .available timeout)
  | released (room : semaphore.count < semaphore.maximum) :
      Does semaphore .release
        (.finish (.ok ()) { semaphore with count := semaphore.count + 1 } [.one .available])
  | refused (full : semaphore.maximum ≤ semaphore.count) :
      Does semaphore .release (.finish (.error .resource) semaphore [])

theorem does (semaphore : Semaphore) (request : Request) :
    semaphore.Does request (semaphore.pass request) := by
  cases request with
  | acquire timeout =>
      simp only [pass]
      split
      · exact .acquired timeout ‹_›
      · exact .waits timeout (by omega)
  | release =>
      simp only [pass]
      split
      · exact .refused ‹_›
      · exact .released (by omega)

end Semaphore

namespace Queue

variable {Item : Type}

/-- What a call does to a queue. -/
inductive Does (queue : Queue Item) :
    Request Item → Pass (Queue Item) Condition (Result Item) → Prop where
  | stored (item : Item) (timeout : Timeout) (room : queue.count < queue.capacity) :
      Does queue (.put item timeout)
        (.finish (.ok .stored) { queue with items := queue.items ++ [item] } [.one .notEmpty])
  | full (item : Item) (timeout : Timeout) (full : queue.capacity ≤ queue.count) :
      Does queue (.put item timeout) (.wait .notFull timeout)
  | taken (item : Item) (rest : List Item) (timeout : Timeout)
      (front : queue.items = item :: rest) :
      Does queue (.get timeout)
        (.finish (.ok (.item item)) { queue with items := rest } [.one .notFull])
  | empty (timeout : Timeout) (empty : queue.items = []) :
      Does queue (.get timeout) (.wait .notEmpty timeout)
  | reset :
      Does queue .reset
        (.finish (.ok (.dropped queue.count)) { queue with items := [] } [.all .notFull])

theorem does (queue : Queue Item) (request : Request Item) :
    queue.Does request (queue.pass request) := by
  cases request with
  | put item timeout =>
      simp only [pass]
      split
      · exact .stored item timeout ‹_›
      · exact .full item timeout (by omega)
  | get timeout =>
      simp only [pass]
      split
      · exact .taken _ _ timeout ‹_›
      · exact .empty timeout ‹_›
  | reset => exact .reset

theorem capacity_of_finish {queue next : Queue Item} {request : Request Item}
    {result : Except Error (Result Item)} {signals : List (Signal Condition)}
    (passed : queue.pass request = .finish result next signals) :
    next.capacity = queue.capacity := by
  have done := queue.does request
  rw [passed] at done
  cases done <;> rfl

theorem count_le_of_finish {queue next : Queue Item} {request : Request Item}
    {result : Except Error (Result Item)} {signals : List (Signal Condition)}
    (bounded : queue.count ≤ queue.capacity)
    (passed : queue.pass request = .finish result next signals) : next.count ≤ next.capacity := by
  have done := queue.does request
  rw [passed] at done
  cases done with
  | stored item timeout room =>
      simp only [count, List.length_append]
      exact room
  | taken item rest timeout front =>
      simp only [count, front, List.length_cons] at bounded
      exact Nat.le_of_succ_le bounded
  | reset => exact Nat.zero_le _

end Queue

namespace FlagWord

/-- What a call does to a flag word. -/
inductive Does (word : FlagWord) : Request → Pass FlagWord Condition UInt32 → Prop where
  | set (mask : UInt32) (valid : mask &&& ~~~word.valid = 0) :
      Does word (.set mask)
        (.finish (.ok (word.bits ||| mask)) { word with bits := word.bits ||| mask }
          [.all .changed])
  | cleared (mask : UInt32) (valid : mask &&& ~~~word.valid = 0) :
      Does word (.clear mask)
        (.finish (.ok word.bits) { word with bits := word.bits &&& ~~~mask } [])
  | got : Does word .get (.finish (.ok word.bits) word [])
  | kept (mask : UInt32) (mode : WaitMode) (timeout : Timeout)
      (valid : mask &&& ~~~word.valid = 0) (satisfied : mode.isSatisfied word.bits mask) :
      Does word (.wait mask mode false timeout) (.finish (.ok word.bits) word [])
  | consumed (mask : UInt32) (mode : WaitMode) (timeout : Timeout)
      (valid : mask &&& ~~~word.valid = 0) (satisfied : mode.isSatisfied word.bits mask) :
      Does word (.wait mask mode true timeout)
        (.finish (.ok word.bits) { word with bits := word.bits &&& ~~~mask } [])
  | waits (mask : UInt32) (mode : WaitMode) (clear : Bool) (timeout : Timeout)
      (valid : mask &&& ~~~word.valid = 0)
      (unsatisfied : mode.isSatisfied word.bits mask = false) :
      Does word (.wait mask mode clear timeout) (.wait .changed timeout)
  | invalid (request : Request) (invalid : request.mask &&& ~~~word.valid ≠ 0) :
      Does word request (.abort (.invalidFlagBits word.owner request.mask word.valid))

theorem does (word : FlagWord) (request : Request) : word.Does request (word.pass request) := by
  unfold pass
  split
  · rename_i valid
    cases request with
    | set mask => exact .set mask valid
    | clear mask => exact .cleared mask valid
    | get => exact .got
    | wait mask mode clear timeout =>
        simp only [passValid]
        split
        · cases clear with
          | false => exact .kept mask mode timeout valid ‹_›
          | true => exact .consumed mask mode timeout valid ‹_›
        · exact .waits mask mode clear timeout valid (eq_false_of_ne_true ‹_›)
  · exact .invalid request ‹_›

theorem valid_of_finish {word next : FlagWord} {request : Request}
    {result : Except Error UInt32} {signals : List (Signal Condition)}
    (passed : word.pass request = .finish result next signals) : next.valid = word.valid := by
  have done := word.does request
  rw [passed] at done
  cases done <;> rfl

end FlagWord

end Sync

end Rtos
