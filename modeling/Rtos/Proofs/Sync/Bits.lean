import Mathlib.Algebra.Group.Nat.Defs
import Rtos.Proofs.Sync.Calls
import Rtos.Proofs.Sync.Changes

/-!
# Bits of flag words

A bit that is set in a flag word stays there until one call takes it, and that call has
seen it: it returns a word with the bit. So between two moments the bit has been set as
often as it has been reported by a call that takes it, up to what the word shows at the two
moments.

A call that names a bit outside the valid ones is a fault, and changes nothing. Only in
interrupt context, where some calls are refused, the refusal comes first.
-/

namespace Rtos

namespace Sync

namespace FlagWord

def shows (bits : UInt32) (bit : Nat) : Bool :=
  bits.toBitVec.getLsbD bit

@[simp]
theorem shows_zero (bit : Nat) : shows 0 bit = false := by
  simp [shows]

@[simp]
theorem shows_or (left right : UInt32) (bit : Nat) :
    shows (left ||| right) bit = (shows left bit || shows right bit) := by
  simp [shows]

@[simp]
theorem shows_and_not (bits mask : UInt32) (bit : Nat) :
    shows (bits &&& ~~~mask) bit = (shows bits bit && !shows mask bit) := by
  simp only [shows, UInt32.toBitVec_and, UInt32.toBitVec_not, BitVec.getLsbD_and,
    BitVec.getLsbD_not]
  by_cases inside : bit < 32
  · simp [inside]
  · simp [BitVec.getLsbD_of_ge _ bit (Nat.le_of_not_lt inside)]

theorem shows_lowBits {count : Nat} (fits : count ≤ 32) (bit : Nat) :
    shows (lowBits count) bit = decide (bit < count) := by
  have bits : (lowBits count).toBitVec = BitVec.ofNat 32 (2 ^ count - 1) := rfl
  simp only [shows, bits, BitVec.getLsbD_ofNat, Nat.testBit_two_pow_sub_one]
  by_cases low : bit < count
  · simp only [low, decide_true, Bool.and_true, decide_eq_true_eq]
    omega
  · simp [low]

/-- A word lies within another one if it shows no bit that the other does not. -/
theorem and_not_eq_zero_iff {bits valid : UInt32} :
    bits &&& ~~~valid = 0 ↔ ∀ bit, shows bits bit → shows valid bit := by
  constructor
  · intro none bit shown
    have outside : shows (bits &&& ~~~valid) bit = false := by rw [none, shows_zero]
    simpa [shown] using outside
  · intro within
    apply UInt32.toBitVec_inj.mp
    apply BitVec.eq_of_getLsbD_eq
    intro bit _
    change shows (bits &&& ~~~valid) bit = shows 0 bit
    rw [shows_and_not, shows_zero]
    cases shown : shows bits bit
    · rfl
    · simp [within bit shown]

/-! ## The words of event flags and threads -/

def ofOwner : FlagOwner → FlagWord
  | .event => event
  | .thread => thread

/-- How many bits of its word an owner may use. -/
def width : FlagOwner → Nat
  | .event => eventFlagBits
  | .thread => threadFlagBits

/-- Why a call on the word of an owner is refused in interrupt context. -/
def refusal? : FlagOwner → Request → Option Error
  | .event => Request.eventRefusal?
  | .thread => Request.threadRefusal?

theorem shows_valid (owner : FlagOwner) (bit : Nat) :
    shows (ofOwner owner).valid bit = decide (bit < width owner) := by
  cases owner with
  | event => exact shows_lowBits (by decide) bit
  | thread => exact shows_lowBits (by decide) bit

/-! ## What a call makes of the bits -/

variable {Party : Type}

/-- Whether a finished call takes a bit and has reported it: a clear, or a wait that clears,
that names the bit and returns a word with it. -/
def reports (bit : Nat) (call : Outcome Party Request UInt32) : Bool :=
  match call.request, call.result with
  | .clear mask, .ok bits => shows mask bit && shows bits bit
  | .wait mask _ true _, .ok bits => shows mask bit && shows bits bit
  | _, _ => false

@[simp]
theorem reports_error (bit : Nat) (party : Party) (request : Request) (error : Error) :
    reports bit ⟨party, request, .error error⟩ = false := by
  unfold reports
  split <;> simp_all

/-- What an action may make of a word, given the call that finishes in it. -/
structure Lawful (word next : FlagWord) (call? : Option (Outcome Party Request UInt32)) :
    Prop where
  /-- A bit is set by a set that names it. -/
  raised : ∀ bit, shows word.bits bit = false → shows next.bits bit = true →
    ∃ party mask, call? = some ⟨party, .set mask, .ok next.bits⟩ ∧ shows mask bit = true
  /-- A bit is cleared by a call that takes it and returns the word before. -/
  lowered : ∀ bit, shows word.bits bit = true → shows next.bits bit = false →
    ∃ call, call? = some call ∧ reports bit call = true ∧ call.result = .ok word.bits
  /-- A wait that succeeds returns the word that has satisfied it; a clearing one takes the
  bits that it names and no others. -/
  waited : ∀ party mask mode clear timeout bits,
    call? = some ⟨party, .wait mask mode clear timeout, .ok bits⟩ →
      bits = word.bits ∧ mode.isSatisfied bits mask = true ∧
        ∀ bit, shows next.bits bit = (shows word.bits bit && !(clear && shows mask bit))
  /-- A call that fails changes nothing. -/
  failed : ∀ party request error,
    call? = some ⟨party, request, .error error⟩ → next = word

/-- Whether a change sets a bit that was clear. -/
def raises (bit : Nat) (change : FlagWord × FlagWord) : Bool :=
  !shows change.1.bits bit && shows change.2.bits bit

variable {refusal : Request → Option Error} {word next : FlagWord}
  {call? : Option (Outcome Party Request UInt32)}

theorem lawful_of_change (changed : Change pass refusal word next call?) :
    Lawful word next call? := by
  cases changed with
  | quiet => constructor <;> simp_all
  | refused party request error refusal => constructor <;> simp_all
  | gaveUp party request condition timeout passed => constructor <;> simp_all
  | finished party request result next signals passed =>
      have done := word.does request
      rw [passed] at done
      cases done with
      | set mask valid => constructor <;> simp_all
      | cleared mask valid => constructor <;> simp_all [reports]
      | got => constructor <;> simp_all
      | kept mask mode timeout valid satisfied =>
          refine ⟨by simp_all, by simp_all, ?_, by simp⟩
          rintro _ _ _ _ _ _ ⟨⟩
          exact ⟨rfl, satisfied, by simp⟩
      | consumed mask mode timeout valid satisfied =>
          refine ⟨by simp_all, by simp_all [reports], ?_, by simp⟩
          rintro _ _ _ _ _ _ ⟨⟩
          exact ⟨rfl, satisfied, by simp⟩

/-- What the bits of a word change by is told by the call that finishes. -/
theorem balance_of_change (changed : Change pass refusal word next call?) (bit : Nat) :
    (shows word.bits bit).toNat + [(word, next)].countP (raises bit) =
      call?.toList.countP (reports bit) + (shows next.bits bit).toNat := by
  cases changed with
  | quiet => simp [raises]
  | refused party request error refusal => simp [raises]
  | gaveUp party request condition timeout passed => simp [raises]
  | finished party request result next signals passed =>
      have done := word.does request
      rw [passed] at done
      cases done with
      | set mask valid =>
          cases was : shows word.bits bit <;> cases named : shows mask bit <;>
            simp [raises, reports, was, named]
      | got => simp [raises, reports]
      | kept mask mode timeout valid satisfied => simp [raises, reports]
      | cleared mask valid | consumed mask mode timeout valid satisfied =>
          cases was : shows word.bits bit <;> cases named : shows mask bit <;>
            simp [raises, reports, was, named]

/-- A word of an owner that shows none but valid bits. -/
structure Proper (owner : FlagOwner) (word : FlagWord) : Prop where
  owner_eq : word.owner = owner
  valid_eq : word.valid = (ofOwner owner).valid
  within : word.bits &&& ~~~word.valid = 0

theorem Proper.start (owner : FlagOwner) : Proper owner (ofOwner owner) := by
  cases owner <;> exact ⟨rfl, rfl, rfl⟩

theorem Proper.change {owner : FlagOwner} (proper : word.Proper owner)
    (changed : Change pass refusal word next call?) : next.Proper owner := by
  have within := and_not_eq_zero_iff.mp proper.within
  cases changed with
  | quiet => exact proper
  | refused party request error refusal => exact proper
  | gaveUp party request condition timeout passed => exact proper
  | finished party request result next signals passed =>
      have done := word.does request
      rw [passed] at done
      cases done with
      | got => exact proper
      | kept mask mode timeout valid satisfied => exact proper
      | set mask valid =>
          refine ⟨proper.owner_eq, proper.valid_eq, and_not_eq_zero_iff.mpr ?_⟩
          intro bit shown
          rw [shows_or, Bool.or_eq_true] at shown
          exact shown.elim (within bit) (and_not_eq_zero_iff.mp valid bit)
      | cleared mask valid | consumed mask mode timeout valid satisfied =>
          refine ⟨proper.owner_eq, proper.valid_eq, and_not_eq_zero_iff.mpr ?_⟩
          intro bit shown
          rw [shows_and_not, Bool.and_eq_true] at shown
          exact within bit shown.1

theorem Proper.shows_lt {owner : FlagOwner} (proper : word.Proper owner) {bit : Nat}
    (shown : shows word.bits bit = true) : bit < width owner := by
  have valid := and_not_eq_zero_iff.mp proper.within bit shown
  rwa [proper.valid_eq, shows_valid, decide_eq_true_eq] at valid

theorem Proper.pass_invalid {owner : FlagOwner} (proper : word.Proper owner)
    {request : Request} {bit : Nat} (named : shows request.mask bit = true)
    (invalid : width owner ≤ bit) :
    word.pass request =
      .abort (.invalidFlagBits owner request.mask (ofOwner owner).valid) := by
  have outside : ¬request.mask &&& ~~~word.valid = 0 := by
    intro none
    have valid := and_not_eq_zero_iff.mp none bit named
    rw [proper.valid_eq, shows_valid, decide_eq_true_eq] at valid
    omega
  rw [pass, if_neg outside, proper.owner_eq, proper.valid_eq]

/-! ## Runs -/

section Runs

variable [DecidableEq Party] {run : Run Party FlagWord Request Condition UInt32}

theorem Proper.after (owner : FlagOwner) (actions : List (Action Party Request)) :
    ((Run.start (ofOwner owner) : Run Party FlagWord Request Condition UInt32).afterActions
      pass (refusal? owner) actions).monitor.object.Proper owner := by
  rcases (Run.Tracked.start (ofOwner owner)).change_induction (fun word _ => word.Proper owner)
    (fun _ _ _ _ proper changed => proper.change changed) (.start owner) actions with
    ⟨_, _, proper⟩
  exact proper

/-- From any moment on, what a word shows and what has been set since make up for what has
been reported. -/
theorem balance_after (tracked : run.Tracked) (actions : List (Action Party Request)) :
    ∃ calls, (run.afterActions pass refusal actions).finished = run.finished ++ calls ∧
      ∀ bit, (shows run.monitor.object.bits bit).toNat +
          (run.changes pass refusal actions).countP (raises bit) =
        calls.countP (reports bit) +
          (shows (run.afterActions pass refusal actions).monitor.object.bits bit).toNat := by
  induction actions generalizing run with
  | nil => exact ⟨[], (List.append_nil _).symm, fun bit => Nat.add_comm _ _⟩
  | cons action actions ih =>
      have change : ∃ call?,
          (run.act pass refusal action).finished = run.finished ++ call?.toList ∧
            Change pass refusal run.monitor.object
              (run.act pass refusal action).monitor.object call? :=
        tracked.act_change action
      have acted : (run.act pass refusal action).Tracked := tracked.act action
      rcases change with ⟨call?, finished, changed⟩
      rcases ih acted with ⟨calls, since, balanced⟩
      refine ⟨call?.toList ++ calls, ?_, fun bit => ?_⟩
      · rw [← List.append_assoc, ← finished]
        exact since
      · have first := balance_of_change changed bit
        have rest := balanced bit
        change _ = _ + (shows ((run.act pass refusal action).afterActions pass refusal
          actions).monitor.object.bits bit).toNat
        rw [Run.changes, ← List.singleton_append, List.countP_append, List.countP_append]
        omega

/--
No bit is lost, and none is reported twice. A word shows none but valid bits. Since any
moment a bit has been set as often as calls that take it have reported it, up to what the
word shows: if it is set and then not again, it is still there, or exactly one call has
reported it. Every action is lawful. A call that names an invalid bit changes nothing, and is
a fault unless it is refused.
-/
theorem bits_reported_once (owner : FlagOwner) (before since : List (Action Party Request)) :
    let earlier := (Run.start (ofOwner owner) :
      Run Party FlagWord Request Condition UInt32).afterActions pass (refusal? owner) before
    let run := earlier.afterActions pass (refusal? owner) since
    let word := run.monitor.object
    (∀ bit, shows word.bits bit → bit < width owner) ∧
      (∃ calls, run.finished = earlier.finished ++ calls ∧
        ∀ bit, (shows earlier.monitor.object.bits bit).toNat +
            (earlier.changes pass (refusal? owner) since).countP (raises bit) =
          calls.countP (reports bit) + (shows word.bits bit).toNat) ∧
      (∀ action,
        let next := run.act pass (refusal? owner) action
        ∃ call?, next.finished = run.finished ++ call?.toList ∧
          Lawful word next.monitor.object call?) ∧
      (∀ party request favourite bit, run.monitor.isWaiting party = false →
        shows request.mask bit → width owner ≤ bit →
        let fault : Progress UInt32 :=
          .aborted (.invalidFlagBits owner request.mask (ofOwner owner).valid)
        let event := .event (.call party request favourite)
        let interrupt := .interrupt party request favourite
        (run.act pass (refusal? owner) event).monitor = run.monitor ∧
          run.answer? pass (refusal? owner) event = some (party, fault) ∧
          (run.act pass (refusal? owner) interrupt).monitor = run.monitor ∧
          run.answer? pass (refusal? owner) interrupt =
            some (party, match refusal? owner request with
              | some error => .finished (.error error)
              | none => fault)) := by
  intro earlier run word
  have first : earlier.Tracked := (Run.Tracked.start _).afterActions before
  have tracked : run.Tracked := first.afterActions since
  have proper : word.Proper owner := by
    have whole := Proper.after owner (before ++ since)
    rwa [Run.afterActions_append] at whole
  refine ⟨fun bit shown => proper.shows_lt shown, balance_after first since, ?_, ?_⟩
  · intro action
    rcases tracked.act_change action with ⟨call?, finished, changed⟩
    exact ⟨call?, finished, lawful_of_change changed⟩
  · -- The fault comes before the lock, and in interrupt context the refusal before the fault.
    intro party request favourite bit free named invalid fault event interrupt
    have aborted := Monitor.step_call_of_abort free (proper.pass_invalid named invalid) favourite
    have answer : run.answer? pass (refusal? owner) event = some (party, fault) :=
      congrArg Prod.snd aborted
    have same : (run.act pass (refusal? owner) event).monitor = run.monitor :=
      congrArg Prod.fst aborted
    refine ⟨same, answer, ?_, ?_⟩
    · cases refused : refusal? owner request with
      | none => simpa [interrupt, Run.act, refused] using same
      | some error => simp [interrupt, Run.act, refused, free, Run.refuse]
    · cases refused : refusal? owner request with
      | none => simpa [interrupt, Run.answer?, refused] using answer
      | some error => simp [interrupt, Run.answer?, refused, free]

end Runs

/-- Two threads wait for one bit, with and without clearing it. The set wakes both; the one
that clears takes the bit, the other finds it gone and waits on. Bit 24 is a fault. -/
theorem bits_reported_once_contended :
    let earlier := (Run.start (ofOwner .event) :
      Run Nat FlagWord Request Condition UInt32).afterActions pass (refusal? .event)
        [.event (.call 1 (.wait 0x3 .any true .forever) none),
          .event (.call 2 (.wait 0x1 .all false .forever) none)]
    let since : List (Action Nat Request) :=
      [.interrupt 3 (.set 0x5) none, .event (.resume 1 none), .event (.resume 2 none)]
    let run := earlier.afterActions pass (refusal? .event) since
    (∃ calls, run.finished = earlier.finished ++ calls ∧
      (earlier.changes pass (refusal? .event) since).countP (raises 0) = 1 ∧
      calls.countP (reports 0) = 1) ∧
    run.monitor.object.bits = 0x4 ∧ run.monitor.isWaiting 2 = true ∧
    (run.monitor.isWaiting 1 = false ∧ shows 0x1000000 24 = true ∧ width .event ≤ 24) ∧
    run.answer? pass (refusal? .event) (.interrupt 1 (.set 0x1000000) none) =
      some (1, .aborted (.invalidFlagBits .event 0x1000000 (ofOwner .event).valid)) := by
  intro earlier since run
  rcases bits_reported_once .event
      [.event (.call 1 (.wait 0x3 .any true .forever) none),
        .event (.call 2 (.wait 0x1 .all false .forever) none)] since with
    ⟨_, ⟨calls, split, balanced⟩, _, faults⟩
  have raised : (earlier.changes pass (refusal? .event) since).countP (raises 0) = 1 := by decide
  have clear : shows earlier.monitor.object.bits 0 = false := by decide
  have taken : shows run.monitor.object.bits 0 = false := by decide
  have idle : run.monitor.isWaiting 1 = false := by decide
  have named : shows 0x1000000 24 = true := by decide
  refine ⟨⟨calls, split, raised, ?_⟩, by decide, by decide,
    ⟨idle, named, Nat.le_refl 24⟩, ?_⟩
  · have counted := balanced 0
    simp only [earlier, run] at raised clear taken
    rw [raised, clear, taken, Bool.toNat_false] at counted
    omega
  · exact (faults 1 (.set 0x1000000) none 24 idle named (Nat.le_refl 24)).2.2.2

/-- In interrupt context a refusal comes before a fault: a thread that clears a bit of its
own that is not valid is told that it may not clear any. -/
theorem not_every_invalid_call_aborts :
    ¬∀ (owner : FlagOwner) (actions : List (Action Nat Request)) party request favourite,
      let run := (Run.start (ofOwner owner) :
        Run Nat FlagWord Request Condition UInt32).afterActions pass (refusal? owner) actions
      run.monitor.isWaiting party = false →
      request.mask &&& ~~~run.monitor.object.valid ≠ 0 →
      ∃ fault, run.answer? pass (refusal? owner) (.interrupt party request favourite) =
        some (party, .aborted fault) := by
  intro all
  rcases all .thread [] 1 (.clear 0x80000000) none rfl (by decide) with ⟨fault, answered⟩
  cases answered

end FlagWord

end Sync

end Rtos
