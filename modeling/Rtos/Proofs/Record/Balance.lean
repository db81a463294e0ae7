import Rtos.Proofs.Record.Transition

/-!
# The balance of holds

The number of holders of a record stands for the opens that have taken their hold and
have neither given it back nor been closed. Two counts carry this through every event:
each hold that was taken is still counted, was given back or was closed, and each open
that has begun is in progress or has ended in one of three ways.

No more opens are closed than have returned, so the opens in progress are among the
holders. None of them finds its hold gone, and a record that is removed leaves no open
behind.
-/

namespace Rtos

namespace Record

namespace Slot

variable {Party : Type}

/-- The counts of the holds and of the opens of a name agree with its history. -/
structure Balanced (slot : Slot Party) (history : History Party) : Prop where
  /-- A hold that was taken is counted, was given back or was closed. -/
  holds : slot.holders + history.countP Note.isGaveBack + history.countP Note.isClosed =
    history.countP Note.isTook
  /-- An open that has begun is in progress, has returned, has ended in a fault or failed. -/
  opens : slot.parties.length + history.countP Note.isReturned +
    history.countP Note.isAborted + history.countP Note.isGaveBack =
    history.countP Note.isTook
  closes : history.countP Note.isClosed ≤ history.countP Note.isReturned
  distinct : slot.parties.Nodup

namespace Balanced

variable {slot : Slot Party} {history : History Party} (balanced : slot.Balanced history)

omit balanced in
theorem start : Balanced ({} : Slot Party) [] := by
  constructor <;> simp [holders, parties]

include balanced

theorem parties_le_holders : slot.parties.length ≤ slot.holders := by
  have holds := balanced.holds
  have opens := balanced.opens
  have closes := balanced.closes
  omega

theorem held_of_present {opening : Opening Party} (present : opening ∈ slot.openings) :
    0 < slot.holders := by
  have few := balanced.parties_le_holders
  have busy : 0 < slot.parties.length := by
    simpa [parties] using List.length_pos_of_mem present
  omega

theorem openings_of_unheld (unheld : slot.holders = 0) : slot.openings = [] := by
  have few := balanced.parties_le_holders
  simpa [unheld, parties] using few

theorem held_of_permits (permitted : history.Permits .close) : 0 < slot.holders := by
  have holds := balanced.holds
  have opens := balanced.opens
  have fewer := permitted rfl
  omega

theorem of_counts {next : Slot Party} (holders : next.holders = slot.holders)
    (parties : next.parties = slot.parties) : next.Balanced history where
  holds := by rw [holders]; exact balanced.holds
  opens := by rw [parties]; exact balanced.opens
  closes := balanced.closes
  distinct := by rw [parties]; exact balanced.distinct

theorem length_leave [DecidableEq Party] {opening : Opening Party}
    (present : opening ∈ slot.openings) :
    (slot.leave opening.party).parties.length + 1 = slot.parties.length := by
  have member : opening.party ∈ slot.parties := List.mem_map_of_mem present
  rw [parties_leave, ← balanced.distinct.erase_eq_filter]
  have shorter := List.length_erase_of_mem member
  have busy := List.length_pos_of_mem member
  omega

theorem distinct_leave [DecidableEq Party] {party : Party} :
    (slot.leave party).parties.Nodup := by
  rw [parties_leave]
  exact balanced.distinct.filter _

/-! ### Holds that are taken and given back -/

section Holds

variable {opening : Opening Party} {record : Record}

theorem took {party : Party} (wanted : ValueType) (patience : Patience)
    (free : party ∉ slot.parties) :
    (slot.hold party wanted patience).Balanced (history.after (some (.took party))) := by
  have holds := balanced.holds
  have opens := balanced.opens
  constructor
  · simp
    omega
  · simp
    omega
  · simpa using balanced.closes
  · rw [parties_hold, List.nodup_append]
    simpa using ⟨balanced.distinct, fun other member same => free (same ▸ member)⟩

theorem returned [DecidableEq Party] (present : opening ∈ slot.openings) (value : Value) :
    (slot.leave opening.party).Balanced
      (history.after (some (.returned opening.party value))) := by
  have opens := balanced.opens
  have closes := balanced.closes
  have fewer := balanced.length_leave present
  constructor
  · simpa using balanced.holds
  · simp [-parties_leave]
    omega
  · simp
    omega
  · exact balanced.distinct_leave

theorem aborted [DecidableEq Party] (present : opening ∈ slot.openings) (fault : Fault) :
    (slot.leave opening.party).Balanced
      (history.after (some (.aborted opening.party fault))) := by
  have opens := balanced.opens
  have fewer := balanced.length_leave present
  constructor
  · simpa using balanced.holds
  · simp [-parties_leave]
    omega
  · simpa using balanced.closes
  · exact balanced.distinct_leave

theorem gaveBack [DecidableEq Party] (present : opening ∈ slot.openings) (error : Error)
    (found : slot.record = some record) (held : 0 < record.holders) :
    ((slot.put { record with holders := record.holders - 1 }).leave opening.party).Balanced
      (history.after (some (.gaveBack opening.party error))) := by
  have holds := balanced.holds
  have opens := balanced.opens
  have fewer := balanced.length_leave present
  have counted := slot.holders_of_record found
  constructor
  · simp
    omega
  · simp [leave_put, -parties_leave]
    omega
  · simpa using balanced.closes
  · exact balanced.distinct_leave

theorem closed (permitted : history.Permits .close) (found : slot.record = some record)
    (held : 0 < record.holders) :
    (slot.put { record with holders := record.holders - 1 }).Balanced
      (history.after (some .closed)) := by
  have holds := balanced.holds
  have counted := slot.holders_of_record found
  have fewer := permitted rfl
  constructor
  · simp
    omega
  · simpa using balanced.opens
  · simp
    omega
  · simpa using balanced.distinct

theorem removed (found : slot.record = some record) (unheld : record.holders = 0) :
    Balanced { slot with record := none } (history.after (some .removed)) := by
  have holds := balanced.holds
  have counted := slot.holders_of_record found
  constructor
  · simp [holders]
    omega
  · simpa using balanced.opens
  · simpa using balanced.closes
  · exact balanced.distinct

end Holds

/-- Every transition keeps the balance, as long as closes are permitted. -/
theorem transition [DecidableEq Party] {name : Bytes} {event : Event Party}
    {next : Slot Party} {answer : Answer} (permitted : history.Permits event)
    (transition : slot.Transition name event next answer) :
    next.Balanced (history.after (slot.note? event answer)) := by
  cases transition with
  | busy party wanted patience begun => simpa [slot.note?_busy begun] using balanced
  | waited event party own => simpa [slot.note?_pending own] using balanced
  | published data pending =>
      constructor <;>
        simp [note?, balanced.holds, balanced.opens, balanced.closes, balanced.distinct]
  | publishedTwice data record found published => simpa [note?] using balanced
  | took party wanted patience free =>
      rw [slot.note?_hold free]
      exact balanced.took wanted patience free
  | looked event opening stage present own seen =>
      rw [slot.note?_pending own, History.after_none]
      exact balanced.of_counts (holders_moveTo ..) (parties_moveTo ..)
  | returned opening value present woken fetched => exact balanced.returned present value
  | aborted opening fault present woken fetched => exact balanced.aborted present fault
  | gaveBack opening error record present failed found held =>
      exact balanced.gaveBack present error found held
  | lost opening present unheld =>
      have held := balanced.held_of_present present
      omega
  | closed record found held => exact balanced.closed permitted found held
  | closedTooOften unheld =>
      have held := balanced.held_of_permits permitted
      omega
  | removed record found unheld => exact balanced.removed found unheld
  | stayed refused => simpa [note?] using balanced

end Balanced

end Slot

end Record

end Rtos
