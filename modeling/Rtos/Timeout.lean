import Rtos.Error

/-!
# Durations, kernel ticks and timeouts

Every blocking call takes a timeout: a poll that does not wait, a bounded wait,
or a wait without limit. One kernel tick is one millisecond.
-/

namespace Rtos

/-- A length of time in whole nanoseconds. -/
structure Duration where
  nanoseconds : Nat
  deriving DecidableEq

namespace Duration

/-- Seconds and further nanoseconds as one duration. -/
def ofParts (seconds nanoseconds : Nat) : Duration :=
  ⟨seconds * 1000000000 + nanoseconds⟩

def ofMilliseconds (milliseconds : Nat) : Duration :=
  ⟨milliseconds * 1000000⟩

def seconds (duration : Duration) : Nat :=
  duration.nanoseconds / 1000000000

/-- The nanoseconds of a duration past its whole seconds. -/
def subsecond (duration : Duration) : Nat :=
  duration.nanoseconds % 1000000000

def milliseconds (duration : Duration) : Nat :=
  duration.nanoseconds / 1000000

def add (left right : Duration) : Duration :=
  ⟨left.nanoseconds + right.nanoseconds⟩

def year : Duration :=
  ofParts (365 * 24 * 60 * 60) 0

end Duration

/-- How often the kernel ticks in a second. -/
def tickFrequency : Nat := 1000

/-- The whole ticks in a number of milliseconds, as a 32-bit count. -/
def ticksOfMilliseconds (milliseconds : UInt32) : UInt32 :=
  UInt32.ofNat (milliseconds.toNat * tickFrequency / 1000)

/-- The whole milliseconds in a number of ticks, as a 32-bit count. -/
def millisecondsOfTicks (ticks : UInt32) : UInt32 :=
  UInt32.ofNat (ticks.toNat * 1000 / tickFrequency)

inductive Timeout where
  /-- The call gives up once the duration has passed; a zero duration is a poll. -/
  | within (limit : Duration)
  /-- The call waits until it can complete. -/
  | forever
  deriving DecidableEq

/-- The end of a wait, seen from its start. -/
inductive Deadline where
  | never
  /-- The wait ends exactly one timeout after its start. -/
  | exact
  /-- The exact end is not representable and the wait ends a year after its start. -/
  | capped
  deriving DecidableEq

namespace Timeout

/-- The timeout of a call that does not wait. -/
def poll : Timeout :=
  within ⟨0⟩

/-- A bounded wait of whole milliseconds. -/
def ofMilliseconds (milliseconds : Nat) : Timeout :=
  within (.ofMilliseconds milliseconds)

/-- A wait in kernel ticks, where the largest count means no limit. -/
def ofTicks (ticks : UInt32) : Timeout :=
  if ticks = 0xFFFFFFFF then forever else ofMilliseconds (millisecondsOfTicks ticks).toNat

/-- Whether the call must not wait at all. -/
def isPoll : Timeout → Bool
  | within limit => limit.nanoseconds == 0
  | forever => false

def isForever : Timeout → Bool
  | within _ => false
  | forever => true

def duration? : Timeout → Option Duration
  | within limit => some limit
  | forever => none

/-- The error of a call that gave up under this timeout. -/
def expiredError (timeout : Timeout) : Error :=
  if timeout.isPoll then .resource else .timeout

/-- The number of seconds from which on an instant is not representable. -/
def instantLimit : Nat := Nat.pow 2 63

/-- The instant at which a wait that starts now gives up. -/
def deadline? (timeout : Timeout) (now : Duration) : Option Duration :=
  timeout.duration?.map fun limit =>
    if (now.add limit).seconds < instantLimit then now.add limit else now.add .year

/-- How the deadline of a wait that starts now is formed. -/
def deadlineForm (timeout : Timeout) (now : Duration) : Deadline :=
  match timeout.duration? with
  | none => .never
  | some limit => if (now.add limit).seconds < instantLimit then .exact else .capped

end Timeout

end Rtos
