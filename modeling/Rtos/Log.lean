import Rtos.Config
import Rtos.Fault

/-!
# The log

What the core reports while it runs, as events, and the lines in which they are
written: a level, the part of the core that speaks, and a text.
-/

namespace Rtos

/-- The text of a duration in the largest unit of which it has one, without trailing zeros. -/
def Duration.text (duration : Duration) : String :=
  let inUnit (unit places : Nat) (symbol : String) : String :=
    let fraction := Number.zeroFilled places (Number.decimal (duration.nanoseconds % unit))
    let shown := (fraction.reverse.dropWhile (· == 0x30)).reverse
    Utf8.lossyText
      (Number.decimal (duration.nanoseconds / unit) ++
        if duration.nanoseconds % unit = 0 then [] else 0x2E :: shown) ++ symbol
  if 1000000000 ≤ duration.nanoseconds then inUnit 1000000000 9 "s"
  else if 1000000 ≤ duration.nanoseconds then inUnit 1000000 6 "ms"
  else if 1000 ≤ duration.nanoseconds then inUnit 1000 3 "µs"
  else inUnit 1 0 "ns"

/-- Something the core reports. -/
inductive LogEvent where
  /-- A thread that was not started by the core became known to it. -/
  | adopted (thread : ThreadId)
  /-- A thread started by the core began to run. -/
  | started (thread : ThreadId)
  | exited (thread : ThreadId)
  | spawnFailed (thread : ThreadId)
  /-- A guard could not release its mutex. -/
  | guardReleaseFailed (error : Error)
  | queueReset (dropped : Nat)
  | created (name : Bytes) (holders : Nat)
  | opened (name : Bytes)
  /-- An open has waited for one more interval. -/
  | stillWaiting (name : Bytes) (interval : Duration)
  | closed (name : Bytes)
  /-- A record was not destroyed because it is held. -/
  | destroyRefused (name : Bytes) (holders : Nat)
  | destroyed (name : Bytes)
  /-- A registry was torn down although a record was held. -/
  | heldAtTeardown (name : Bytes) (holders : Nat)
  | released (count : Nat)
  | kernelUp (config : KernelConfig)
  | kernelDown (config : KernelConfig)
  /-- A kernel was torn down although a record was held. -/
  | kernelTeardownFailed (config : KernelConfig) (error : Error)
  /-- A part of the core found a fault. -/
  | fault (part text : String)
  deriving DecidableEq

namespace LogEvent

/-- The report of a fault, if there is one. -/
def ofFault? (cause : Fault) : Option LogEvent :=
  cause.report?.map fun (part, text) => .fault part text

def level : LogEvent → String
  | spawnFailed _ => "ERROR"
  | guardReleaseFailed _ => "ERROR"
  | fault _ _ => "ERROR"
  | stillWaiting _ _ => "WARN"
  | heldAtTeardown _ _ => "WARN"
  | kernelTeardownFailed _ _ => "WARN"
  | _ => "DEBUG"

/-- The part of the core that reports an event. -/
def target : LogEvent → String
  | adopted _ => "Thread"
  | started _ => "Thread"
  | exited _ => "Thread"
  | spawnFailed _ => "Thread"
  | guardReleaseFailed _ => "FurryMutex"
  | queueReset _ => "FurryQueue"
  | kernelUp _ => "Kernel"
  | kernelDown _ => "Kernel"
  | kernelTeardownFailed _ _ => "Kernel"
  | fault part _ => part
  | _ => "Record"

def text : LogEvent → String
  | adopted thread => s!"adopted thread {thread.label}"
  | started thread => s!"thread {thread.label} started"
  | exited thread => s!"thread {thread.label} exited"
  | spawnFailed thread => s!"spawn of thread {thread.label} failed"
  | guardReleaseFailed error => s!"guard release failed: {error.message}"
  | queueReset dropped => s!"reset dropped {dropped} messages"
  | created name holders => s!"created {Record.descriptionText name holders}"
  | opened name => s!"opened {Record.nameText name}"
  | stillWaiting name interval =>
      s!"still waiting for {Record.nameText name} after {interval.text}"
  | closed name => s!"closed {Record.nameText name}"
  | destroyRefused name holders => s!"destroy refused for {Record.descriptionText name holders}"
  | destroyed name => s!"destroyed {Record.nameText name}"
  | heldAtTeardown name holders =>
      s!"teardown with {Record.descriptionText name holders} still held"
  | released count => s!"teardown released {count} records"
  | kernelUp config =>
      s!"{config.name} up, tick {tickFrequency} Hz, default stack {config.stackSize} bytes"
  | kernelDown config => s!"{config.name} down"
  | kernelTeardownFailed config error => s!"{config.name} teardown: {error.message}"
  | fault _ text => text

def line (event : LogEvent) : String :=
  s!"{event.level} {event.target} {event.text}"

end LogEvent

end Rtos
