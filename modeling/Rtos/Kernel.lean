import Rtos.Record.Registry

/-!
# Kernels

The context that an application builds at start-up: its configuration, a registry of
its own whose opens report in the configured interval, and whether it has been
initialized, which happens once.
-/

namespace Rtos

structure Kernel (Party : Type) where
  config : KernelConfig
  registry : Registry Party
  initialized : Bool := false

namespace Kernel

variable {Party : Type}

def create (Party : Type) (config : KernelConfig) : Kernel Party :=
  { config, registry := { interval := config.warnInterval } }

/-- Initializes a kernel; a second time is an error. -/
def bringUp (kernel : Kernel Party) : Kernel Party × Except Error Unit × List LogEvent :=
  if kernel.initialized then (kernel, .error .invalidParameter, [])
  else ({ kernel with initialized := true }, .ok (), [.kernelUp kernel.config])

/-- The end of a kernel, which is as good as the end of its registry. -/
def teardown (kernel : Kernel Party) : Except Error Unit × List LogEvent :=
  let (result, events) := kernel.registry.teardown
  match result with
  | .ok () => (.ok (), events ++ [.kernelDown kernel.config])
  | .error error => (.error error, events ++ [.kernelTeardownFailed kernel.config error])

end Kernel

/-- The operations that delay their caller, as messages name them. -/
inductive Delay where
  | ticks
  | milliseconds
  | microseconds
  deriving DecidableEq

def Delay.name : Delay → String
  | ticks => "delay_tick"
  | milliseconds => "delay_ms"
  | microseconds => "delay_us"

end Rtos
