/-!
# Thread identifiers

Numbers given to threads in the order in which they become known to the core. They
start at one and are never used again.
-/

namespace Rtos

structure ThreadId where
  number : Nat
  deriving DecidableEq

namespace ThreadId

/-- The form of an identifier in messages. -/
def label (id : ThreadId) : String :=
  s!"#{id.number}"

end ThreadId

end Rtos
