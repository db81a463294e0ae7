/-!
# Recoverable errors

The conditions a call of the core reports instead of a result. They say that a
call could not do its work now or here; mistakes of the program itself are
faults and have their own module.
-/

namespace Rtos

/-- A recoverable condition reported by a call. -/
inductive Error where
  | timeout
  /-- A poll found nothing to be had, or a counter is already at its limit. -/
  | resource
  /-- A call that may block was made in interrupt context. -/
  | wouldBlockInInterrupt
  /-- A call that is not allowed in interrupt context was made there. -/
  | invalidInInterrupt
  /-- A mutex was released by a thread that does not own it. -/
  | notOwned
  | outOfBounds
  /-- An argument names nothing, or the call came a second time. -/
  | invalidParameter
  /-- A format is malformed, or its arguments do not match it. -/
  | invalidFormat
  /-- Memory for the request could not be had. -/
  | outOfMemory
  | inUse
  deriving DecidableEq

namespace Error

/-- Every error, in declaration order. -/
def all : List Error :=
  [timeout, resource, wouldBlockInInterrupt, invalidInInterrupt, notOwned, outOfBounds,
    invalidParameter, invalidFormat, outOfMemory, inUse]

def name : Error → String
  | timeout => "Timeout"
  | resource => "Resource"
  | wouldBlockInInterrupt => "WouldBlockInInterrupt"
  | invalidInInterrupt => "InvalidInInterrupt"
  | notOwned => "NotOwned"
  | outOfBounds => "OutOfBounds"
  | invalidParameter => "InvalidParameter"
  | invalidFormat => "InvalidFormat"
  | outOfMemory => "OutOfMemory"
  | inUse => "InUse"

def ofName? (text : String) : Option Error :=
  all.find? (·.name == text)

/-- The description of an error as a sentence of its own. -/
def description : Error → String
  | timeout => "Operation timed out"
  | resource => "Resource not available"
  | wouldBlockInInterrupt => "Blocking call attempted from interrupt context"
  | invalidInInterrupt => "Operation not allowed from interrupt context"
  | notOwned => "Calling thread does not own the mutex"
  | outOfBounds => "Index out of bounds"
  | invalidParameter => "Invalid parameter"
  | invalidFormat => "Invalid format string or argument"
  | outOfMemory => "Out of memory"
  | inUse => "Resource still in use"

/-- The description of an error as it appears inside a longer message. -/
def message : Error → String
  | timeout => "operation timed out"
  | resource => "resource not available"
  | wouldBlockInInterrupt => "blocking call attempted from interrupt context"
  | invalidInInterrupt => "operation not allowed from interrupt context"
  | notOwned => "calling thread does not own the mutex"
  | outOfBounds => "index out of bounds"
  | invalidParameter => "invalid parameter"
  | invalidFormat => "invalid format string or argument"
  | outOfMemory => "out of memory"
  | inUse => "resource still in use"

/-- Whether the error comes from a bounded wait that ran out, as opposed to a poll. -/
def isTimeout (error : Error) : Bool :=
  error == timeout

end Error

end Rtos
