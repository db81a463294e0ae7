import Rtos.ByteString.Basic
import Rtos.ByteString.Command
import Rtos.ByteString.Print
import Rtos.ByteString.Replace
import Rtos.ByteString.Shelf
import Rtos.ByteString.Text
import Rtos.ByteString.Trim
import Rtos.Bytes
import Rtos.Bytes.Order
import Rtos.Bytes.Search
import Rtos.Config
import Rtos.Error
import Rtos.Fault
import Rtos.Format.Argument
import Rtos.Format.Directive
import Rtos.Format.Field
import Rtos.Format.Integer
import Rtos.Format.Operand
import Rtos.Format.Print
import Rtos.Format.Real
import Rtos.Kernel
import Rtos.Log
import Rtos.Machine.Basic
import Rtos.Machine.Call
import Rtos.Machine.Guard
import Rtos.Machine.Label
import Rtos.Machine.Object
import Rtos.Machine.Perform
import Rtos.Machine.Records
import Rtos.Machine.Rest
import Rtos.Machine.Script
import Rtos.Machine.Store
import Rtos.Machine.Threads
import Rtos.Number.Decimal
import Rtos.Number.Digits
import Rtos.Number.Floating
import Rtos.Proofs.ByteString.Checked
import Rtos.Proofs.ByteString.CheckedCommand
import Rtos.Proofs.ByteString.Content
import Rtos.Proofs.ByteString.Meaning
import Rtos.Proofs.ByteString.Searching
import Rtos.Proofs.ByteString.ShelfRun
import Rtos.Proofs.ByteString.Substitution
import Rtos.Proofs.ByteString.Trimming
import Rtos.Proofs.Bytes.Comparison
import Rtos.Proofs.Bytes.Occurrence
import Rtos.Proofs.Bytes.Preorder
import Rtos.Proofs.Format.Acceptance
import Rtos.Proofs.Format.Composition
import Rtos.Proofs.Format.Grammar
import Rtos.Proofs.Format.IntegerText
import Rtos.Proofs.Format.Kinds
import Rtos.Proofs.Format.Positional
import Rtos.Proofs.Format.RealText
import Rtos.Proofs.Format.Width
import Rtos.Proofs.Machine.Frame
import Rtos.Proofs.Machine.Interrupt
import Rtos.Proofs.Machine.Lives
import Rtos.Proofs.Machine.Nesting
import Rtos.Proofs.Machine.Prompt
import Rtos.Proofs.Number.Numeral
import Rtos.Proofs.Number.Rounding
import Rtos.Proofs.Record.Accounting
import Rtos.Proofs.Record.Awake
import Rtos.Proofs.Record.Balance
import Rtos.Proofs.Record.Coherence
import Rtos.Proofs.Record.Diagnostics
import Rtos.Proofs.Record.History
import Rtos.Proofs.Record.Independence
import Rtos.Proofs.Record.Interleaving
import Rtos.Proofs.Record.Moment
import Rtos.Proofs.Record.Resolution
import Rtos.Proofs.Record.Transition
import Rtos.Proofs.Record.View
import Rtos.Proofs.Sync.Bits
import Rtos.Proofs.Sync.Calls
import Rtos.Proofs.Sync.Changes
import Rtos.Proofs.Sync.Delivery
import Rtos.Proofs.Sync.Expiry
import Rtos.Proofs.Sync.Guards
import Rtos.Proofs.Sync.Ownership
import Rtos.Proofs.Sync.Representation
import Rtos.Proofs.Sync.Run
import Rtos.Proofs.Sync.Settle
import Rtos.Proofs.Sync.Tokens
import Rtos.Proofs.Sync.Waiters
import Rtos.Proofs.Sync.Wakeup
import Rtos.Proofs.Thread.Identity
import Rtos.Proofs.Thread.Lifetime
import Rtos.Proofs.Thread.Table
import Rtos.Proofs.Utf8.Accumulator
import Rtos.Proofs.Utf8.Decoding
import Rtos.Proofs.Utf8.Forms
import Rtos.Proofs.Utf8.Overlong
import Rtos.Proofs.Utf8.Readings
import Rtos.Proofs.Utf8.RoundTrip
import Rtos.Proofs.Utf8.Segments
import Rtos.Proofs.Utf8.WellFormed
import Rtos.Record.Description
import Rtos.Record.Directory
import Rtos.Record.Opening
import Rtos.Record.Registry
import Rtos.Record.Slot
import Rtos.Sync.FlagWord
import Rtos.Sync.Monitor
import Rtos.Sync.Mutex
import Rtos.Sync.Queue
import Rtos.Sync.Semaphore
import Rtos.Text.Aligned
import Rtos.Text.Hidden
import Rtos.Text.Quoted
import Rtos.Thread.Id
import Rtos.Thread.Table
import Rtos.Timeout
import Rtos.Utf8.Characters
import Rtos.Utf8.Decoder
import Rtos.Utf8.Encoding
import Rtos.Utf8.WellFormed
import Rtos.Value
