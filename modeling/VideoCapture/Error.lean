import VideoCapture.Text.Hex

/-!
# Errors of capture operations

An operation that cannot be carried out as asked answers with an `Error` and leaves the device
usable. Broken assertions are not errors; they are faults (`VideoCapture.Fault`).

## Main definitions

* `VideoCapture.Error` — the causes an operation may be refused for.
* `VideoCapture.Error.number` — the number the system interface reports for a cause.
* `VideoCapture.Error.message` — the wording of a cause.
-/

set_option autoImplicit false

namespace VideoCapture

/-- Why a capture operation was refused. -/
inductive Error where
  /-- A program, a mapping or the stopper could not be allocated. -/
  | outOfMemory
  /-- A geometry, format, index or control value was rejected. -/
  | invalidArgument
  /-- The resource is held by another opener, or the buffer is in flight. -/
  | busy
  /-- No finished buffer is waiting, and the caller did not want to wait. -/
  | wouldBlock
  /-- Capture is not running. -/
  | notStreaming
  /-- The engine was stopped by a fault interrupt with these status bits. -/
  | hardwareFault (status : UInt32)
  /-- There is no such device. -/
  | noDevice
  /-- A bus address lies outside the 32-bit window of the engine. -/
  | addressRange
  /-- Any other failure of input or output. -/
  | io
  deriving DecidableEq

namespace Error

/-- The number that the system interface reports for an error. -/
def number : Error → Nat
  | outOfMemory => 12
  | invalidArgument => 22
  | busy => 16
  | wouldBlock => 11
  | notStreaming => 22
  | hardwareFault _ => 5
  | noDevice => 19
  | addressRange => 14
  | io => 5

/-- The wording of an error. -/
def message : Error → String
  | outOfMemory => "Out of DMA memory"
  | invalidArgument => "Invalid argument"
  | busy => "Resource busy"
  | wouldBlock => "No buffer ready"
  | notStreaming => "Capture not streaming"
  | hardwareFault status => s!"Hardware fault (status {Text.hex status.toNat})"
  | noDevice => "No such device"
  | addressRange => "Bus address out of range"
  | io => "I/O error"

end Error

end VideoCapture
