import VideoCapture.Buffer
import VideoCapture.Engine

/-!
# The capture queue

A queue owns a set of buffers and keeps three lists of them. The stream holds every buffer handed in
and not yet handed back, in order. Of these, the active ones are linked into the chain that the
engine executes: the tail of each program jumps to the next, and the last jumps to the stopper. The
queued ones wait for the chain to end, because their geometry cannot follow it or others wait
before them.

Operations are taken one at a time, in the order in which they get hold of the queue, and the time
is handed to those that need it. Who waits for the queue or for a frame, how the waiting are woken,
what the processor may reorder and what is logged is not described.

## Main definitions

* `VideoCapture.CaptureQueue` — the state of a queue.
* `VideoCapture.Channel` — a queue with the registers and the backend it works on.
* `VideoCapture.BufferInfo`, `VideoCapture.Frame`, `VideoCapture.QueueStats` — what users see.
-/

set_option autoImplicit false

namespace VideoCapture

/-! ## What users see -/

/-- The counters of a queue. Nothing reads them but users, and they are taken to go on without end:
the driver's have 64 bits each. -/
structure QueueStats where
  /-- Frames captured. -/
  framesCompleted : Nat := 0
  /-- Frames given up. -/
  framesFailed : Nat := 0
  /-- Bytes of the frames captured. -/
  bytesCaptured : Nat := 0
  /-- Buffers appended to a running chain. -/
  chained : Nat := 0
  /-- Starts of the engine. -/
  starts : Nat := 0
  /-- Recoveries from a stall. -/
  timeouts : Nat := 0
  /-- Stops because of a fault. -/
  faults : Nat := 0
  /-- Completions that found the engine in the stopper. -/
  stopperHits : Nat := 0
  deriving DecidableEq

/-- A buffer as users see it. -/
structure BufferInfo where
  /-- Its stage. -/
  state : BufferState
  /-- Where its program begins. -/
  programAddress : Option UInt32
  /-- Where its program's tail jumps to. -/
  tailTarget : Option UInt32
  /-- Its position in the current run of the engine. -/
  position : Nat
  /-- The number of the frame it captured last. -/
  sequence : UInt32
  deriving DecidableEq

/-- A frame handed back. -/
structure Frame where
  /-- Index of the buffer that holds it. -/
  index : Nat
  /-- Done or in error. -/
  state : BufferState
  /-- Number of the frame. -/
  sequence : UInt32
  /-- When it was captured. -/
  timestamp : Option Int
  /-- Bytes of the frame; none if it was given up. -/
  bytesUsed : Nat
  deriving DecidableEq

/-- What a user can learn about a buffer. -/
def CaptureBuffer.info (buffer : CaptureBuffer) : BufferInfo where
  state := buffer.state
  programAddress := buffer.setup.map fun setup => setup.program.address
  tailTarget := buffer.setup.map fun setup => setup.program.tailTarget
  position := buffer.position
  sequence := buffer.sequence

/-! ## The queue -/

/-- The last instant that the clock can tell, in milliseconds. It has 64 bits for the seconds, one
of which is their sign. -/
def lastInstant : Int := 0x8000000000000000 * 1000 - 1

/-- The state of a capture queue. -/
structure CaptureQueue where
  /-- The buffers, by index. -/
  buffers : List CaptureBuffer := []
  /-- Buffers handed in and not yet handed back. -/
  stream : List Nat := []
  /-- Buffers that wait for the running chain to end. -/
  queued : List Nat := []
  /-- Buffers in the running chain. -/
  active : List Nat := []
  /-- The program that parks the engine. -/
  stopper : Program
  /-- The next position in the current run of the engine. -/
  count : Nat := 0
  /-- The number of the next frame. -/
  sequence : UInt32 := 0
  /-- When the running chain counts as stalled. -/
  deadline : Option Int := none
  /-- Whether capture is on. -/
  streaming : Bool := false
  /-- The fault that stopped the engine, until capture is resumed. -/
  fault : Option UInt32 := none
  /-- What is remembered about the engine. -/
  engine : Engine := {}
  /-- The counters. -/
  stats : QueueStats := {}
  /-- Faults not yet reported, oldest first. -/
  backlog : List UInt32 := []
  /-- How long a chain may complete nothing before it counts as stalled. -/
  timeout : Nat
  /-- Whether lines report their offset in their chunk. -/
  lineOffset : LineOffset
  deriving DecidableEq

namespace CaptureQueue

/-- How many faults are kept for reporting. -/
def backlogSize : Nat := 16

/-- The index of a buffer, for use by operations, if there is such a buffer. -/
def handle (q : CaptureQueue) (index : Nat) : Except Error Nat :=
  if index < q.buffers.length then .ok index else .error .invalidArgument

/-- What a user can learn about a buffer, if it exists. -/
def info? (q : CaptureQueue) (index : Nat) : Option BufferInfo :=
  q.buffers[index]?.map CaptureBuffer.info

/-- The program of a buffer, if it has one. -/
def program? (q : CaptureQueue) (index : Nat) : Option Program := do
  let buffer ← q.buffers[index]?
  let setup ← buffer.setup
  return setup.program

/-- A buffer that a list of the queue refers to. -/
def resident (q : CaptureQueue) (index : Nat) : Except Fault CaptureBuffer :=
  match q.buffers[index]? with
  | some buffer => .ok buffer
  | none => .error (.notResident index)

/-- What a scheduled buffer holds. -/
def scheduled (q : CaptureQueue) (index : Nat) : Except Fault Setup := do
  let buffer ← q.resident index
  match buffer.setup with
  | some setup => return setup
  | none => throw (.noProgram index)

/-- Changes one buffer. -/
def modify (q : CaptureQueue) (index : Nat) (change : CaptureBuffer → CaptureBuffer) :
    CaptureQueue :=
  { q with buffers := q.buffers.modify index change }

/-- Takes the oldest fault that has not been reported. -/
def takeFault (q : CaptureQueue) : Option UInt32 × CaptureQueue :=
  match q.backlog with
  | [] => (none, q)
  | fault :: rest => (some fault, { q with backlog := rest })

end CaptureQueue

/-! ## The queue in its surroundings -/

/-- A capture queue with the registers of its chip and the backend it gets its memory from. -/
structure Channel (δ : Type) extends CaptureQueue where
  /-- The registers of the chip. -/
  regs : RegisterFile
  /-- The backend. -/
  dma : δ

namespace Channel

variable {δ : Type}

/-- Stops the engine. -/
def stopEngine (c : Channel δ) : Channel δ :=
  let (engine, regs) := c.engine.stop c.regs
  { c with engine, regs }

/-- Masks every interrupt source. -/
def maskAll (c : Channel δ) : Channel δ :=
  let (engine, regs) := c.engine.maskAll c.regs
  { c with engine, regs }

end Channel

end VideoCapture
