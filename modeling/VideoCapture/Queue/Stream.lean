import VideoCapture.Queue.Buffers
import VideoCapture.Queue.Events

/-!
# Capturing a stream

Capture is switched on and off. While it is on, buffers come back in the order in which they were
handed in, each as soon as it is finished.

## Main definitions

* `VideoCapture.Channel.streamOn`, `VideoCapture.Channel.streamOff` — the switch.
* `VideoCapture.Channel.dequeue` — takes the oldest buffer handed in, if it is finished.
* `VideoCapture.Channel.shutdown`, `VideoCapture.Channel.dispose` — the end of an opener and of the
  queue.
-/

set_option autoImplicit false

namespace VideoCapture.Channel

variable {δ : Type}

/-- Places those of the given buffers that are prepared, in order. -/
def placeAll (c : Channel δ) (now : Int) : List Nat → Except Fault (Channel δ)
  | [] => return c
  | index :: rest => do
    let buffer ← c.resident index
    let c ← if buffer.state = .prepared then c.place now index else pure c
    placeAll c now rest

/-- Starts capture with the buffers handed in, or resumes it after a fault. -/
def streamOn (c : Channel δ) (now : Int) : Except Fault (Except Error Unit × Channel δ) := do
  if c.streaming then
    match c.fault with
    | none => return (.error .busy, c)
    | some _ =>
      let c := stopEngine { c with fault := none }
      return (.ok (), ← c.restart now)
  else
    let c := { c with fault := none, streaming := true }
    return (.ok (), ← c.placeAll now c.stream)

/-- Takes the oldest buffer handed in, if it is finished. Otherwise the error tells why not: the
engine was stopped by a fault, capture is off, or the buffer is still in flight. -/
def dequeue (c : Channel δ) : Except Fault (Except Error Frame × Channel δ) := do
  match c.stream with
  | [] => return (.error .notStreaming, c)
  | index :: rest =>
    let buffer ← c.resident index
    if buffer.state.finished then
      let bytesUsed ←
        if buffer.state = .done then do pure (← c.scheduled index).geometry.imageBytes
        else pure 0
      let frame : Frame :=
        { index, state := buffer.state, sequence := buffer.sequence,
          timestamp := buffer.timestamp, bytesUsed }
      return (.ok frame, { c with stream := rest })
    else
      match c.fault with
      | some fault => return (.error (.hardwareFault fault), c)
      | none =>
        if c.streaming then return (.error .wouldBlock, c) else return (.error .notStreaming, c)

variable [DmaBackend δ]

/-- Stops capture and releases every buffer. The engine is stopped before anything is given back. -/
def streamOff (c : Channel δ) : Except Fault (Except Error Unit × Channel δ) := do
  if !c.streaming then return (.error .notStreaming, c)
  let c := c.stopEngine
  let given := c.buffers.map fun buffer => { buffer with state := .error }
  let (buffers, dma) ← releaseAll c.dma 0 given
  return (.ok (), { c with
    buffers
    stream := []
    queued := []
    active := []
    streaming := false
    deadline := none
    fault := none
    sequence := 0
    dma })

/-- Stops capture and gives up every buffer, as the end of the opener that owns them. -/
def shutdown (c : Channel δ) : Except Fault (Channel δ) := do
  let c ← if c.streaming then do pure (← c.streamOff).2 else pure c
  return (← c.requestBuffers 0 0).2

/-- Ends the queue: the engine is stopped, and the programs of the buffers and the stopper are given
back. -/
def dispose (c : Channel δ) : RegisterFile × δ :=
  let c := c.stopEngine
  let programs := c.buffers.filterMap fun buffer => buffer.setup.map Setup.program
  (c.regs, (programs ++ [c.stopper]).foldl (fun dma program => program.discard dma) c.dma)

end VideoCapture.Channel
