import VideoCapture.Arithmetic
import VideoCapture.Queue.Basic

/-!
# The chain of active buffers

The engine runs from program to program along their tails. A buffer is spliced onto the running
chain by pointing the tail of the last program at its own, which is possible as long as the decoder
need not be set up anew. Otherwise it waits, and when the chain has ended the longest run of waiting
buffers that can follow each other becomes the next chain.

## Main definitions

* `VideoCapture.Channel.place` — finds the place of a buffer newly handed in.
* `VideoCapture.Channel.startHead` — starts the engine on the chain.
* `VideoCapture.Channel.restart` — makes a new chain and starts it.
* `VideoCapture.CaptureQueue.completeHead` — retires the head of the chain as done.
* `VideoCapture.CaptureQueue.failActive` — gives up the whole chain.
-/

set_option autoImplicit false

namespace VideoCapture

namespace CaptureQueue

/-! ## Links -/

/-- Points the tail of a buffer's program at an address, with an interrupt. -/
def pointTail (q : CaptureQueue) (index : Nat) (target : UInt32) : CaptureQueue :=
  q.modify index fun buffer =>
    { buffer with setup := buffer.setup.map fun setup =>
        { setup with program := setup.program.retarget target true } }

/-- Points the tail of a buffer's program at the stopper. -/
def endAt (q : CaptureQueue) (index : Nat) : Except Fault CaptureQueue := do
  let _ ← q.scheduled index
  return q.pointTail index q.stopper.address

/-- Points the tail of one buffer's program at the program of another. -/
def link (q : CaptureQueue) (previous index : Nat) : Except Fault CaptureQueue := do
  let setup ← q.scheduled index
  let _ ← q.scheduled previous
  return q.pointTail previous setup.program.address

/-- Whether a buffer can be captured right after another. -/
def compatible (q : CaptureQueue) (previous index : Nat) : Except Fault Bool := do
  let first ← q.scheduled previous
  let second ← q.scheduled index
  return first.geometry.chains second.geometry

/-! ## Positions and deadlines -/

/-- The position behind a position of the run. -/
def nextPosition (position : Nat) : Except Fault Nat :=
  bounded bound32 (position + 1)

/-- When a chain that completes nothing from `now` on counts as stalled. -/
def due (q : CaptureQueue) (now : Int) : Except Fault Int :=
  if now + q.timeout ≤ lastInstant then .ok (now + q.timeout) else .error .instantTooLate

/-- The deadline of a chain from `now` on; an empty one has none. -/
def dueFor (q : CaptureQueue) (now : Int) : List Nat → Except Fault (Option Int)
  | [] => return none
  | _ :: _ => return some (← q.due now)

/-- Makes a buffer active at a position of the run. -/
def activate (q : CaptureQueue) (index position : Nat) : Except Fault CaptureQueue := do
  let _ ← q.resident index
  return q.modify index fun buffer => { buffer with state := .active, position }

/-- Makes buffers active at consecutive positions, and the next position the queue's. -/
def number (q : CaptureQueue) (position : Nat) : List Nat → Except Fault CaptureQueue
  | [] => return { q with count := position }
  | index :: rest => do
    let next ← nextPosition position
    (← q.activate index position).number next rest

/-! ## Leaving the chain -/

/-- Retires the head of the chain as done at time `now`. -/
def completeHead (q : CaptureQueue) (now : Int) : Except Fault CaptureQueue := do
  match q.active with
  | [] => return q
  | head :: rest =>
    let setup ← q.scheduled head
    let q' := q.modify head fun buffer =>
      { buffer with state := .done, timestamp := some now, sequence := q.sequence }
    let deadline ← q.dueFor now rest
    return { q' with
      active := rest
      sequence := q.sequence + 1
      deadline
      stats := { q.stats with
        framesCompleted := q.stats.framesCompleted + 1
        bytesCaptured := q.stats.bytesCaptured + setup.geometry.imageBytes } }

/-- Gives up buffers, of which each counts as a failed frame. -/
def failAll (q : CaptureQueue) : List Nat → Except Fault CaptureQueue
  | [] => return q
  | index :: rest => do
    let _ ← q.resident index
    let q := q.modify index fun buffer => { buffer with state := .error }
    failAll { q with stats.framesFailed := q.stats.framesFailed + 1 } rest

/-- Gives up every active buffer. -/
def failActive (q : CaptureQueue) : Except Fault CaptureQueue :=
  failAll { q with active := [] } q.active

/-! ## Entering the chain -/

/-- Appends waiting buffers to the chain as long as each can follow the one before; the others keep
waiting. -/
def promote (q : CaptureQueue) : List Nat → Except Fault CaptureQueue
  | [] => return { q with queued := [] }
  | index :: rest => do
    match q.active.getLast? with
    | none => promote { q with active := [index] } rest
    | some previous =>
      if ← q.compatible previous index then
        let q ← q.link previous index
        promote { q with active := q.active ++ [index] } rest
      else return { q with queued := index :: rest }

/-- Splices a buffer onto the running chain, behind the buffer `previous`. -/
def splice (q : CaptureQueue) (previous index : Nat) : Except Fault CaptureQueue := do
  let count ← nextPosition q.count
  let q ← q.activate index q.count
  let q ← q.link previous index
  return { q with
    active := q.active ++ [index]
    count
    stats.chained := q.stats.chained + 1 }

/-- Lets a buffer wait for the running chain to end. -/
def wait (q : CaptureQueue) (index : Nat) : CaptureQueue :=
  let q := q.modify index fun buffer => { buffer with state := .queued }
  { q with queued := q.queued ++ [index] }

end CaptureQueue

namespace Channel

variable {δ : Type}

/-- Starts the engine on the head of the chain, with the positions counted anew. With no chain there
is nothing to start, and no deadline. -/
def startHead (c : Channel δ) (now : Int) : Except Fault (Channel δ) := do
  match c.active with
  | [] => return { c with deadline := none }
  | head :: _ =>
    let q ← c.number 1 c.active
    let setup ← q.scheduled head
    let (engine, regs) ← q.engine.start c.regs setup.program.address setup.geometry setup.norm
    let deadline ← q.due now
    return { c with
      toCaptureQueue := { q with
        engine
        deadline := some deadline
        stats.starts := q.stats.starts + 1 }
      regs }

/-- Starts the engine anew: on the chain there is, or else on the waiting buffers that can form
one. -/
def restart (c : Channel δ) (now : Int) : Except Fault (Channel δ) := do
  if c.active.isEmpty then
    let q ← c.promote c.queued
    startHead { c with toCaptureQueue := q } now
  else c.startHead now

/-- Finds the place of a buffer newly handed in. It waits if others do, if a fault has stopped the
engine, or if it cannot follow the last buffer of the chain; otherwise it starts a chain or is
spliced onto the one that runs. -/
def place (c : Channel δ) (now : Int) (index : Nat) : Except Fault (Channel δ) := do
  let q ← c.endAt index
  if !q.queued.isEmpty || q.fault.isSome then
    return { c with toCaptureQueue := q.wait index }
  match q.active.getLast? with
  | none => startHead { c with toCaptureQueue := { q with active := [index] } } now
  | some previous =>
    if ← q.compatible previous index then
      return { c with toCaptureQueue := ← q.splice previous index }
    else return { c with toCaptureQueue := q.wait index }

end Channel

end VideoCapture
