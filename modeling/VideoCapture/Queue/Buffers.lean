import VideoCapture.Config
import VideoCapture.Queue.Chain

/-!
# The buffers of a queue

A queue starts with no buffers. A request replaces the whole set, after which buffers are prepared
and handed in one by one.

## Main definitions

* `VideoCapture.Channel.create` — a queue with its stopper.
* `VideoCapture.Channel.requestBuffers` — replaces the set of buffers.
* `VideoCapture.Channel.prepare` — prepares a buffer for a geometry.
* `VideoCapture.Channel.enqueue` — hands a prepared buffer in.
-/

set_option autoImplicit false

namespace VideoCapture

/-- Releases buffers of which the first has index `index`, in order. -/
def releaseAll {δ : Type} [DmaBackend δ] (dma : δ) (index : Nat) :
    List CaptureBuffer → Except Fault (List CaptureBuffer × δ)
  | [] => return ([], dma)
  | buffer :: rest => do
    let (buffer, dma) ← buffer.release dma index
    let (rest, dma) ← releaseAll dma (index + 1) rest
    return (buffer :: rest, dma)

namespace Channel

variable {δ : Type} [DmaBackend δ]

/-- A queue without buffers. Its stopper is allocated at once, or there is no queue. -/
def create (regs : RegisterFile) (dma : δ) (config : Config) : Except Error (Channel δ) × δ :=
  match Program.stopper dma with
  | (.error error, dma) => (.error error, dma)
  | (.ok stopper, dma) =>
    (.ok { stopper, timeout := config.bufferTimeout, lineOffset := config.lineOffset, regs, dma },
      dma)

/-- Replaces the set of buffers by `count` new ones of `capacity` bytes, and releases the old.
Nothing is handed in afterwards. While capture is on the set stays as it is. -/
def requestBuffers (c : Channel δ) (count capacity : Nat) :
    Except Fault (Except Error Nat × Channel δ) := do
  if c.streaming then return (.error .busy, c)
  let (_, dma) ← releaseAll c.dma 0 c.buffers
  let buffers := List.replicate count { capacity }
  return (.ok count, { c with buffers, stream := [], dma })

/-- Prepares a buffer for a geometry. One that is handed in or in flight cannot be prepared. -/
def prepare (c : Channel δ) (index : Nat) (geometry : Geometry) (norm : Norm) :
    Except Fault (Except Error Unit × Channel δ) := do
  if c.stream.contains index then return (.error .busy, c)
  match c.buffers[index]? with
  | none => return (.error .invalidArgument, c)
  | some buffer =>
    if buffer.state.inFlight then return (.error .busy, c)
    let (result, buffer, dma) ← buffer.prepare c.dma index geometry norm c.lineOffset
    return (result, { c with buffers := c.buffers.set index buffer, dma })

/-- Hands a prepared buffer in. While capture is on it is placed at once. -/
def enqueue (c : Channel δ) (now : Int) (index : Nat) :
    Except Fault (Except Error Unit × Channel δ) := do
  match c.buffers[index]? with
  | none => return (.error .invalidArgument, c)
  | some buffer =>
    match buffer.state with
    | .needsInit => return (.error .invalidArgument, c)
    | .prepared =>
      if c.stream.contains index then return (.error .busy, c)
      let c := { c with stream := c.stream ++ [index] }
      if c.streaming then return (.ok (), ← c.place now index)
      return (.ok (), c)
    | .queued | .active | .done | .error => return (.error .busy, c)

end Channel

end VideoCapture
