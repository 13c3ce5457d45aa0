import VideoCapture.Arithmetic
import VideoCapture.Chip
import VideoCapture.Dma.Window
import VideoCapture.Queue.Stream

/-!
# Openers of a device

Everyone who opens a device has a format of their own, but only one at a time may hold the right to
capture. Whoever asks for buffers or switches capture on takes that right, if it is free, and keeps
it until closing.

Waiting for a frame is described as far as it shows when nothing else goes on: `Seat.await` looks
for a frame, lets the deadline of the chain pass if there is none, and looks again. The thread that
watches deadlines does what `Channel.checkTimeout` and `Channel.takeFault` do, when it comes to it.

## Main definitions

* `VideoCapture.Opener` — what is remembered about an opener.
* `VideoCapture.Seat` — an opener with the chip and the queue it works on.
* `VideoCapture.Seat.setFormat`, `VideoCapture.Seat.request`, `VideoCapture.Seat.prepare`,
  `VideoCapture.Seat.enqueue`, `VideoCapture.Seat.dequeue`, `VideoCapture.Seat.streamOn`,
  `VideoCapture.Seat.streamOff`, `VideoCapture.Seat.close` — what an opener can do.
-/

set_option autoImplicit false

namespace VideoCapture

/-- What is remembered about an opener. -/
structure Opener where
  /-- The format it captures in. -/
  geometry : Geometry
  /-- Whether it holds the right to capture. -/
  holds : Bool := false

namespace Opener

/-- The format that an opener starts with, as a wish. -/
def initialRequest : FormatRequest where
  width := 320
  height := 240
  code := PixelFormat.initial.code
  field := .interlaced

/-- The format that an opener starts with where the wish is refused. -/
def fallback : Geometry where
  width := 320
  height := 240
  format := PixelFormat.initial
  field := .interlaced

/-- A new opener, with the format nearest to the initial one. -/
def create (norm : Norm) : Except Fault Opener := do
  match ← initialRequest.negotiate norm with
  | .ok geometry => return { geometry }
  | .error _ => return { geometry := fallback }

end Opener

/-- An opener with what it works on. -/
structure Seat (δ : Type) where
  /-- The opener. -/
  opener : Opener
  /-- The chip of the device. -/
  chip : Chip
  /-- The settings of the device. -/
  config : Config
  /-- The queue of the device, in its surroundings. -/
  channel : Channel δ

/-- How many of `count` things of `size` bytes fit into `limit` bytes. -/
def fitting (size limit count : Nat) : Nat :=
  if size * count ≤ limit then count else limit / size

/-- No more fit than are asked for. -/
theorem fitting_le (size limit count : Nat) : fitting size limit count ≤ count := by
  unfold fitting
  split
  · exact Nat.le_refl count
  · exact Nat.div_le_of_le_mul (by omega)

/-- What fits stays within the limit. -/
theorem size_mul_fitting_le (size limit count : Nat) :
    size * fitting size limit count ≤ limit := by
  unfold fitting
  split
  · assumption
  · exact Nat.mul_div_le limit size

namespace Seat

variable {δ : Type}

/-- How many buffers are meant when none are asked for. -/
abbrev defaultCount : Nat := 32

/-- Bytes of capture memory that an opener may have. A limit can be set that comes to more of them
than 64 bits can tell. -/
def memoryBytes (seat : Seat δ) : Nat :=
  seat.config.memoryLimit * 0x100000

/-- The nearest format that the norm in force can deliver. -/
def tryFormat (seat : Seat δ) (request : FormatRequest) : Except Fault (Except Error Geometry) :=
  request.negotiate seat.chip.norm

/-- Takes the nearest format that the norm in force can deliver, unless the opener is capturing. -/
def setFormat (seat : Seat δ) (request : FormatRequest) :
    Except Fault (Except Error Geometry × Seat δ) := do
  match ← seat.tryFormat request with
  | .error error => return (.error error, seat)
  | .ok geometry =>
    if seat.opener.holds && seat.channel.streaming then return (.error .busy, seat)
    return (.ok geometry, { seat with opener.geometry := geometry })

/-- Takes the right to capture, unless another opener holds it. -/
def claim (seat : Seat δ) : Except Error (Seat δ) :=
  if seat.opener.holds then .ok seat
  else if seat.chip.claimed then .error .busy
  else .ok { seat with opener.holds := true, chip.claimed := true }

/-- Does something with the queue, if the opener holds the right to capture. -/
def ifHolding {α : Type} (seat : Seat δ)
    (act : Channel δ → Except Fault (Except Error α × Channel δ)) :
    Except Fault (Except Error α × Seat δ) := do
  if !seat.opener.holds then return (.error .busy, seat)
  let (result, channel) ← act seat.channel
  return (result, { seat with channel })

/-- Takes the oldest buffer handed in, if it is finished. -/
def dequeue (seat : Seat δ) : Except Fault (Except Error Frame × Seat δ) :=
  seat.ifHolding Channel.dequeue

/-- Takes the oldest buffer handed in, waiting for it while the watchdog runs: if nothing else
happens, the chain stalls, and is recovered at its deadline. -/
def await (seat : Seat δ) : Except Fault (Except Error Frame × Seat δ) := do
  let (result, seat) ← seat.dequeue
  match result, seat.channel.deadline with
  | .error .wouldBlock, some deadline =>
    let (_, channel) ← seat.channel.checkTimeout deadline
    { seat with channel }.dequeue
  | _, _ => return (result, seat)

/-- What the opener can learn about a buffer. -/
def info (seat : Seat δ) (index : Nat) : Except Error BufferInfo :=
  match seat.channel.info? index with
  | some info => .ok info
  | none => .error .invalidArgument

/-- Starts capture, or resumes it after a fault. -/
def streamOn (seat : Seat δ) (now : Int) : Except Fault (Except Error Unit × Seat δ) :=
  match seat.claim with
  | .error error => return (.error error, seat)
  | .ok seat => seat.ifHolding fun c => c.streamOn now

variable [DmaBackend δ]

/-- Replaces the buffers by `count` ones for the opener's format, or by fewer if the opener's memory
does not suffice. -/
def request (seat : Seat δ) (count : Nat) : Except Fault (Except Error Nat × Seat δ) :=
  match seat.claim with
  | .error error => return (.error error, seat)
  | .ok seat => do
    let size := seat.opener.geometry.imageBytes
    let limit ← bounded bound64 seat.memoryBytes
    let wanted := if count = 0 then defaultCount else count
    let granted := fitting size limit wanted
    if granted = 0 then return (.error .outOfMemory, seat)
    else seat.ifHolding fun c => c.requestBuffers granted (wholePages size)

/-- Prepares a buffer for the opener's format. -/
def prepare (seat : Seat δ) (index : Nat) : Except Fault (Except Error Unit × Seat δ) :=
  seat.ifHolding fun c =>
    match c.handle index with
    | .error error => return (.error error, c)
    | .ok index => c.prepare index seat.opener.geometry seat.chip.norm

/-- Hands a buffer in, after preparing it for the opener's format unless it is prepared already. -/
def enqueue (seat : Seat δ) (now : Int) (index : Nat) :
    Except Fault (Except Error Unit × Seat δ) := do
  match seat.channel.handle index with
  | .error error => return (.error error, seat)
  | .ok index =>
    let ready := (seat.channel.info? index).any fun info => info.state = .prepared
    let (result, seat) ← if ready then pure (.ok (), seat) else seat.prepare index
    match result with
    | .error error => return (.error error, seat)
    | .ok () =>
      let (result, channel) ← seat.channel.enqueue now index
      return (result, { seat with channel })

/-- Stops capture and releases every buffer. -/
def streamOff (seat : Seat δ) : Except Fault (Except Error Unit × Seat δ) :=
  seat.ifHolding Channel.streamOff

/-- Ends an opener. If it holds the right to capture, capture is stopped, every buffer is given up,
and the right is free again. -/
def close (seat : Seat δ) : Except Fault (Seat δ) := do
  if seat.opener.holds then
    let channel ← seat.channel.shutdown
    return { seat with channel, opener.holds := false, chip.claimed := false }
  return seat

end Seat

end VideoCapture
