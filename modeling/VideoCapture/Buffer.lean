import VideoCapture.Format.Geometry
import VideoCapture.Program.Basic

/-!
# Capture buffers

A buffer is reserved with a capacity. Preparing it for a geometry maps its memory and writes a
program for it; the program is kept as long as the geometry stays the same. Once prepared a buffer
is queued, becomes active when its program is linked into the running chain, and ends as done or in
error, after which it can be prepared again.

## Main definitions

* `VideoCapture.BufferState` — the stages of a buffer.
* `VideoCapture.CaptureBuffer` — a buffer; `VideoCapture.Setup` — what a prepared one holds.
* `VideoCapture.CaptureBuffer.prepare` — readies a buffer for a geometry.
* `VideoCapture.CaptureBuffer.release` — gives back everything it holds.
-/

set_option autoImplicit false

namespace VideoCapture

/-- The stages of a capture buffer. -/
inductive BufferState where
  /-- Holds nothing. -/
  | needsInit
  /-- Mapped, with a program. -/
  | prepared
  /-- Waiting for the running chain to end. -/
  | queued
  /-- In the running chain. -/
  | active
  /-- Captured. -/
  | done
  /-- Given up. -/
  | error
  deriving DecidableEq

/-- Whether the engine may come to use a buffer in this state. -/
def BufferState.inFlight : BufferState → Bool
  | queued | active => true
  | needsInit | prepared | done | error => false

/-- Whether a buffer in this state is ready to be handed back. -/
def BufferState.finished : BufferState → Bool
  | done | error => true
  | needsInit | prepared | queued | active => false

/-- What a buffer holds once it has been prepared. -/
structure Setup where
  /-- The geometry it is prepared for. -/
  geometry : Geometry
  /-- The norm it is captured under. -/
  norm : Norm
  /-- Where its memory lies. -/
  chunks : ScatterList
  /-- The program that captures into it. -/
  program : Program
  deriving DecidableEq

/-- A capture buffer. -/
structure CaptureBuffer where
  /-- Bytes reserved for it. -/
  capacity : Nat
  /-- Its stage. -/
  state : BufferState := .needsInit
  /-- What it holds, if it has been prepared. -/
  setup : Option Setup := none
  /-- Its position in the current run of the engine. -/
  position : Nat := 0
  /-- The number of the frame it captured last. -/
  sequence : UInt32 := 0
  /-- When it captured that frame. -/
  timestamp : Option Int := none
  deriving DecidableEq

namespace CaptureBuffer

variable {δ : Type} [DmaBackend δ]

/-- The buffer, holding nothing. -/
def emptied (buffer : CaptureBuffer) : CaptureBuffer :=
  { buffer with state := .needsInit, setup := none }

/-- Gives back the program and the mapping of the buffer with the given index. -/
def drain (buffer : CaptureBuffer) (dma : δ) (index : Nat) : CaptureBuffer × δ :=
  match buffer.setup with
  | none => (buffer.emptied, dma)
  | some setup => (buffer.emptied, DmaBackend.unmap (setup.program.discard dma) index)

/-- Gives back everything that a buffer holds, unless it is in flight. -/
def release (buffer : CaptureBuffer) (dma : δ) (index : Nat) :
    Except Fault (CaptureBuffer × δ) :=
  if buffer.state.inFlight then .error (.releaseInFlight index)
  else .ok (buffer.drain dma index)

/-- A program that captures a geometry into the given chunks, which have to be in reach of the
engine and large enough. -/
def buildProgram (dma : δ) (chunks : ScatterList) (geometry : Geometry) (mode : LineOffset) :
    Except Fault (Except Error Program × δ) := do
  if chunks.any fun chunk => 0x100000000 < chunk.limit then
    return (.error .addressRange, dma)
  else if ScatterList.size chunks < geometry.imageBytes then
    return (.error .invalidArgument, dma)
  else
    Program.build dma chunks (← geometry.layout) mode

/-- Gives a buffer mapped to `chunks` a new program. Its old one, if any, is given back once the new
one exists; if there can be none, the buffer gives back everything. -/
def reprogram (buffer : CaptureBuffer) (dma : δ) (index : Nat) (chunks : ScatterList)
    (old : Option Program) (geometry : Geometry) (norm : Norm) (mode : LineOffset) :
    Except Fault (Except Error Unit × CaptureBuffer × δ) := do
  let (result, dma) ← buildProgram dma chunks geometry mode
  let dma := match old with
    | some program => program.discard dma
    | none => dma
  match result with
  | .error error => return (.error error, buffer.emptied, DmaBackend.unmap dma index)
  | .ok program =>
    let setup := some { geometry, norm, chunks, program }
    return (.ok (), { buffer with state := .prepared, setup }, dma)

/-- Prepares the buffer of the given index for a geometry under a norm. A buffer that holds nothing
is mapped first, and a program is written unless the one there is for the same geometry. If anything
fails the buffer gives back everything it holds. -/
def prepare (buffer : CaptureBuffer) (dma : δ) (index : Nat) (geometry : Geometry) (norm : Norm)
    (mode : LineOffset) : Except Fault (Except Error Unit × CaptureBuffer × δ) := do
  if buffer.state.inFlight then throw (.prepareInFlight index)
  if !norm.accepts geometry.width geometry.height || buffer.capacity < geometry.imageBytes then
    return (.error .invalidArgument, buffer.drain dma index)
  match buffer.setup with
  | none =>
    match DmaBackend.map dma index buffer.capacity with
    | (.error error, dma) => return (.error error, buffer.emptied, dma)
    | (.ok chunks, dma) => buffer.reprogram dma index chunks none geometry norm mode
  | some setup =>
    if setup.geometry = geometry then
      return (.ok (), { buffer with state := .prepared, setup := some { setup with norm } }, dma)
    else buffer.reprogram dma index setup.chunks (some setup.program) geometry norm mode

end CaptureBuffer

end VideoCapture
