import VideoCapture.Buffer
import Mathlib.Tactic.Lemma

/-!
# A buffer with its parts kept apart

A buffer that has been prepared holds four things: a geometry, a norm, the chunks it is mapped to
and a program. They are acquired one by one, and any step of that can fail, so a buffer could be
thought to be left with some of them. Here the four are kept apart, each there or not, and acquired
and given back one by one. If a buffer holds nothing exactly as long as it needs to be initialised,
working on the parts comes to the same as working on all of them at once: whatever fails, either all
four are there afterwards or none is.

## Main definitions

* `VideoCapture.BufferParts` — a buffer with its parts kept apart.
* `VideoCapture.CaptureBuffer.parts` — takes a buffer apart.
* `VideoCapture.BufferParts.prepare`, `VideoCapture.BufferParts.release` — the parts are acquired
  and given back one by one.

## Main results

* `VideoCapture.CaptureBuffer.release_parts`, `VideoCapture.CaptureBuffer.prepare_parts` — it comes
  to the same.
-/

set_option autoImplicit false

namespace VideoCapture

/-- A capture buffer with its parts kept apart. -/
structure BufferParts where
  /-- Bytes reserved for it. -/
  capacity : Nat
  /-- Its stage. -/
  state : BufferState
  /-- The geometry it is prepared for, if any. -/
  geometry : Option Geometry
  /-- The norm it is captured under, if any. -/
  norm : Option Norm
  /-- Where its memory lies, if it is mapped. -/
  chunks : Option ScatterList
  /-- Its program, if there is one. -/
  program : Option Program
  /-- Its position in the current run of the engine. -/
  position : Nat
  /-- The number of the frame it captured last. -/
  sequence : UInt32
  /-- When it captured that frame. -/
  timestamp : Option Int
  deriving DecidableEq

namespace BufferParts

variable {δ : Type} [DmaBackend δ]

/-- None of the parts is there. -/
def Bare (parts : BufferParts) : Prop :=
  parts.geometry = none ∧ parts.norm = none ∧ parts.chunks = none ∧ parts.program = none

/-- All parts are there. -/
def Full (parts : BufferParts) : Prop :=
  parts.geometry ≠ none ∧ parts.norm ≠ none ∧ parts.chunks ≠ none ∧ parts.program ≠ none

/-- Gives back the program and the mapping, as far as they are there, unless the buffer is in
flight. -/
def release (parts : BufferParts) (dma : δ) (index : Nat) : Except Fault (BufferParts × δ) :=
  if parts.state.inFlight then .error (.releaseInFlight index)
  else
    let dma := parts.program.elim dma fun program => program.discard dma
    let dma := if parts.chunks.isSome then DmaBackend.unmap dma index else dma
    .ok ({ parts with
      state := .needsInit, geometry := none, norm := none, chunks := none, program := none }, dma)

/-- Replaces the program by one for a geometry. The old one is given back once the new one
exists. -/
def build (parts : BufferParts) (dma : δ) (geometry : Geometry) (mode : LineOffset) :
    Except Fault (Except Error Unit × BufferParts × δ) := do
  match parts.chunks with
  | none => return (.error .invalidArgument, parts, dma)
  | some chunks =>
    match ← CaptureBuffer.buildProgram dma chunks geometry mode with
    | (.error error, dma) => return (.error error, parts, dma)
    | (.ok program, dma) =>
      return (.ok (), { parts with program := some program },
        parts.program.elim dma fun old => old.discard dma)

/-- Gives everything back after an error. -/
def giveUp (parts : BufferParts) (dma : δ) (index : Nat) (error : Error) :
    Except Fault (Except Error Unit × BufferParts × δ) := do
  let (parts, dma) ← parts.release dma index
  return (.error error, parts, dma)

/-- Notes what the buffer is prepared for now. -/
def noted (parts : BufferParts) (geometry : Geometry) (norm : Norm) : BufferParts :=
  { parts with geometry := some geometry, norm := some norm, state := .prepared }

/-- Prepares a buffer that is mapped, with a new program. -/
def rebuild (parts : BufferParts) (dma : δ) (index : Nat) (geometry : Geometry) (norm : Norm)
    (mode : LineOffset) : Except Fault (Except Error Unit × BufferParts × δ) := do
  match ← parts.build dma geometry mode with
  | (.error error, parts, dma) => parts.giveUp dma index error
  | (.ok (), parts, dma) => return (.ok (), parts.noted geometry norm, dma)

/-- Prepares the buffer of the given index for a geometry under a norm, part by part. It is mapped
if it needs to be initialised or is not mapped, and gets a new program if it has been mapped just
now, has none, or has one for another geometry. After any error it gives back everything. -/
def prepare (parts : BufferParts) (dma : δ) (index : Nat) (geometry : Geometry) (norm : Norm)
    (mode : LineOffset) : Except Fault (Except Error Unit × BufferParts × δ) := do
  if parts.state.inFlight then throw (.prepareInFlight index)
  if !norm.accepts geometry.width geometry.height || parts.capacity < geometry.imageBytes then
    parts.giveUp dma index .invalidArgument
  else if parts.state = .needsInit ∨ parts.chunks = none then
    match DmaBackend.map dma index parts.capacity with
    | (.error error, dma) => parts.giveUp dma index error
    | (.ok chunks, dma) => rebuild { parts with chunks := some chunks } dma index geometry norm mode
  else if parts.geometry ≠ some geometry ∨ parts.program = none then
    parts.rebuild dma index geometry norm mode
  else return (.ok (), parts.noted geometry norm, dma)

end BufferParts

namespace CaptureBuffer

/-- The buffer with its parts kept apart. -/
def parts (buffer : CaptureBuffer) : BufferParts where
  capacity := buffer.capacity
  state := buffer.state
  geometry := buffer.setup.map Setup.geometry
  norm := buffer.setup.map Setup.norm
  chunks := buffer.setup.map Setup.chunks
  program := buffer.setup.map Setup.program
  position := buffer.position
  sequence := buffer.sequence
  timestamp := buffer.timestamp

/-- An outcome of work on a buffer, with its parts kept apart. -/
def partsOf {δ α : Type} : Except Fault (α × CaptureBuffer × δ) →
    Except Fault (α × BufferParts × δ) :=
  Except.map fun (result, buffer, dma) => (result, buffer.parts, dma)

variable {δ : Type} [DmaBackend δ]

/-- A buffer has none of its parts exactly if it holds nothing. -/
lemma bare_parts_iff {buffer : CaptureBuffer} : buffer.parts.Bare ↔ buffer.setup = none := by
  simp [BufferParts.Bare, parts]

/-- A buffer that holds anything has all parts. -/
lemma full_parts {buffer : CaptureBuffer} (h : buffer.setup ≠ none) : buffer.parts.Full := by
  simp [BufferParts.Full, parts, h]

/-- **Giving back part by part** comes to the same as giving back all at once. -/
theorem release_parts (buffer : CaptureBuffer) (dma : δ) (index : Nat) :
    buffer.parts.release dma index =
      (buffer.release dma index).map fun (buffer, dma) => (buffer.parts, dma) := by
  unfold BufferParts.release release
  by_cases hflight : buffer.state.inFlight = true
  · simp [parts, hflight, Except.map]
  · cases hsetup : buffer.setup <;>
      simp [parts, hflight, Except.map, drain, hsetup, emptied]

/-- Giving everything back after an error comes to draining the buffer. -/
lemma giveUp_parts {buffer : CaptureBuffer} (hidle : buffer.state.inFlight = false) (dma : δ)
    (index : Nat) (error : Error) :
    buffer.parts.giveUp dma index error =
      partsOf (.ok (.error error, buffer.drain dma index)) := by
  unfold BufferParts.giveUp
  rw [release_parts, release, hidle]
  rfl

/-- A new program for a mapped buffer, part by part, comes to one given all at once. -/
lemma rebuild_parts {buffer : CaptureBuffer} (hidle : buffer.state.inFlight = false) (dma : δ)
    (index : Nat) (chunks : ScatterList) (geometry : Geometry) (norm : Norm) (mode : LineOffset) :
    BufferParts.rebuild { buffer.parts with chunks := some chunks } dma index geometry norm mode =
      partsOf (buffer.reprogram dma index chunks (buffer.setup.map Setup.program) geometry norm
        mode) := by
  simp only [BufferParts.rebuild, BufferParts.build, reprogram]
  rcases hbuild : buildProgram dma chunks geometry mode with fault | ⟨error | program, dma₁⟩
  · rfl
  · -- both give back the old program, if there is one, and the mapping
    cases hsetup : buffer.setup <;>
      simp [BufferParts.giveUp, BufferParts.release, hidle, partsOf, Except.map, parts, emptied,
        hsetup, bind, Except.bind, pure, Except.pure]
  · cases hsetup : buffer.setup <;>
      simp [BufferParts.noted, partsOf, Except.map, parts, hsetup, bind, Except.bind, pure,
        Except.pure]

/-- **Preparing part by part** comes to the same as preparing all at once, if the buffer holds
nothing exactly as long as it needs to be initialised.

**Proof sketch.** Case analysis as in `prepare`. A buffer in parts holds chunks just if the whole
one has a setup, so that both are mapped in the same cases; and it is programmed anew in the same
cases, since a setup tells its geometry and has a program. -/
theorem prepare_parts {buffer : CaptureBuffer} (h : buffer.state = .needsInit ↔ buffer.setup = none)
    (dma : δ) (index : Nat) (geometry : Geometry) (norm : Norm) (mode : LineOffset) :
    buffer.parts.prepare dma index geometry norm mode =
      partsOf (buffer.prepare dma index geometry norm mode) := by
  have hstate : buffer.parts.state = buffer.state := rfl
  have hcapacity : buffer.parts.capacity = buffer.capacity := rfl
  unfold BufferParts.prepare prepare
  rw [hstate, hcapacity]
  cases hidle : buffer.state.inFlight with
  | true => rfl
  | false =>
    simp only [Bool.false_eq_true, if_false]
    split
    · -- the buffer is refused
      exact giveUp_parts hidle dma index .invalidArgument
    · cases hsetup : buffer.setup with
      | none =>
        -- it is mapped, and then programmed
        rw [if_pos (.inl (h.mpr hsetup))]
        rcases DmaBackend.map dma index buffer.capacity with ⟨error | chunks, dma₁⟩
        · dsimp only
          rw [giveUp_parts hidle, drain, hsetup]
          rfl
        · have hnew := rebuild_parts hidle dma₁ index chunks geometry norm mode
          rw [hsetup] at hnew
          exact hnew
      | some setup =>
        -- it is mapped already, and programmed if the geometry is another
        have hmapped : ¬ (buffer.state = .needsInit ∨ buffer.parts.chunks = none) := by
          simp [h, parts, hsetup]
        have hparts : buffer.parts = { buffer.parts with chunks := some setup.chunks } := by
          simp [parts, hsetup]
        rw [if_neg hmapped]
        by_cases hsame : setup.geometry = geometry
        · simp [parts, hsetup, hsame, BufferParts.noted, partsOf, Except.map, pure, Except.pure]
        · have hother : buffer.parts.geometry ≠ some geometry ∨ buffer.parts.program = none := by
            simp [parts, hsetup, hsame]
          have hnew := rebuild_parts hidle dma index setup.chunks geometry norm mode
          rw [if_pos hother, hparts, hnew, hsetup]
          simp [hsame]

end CaptureBuffer

end VideoCapture
