import VideoCapture.Error
import VideoCapture.Scatter

/-!
# Memory for the engine

Programs and capture buffers live in memory that the engine can reach. A backend hands out coherent
memory for programs and maps the capture buffers, each known by its index, to scatter lists.

## Main definitions

* `VideoCapture.CoherentMemory` — memory that both the processor and the engine see.
* `VideoCapture.DmaBackend` — the four services of a backend.
-/

set_option autoImplicit false

namespace VideoCapture

/-- Memory that the processor and the engine both see. -/
structure CoherentMemory where
  /-- Bus address of the first byte. -/
  bus : UInt32
  /-- The contents, in 32-bit words. -/
  words : List UInt32
  deriving DecidableEq

/-- Bytes of a coherent allocation. -/
def CoherentMemory.size (memory : CoherentMemory) : Nat :=
  4 * memory.words.length

/-- What hands out memory to a capture queue. -/
class DmaBackend (δ : Type) where
  /-- Zeroed coherent memory of at least the given number of bytes. -/
  allocate : δ → (size : Nat) → Except Error CoherentMemory × δ
  /-- Takes coherent memory back. -/
  free : δ → CoherentMemory → δ
  /-- Maps the buffer of the given index and size, and answers its chunks in buffer order. -/
  map : δ → (index size : Nat) → Except Error ScatterList × δ
  /-- Undoes the mapping of the buffer of the given index. -/
  unmap : δ → (index : Nat) → δ

end VideoCapture
