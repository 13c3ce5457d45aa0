import VideoCapture.Dma.Backend

/-!
# A backend with mappings decided in advance

For chosen buffers an `AnsweredDma` decides itself what mapping them gives, a scatter list or an
error; everything else is left to the backend behind it.

## Main definitions

* `VideoCapture.AnsweredDma` — the backend behind, the answers, and the buffers mapped by them.
-/

set_option autoImplicit false

namespace VideoCapture

/-- A backend that answers the mapping of chosen buffers itself. -/
structure AnsweredDma (δ : Type) where
  /-- The backend for all the rest. -/
  behind : δ
  /-- What mapping a buffer of this index gives. -/
  answers : List (Nat × Except Error ScatterList) := []
  /-- The buffers that are mapped by an answer. -/
  held : List Nat := []

namespace AnsweredDma

variable {δ : Type} [DmaBackend δ]

/-- Hands out coherent memory of the backend behind. -/
def allocate (dma : AnsweredDma δ) (size : Nat) :
    Except Error CoherentMemory × AnsweredDma δ :=
  let (result, behind) := DmaBackend.allocate dma.behind size
  (result, { dma with behind })

/-- Returns coherent memory to the backend behind. -/
def free (dma : AnsweredDma δ) (memory : CoherentMemory) : AnsweredDma δ :=
  { dma with behind := DmaBackend.free dma.behind memory }

/-- Maps a buffer by its answer, if it has one. -/
def map (dma : AnsweredDma δ) (index size : Nat) :
    Except Error ScatterList × AnsweredDma δ :=
  match dma.answers.lookup index with
  | some (.ok chunks) => (.ok chunks, { dma with held := dma.held.insert index })
  | some (.error error) => (.error error, dma)
  | none =>
    let (result, behind) := DmaBackend.map dma.behind index size
    (result, { dma with behind })

/-- Undoes a mapping; one made by an answer is just forgotten. -/
def unmap (dma : AnsweredDma δ) (index : Nat) : AnsweredDma δ :=
  if dma.held.contains index then { dma with held := dma.held.erase index }
  else { dma with behind := DmaBackend.unmap dma.behind index }

instance : DmaBackend (AnsweredDma δ) where
  allocate := allocate
  free := free
  map := map
  unmap := unmap

end AnsweredDma

end VideoCapture
