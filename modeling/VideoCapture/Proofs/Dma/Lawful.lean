import VideoCapture.Dma.Backend
import VideoCapture.Proofs.Dma.Window

/-!
# What a backend has to keep to

A queue relies on its backend for one thing above all: coherent memory that is handed out stays its
own until it is given back. A backend keeps to that if it can account for the ranges of bus
addresses that are handed out as coherent memory, so that no two of them ever share an address,
whatever else it is asked for meanwhile.

## Main definitions

* `VideoCapture.CoherentMemory.range` — the bus addresses of coherent memory.
* `VideoCapture.LawfulDmaBackend` — a backend that accounts for coherent memory.
-/

set_option autoImplicit false

namespace VideoCapture

/-- The bus addresses of coherent memory. -/
def CoherentMemory.range (memory : CoherentMemory) : BusRange where
  size := memory.size
  address := memory.bus.toNat

/-- A backend that accounts for the coherent memory that is handed out. -/
class LawfulDmaBackend (δ : Type) [DmaBackend δ] where
  /-- The given ranges are those handed out as coherent memory. -/
  Holds : δ → List BusRange → Prop
  /-- No two of them share an address. -/
  apart {dma : δ} {live : List BusRange} : Holds dma live → live.Pairwise FreeRange.Apart
  /-- Their order does not matter. -/
  perm {dma : δ} {live live' : List BusRange} : Holds dma live → live.Perm live' → Holds dma live'
  /-- Memory that is handed out is as large as asked for. -/
  size_le {dma dma' : δ} {live : List BusRange} {size : Nat} {memory : CoherentMemory} :
    Holds dma live → DmaBackend.allocate dma size = (.ok memory, dma') → size ≤ memory.size
  /-- Memory that is handed out is accounted for. -/
  allocate {dma dma' : δ} {live : List BusRange} {size : Nat} {memory : CoherentMemory} :
    Holds dma live → 0 < size → DmaBackend.allocate dma size = (.ok memory, dma') →
      Holds dma' (memory.range :: live)
  /-- Without memory nothing is handed out. -/
  refuse {dma dma' : δ} {live : List BusRange} {size : Nat} {error : Error} :
    Holds dma live → DmaBackend.allocate dma size = (.error error, dma') → Holds dma' live
  /-- Memory that is taken back is no longer accounted for. -/
  free {dma : δ} {live : List BusRange} {memory : CoherentMemory} :
    Holds dma (memory.range :: live) → Holds (DmaBackend.free dma memory) live
  /-- Mapping a buffer leaves coherent memory alone. -/
  map {dma dma' : δ} {live : List BusRange} {index size : Nat} {result : Except Error ScatterList} :
    Holds dma live → DmaBackend.map dma index size = (result, dma') → Holds dma' live
  /-- So does undoing a mapping. -/
  unmap {dma : δ} {live : List BusRange} {index : Nat} :
    Holds dma live → Holds (DmaBackend.unmap dma index) live

end VideoCapture
