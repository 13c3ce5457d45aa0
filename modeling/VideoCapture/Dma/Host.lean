import VideoCapture.Dma.Backend
import VideoCapture.Dma.Window

/-!
# A backend without hardware

`HostDma` gives out addresses of a window without any memory behind them. Buffers are mapped page by
page, each page followed by a guard page that is never used, so that no two chunks of a buffer are
contiguous on the bus and every way of laying out a line is exercised. Only the addresses can run
out: that the processor has memory for the words of a program and for lists is taken for granted.

## Main definitions

* `VideoCapture.HostDma` — the window, the allocations outstanding and the buffers mapped.
* `VideoCapture.HostDma.create` — a backend with a window and a limit of choice.
-/

set_option autoImplicit false

namespace VideoCapture

/-- A backend that hands out addresses of a bus window. -/
structure HostDma where
  /-- Where addresses come from. -/
  window : BusWindow
  /-- How many coherent allocations may be outstanding, if that is limited. -/
  limit : Option Nat := none
  /-- Coherent allocations outstanding. -/
  live : Nat := 0
  /-- Each buffer mapped, with the addresses of its chunks. -/
  mapped : List (Nat × List Nat) := []
  deriving DecidableEq

namespace HostDma

/-- Where the window of bus addresses begins. -/
def windowBase : Nat := 0x10000000

/-- Bytes of the window of bus addresses, unless another size is asked for. -/
def windowSize : Nat := 0xe0000000

/-- Bytes that one chunk of a buffer takes from the window: a page and its guard page. -/
def chunkSpan : Nat := 2 * pageSize

/-- A backend over a window of `size` bytes with `limit` coherent allocations at most. -/
def create (size : Nat := windowSize) (limit : Option Nat := none) : HostDma :=
  { window := { base := windowBase, size }, limit }

/-- Whether as many coherent allocations are outstanding as there may be. -/
def exhausted (dma : HostDma) : Bool :=
  match dma.limit with
  | some limit => limit ≤ dma.live
  | none => false

/-- Hands out zeroed coherent memory. -/
def allocate (dma : HostDma) (size : Nat) : Except Error CoherentMemory × HostDma :=
  if dma.exhausted then (.error .outOfMemory, dma)
  else
    match dma.window.take? size with
    | none => (.error .outOfMemory, dma)
    | some (address, window) =>
      (.ok ⟨UInt32.ofNat address, List.replicate ((size + 3) / 4) 0⟩,
        { dma with window, live := dma.live + 1 })

/-- Takes coherent memory back. -/
def free (dma : HostDma) (memory : CoherentMemory) : HostDma :=
  { dma with
    window := dma.window.give memory.size memory.bus.toNat
    live := dma.live - 1 }

/-- The chunks of a buffer of `size` bytes whose pages lie at the given addresses: all are full
pages but the last. -/
def chunksAt (size : Nat) : List Nat → ScatterList
  | [] => []
  | address :: rest => ⟨address, min size pageSize⟩ :: chunksAt (size - pageSize) rest

/-- The chunks of a buffer cover all of it that its pages can hold. -/
theorem size_chunksAt (size : Nat) (addresses : List Nat) :
    ScatterList.size (chunksAt size addresses) = min size (pageSize * addresses.length) := by
  induction addresses generalizing size with
  | nil => simp [chunksAt, ScatterList.size]
  | cons address rest ih =>
    have := ih (size - pageSize)
    simp only [chunksAt, ScatterList.size, List.foldr_cons, List.length_cons, pageSize] at this ⊢
    omega

/-- Undoes the mapping of a buffer. -/
def unmap (dma : HostDma) (index : Nat) : HostDma :=
  match dma.mapped.lookup index with
  | none => dma
  | some addresses =>
    { dma with
      window := dma.window.giveMany chunkSpan addresses
      mapped := dma.mapped.filter (fun entry => entry.1 != index) }

/-- Maps a buffer. If the window is too small nothing is mapped; if the buffer was mapped before,
that mapping is undone once the new one exists. -/
def map (dma : HostDma) (index size : Nat) : Except Error ScatterList × HostDma :=
  match dma.window.takeMany chunkSpan ((size + (pageSize - 1)) / pageSize) with
  | (none, window) => (.error .outOfMemory, { dma with window })
  | (some addresses, window) =>
    let cleared := { dma with window }.unmap index
    (.ok (chunksAt size addresses), { cleared with mapped := (index, addresses) :: cleared.mapped })

instance : DmaBackend HostDma where
  allocate := allocate
  free := free
  map := map
  unmap := unmap

end HostDma

end VideoCapture
