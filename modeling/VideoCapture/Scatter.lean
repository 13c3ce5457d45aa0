import VideoCapture.Fault

/-!
# Scatter lists

A capture buffer is contiguous for its user, but lies in memory as a list of chunks that are
contiguous only for themselves. Byte `n` of the buffer is found by walking the chunks in order.

Addresses and lengths are plain numbers. A chunk that does not end within the 64 bits of an address,
which no backend has reason to hand out, is taken for one behind the end of the bus; and it takes
more than `2 ^ 32` chunks, whose lengths have 32 bits, for the bytes of a list not to fit 64.

## Main definitions

* `VideoCapture.Chunk` — a physically contiguous run of bytes.
* `VideoCapture.Chunk.busAddress` — the bus address of a byte of a chunk.
* `VideoCapture.ScatterList.size` — the bytes of a whole list.
-/

set_option autoImplicit false

namespace VideoCapture

/-- A physically contiguous part of a capture buffer. -/
structure Chunk where
  /-- Address of the first byte. -/
  address : Nat
  /-- Number of bytes. -/
  length : Nat
  deriving DecidableEq

/-- The chunks of a buffer, in buffer order. -/
abbrev ScatterList := List Chunk

namespace Chunk

/-- The bus address of the byte at `offset` in a chunk; the bus is 32 bits wide. -/
def busAddress (chunk : Chunk) (offset : Nat) : Except Fault UInt32 :=
  if chunk.address + offset < 0x100000000 then .ok (UInt32.ofNat (chunk.address + offset))
  else .error (.addressTooWide (chunk.address + offset))

/-- The address behind a chunk's last byte. -/
def limit (chunk : Chunk) : Nat :=
  chunk.address + chunk.length

end Chunk

/-- The number of bytes that a scatter list covers. -/
def ScatterList.size (chunks : ScatterList) : Nat :=
  chunks.foldr (fun chunk size => chunk.length + size) 0

end VideoCapture
