import VideoCapture.Register.Access

/-!
# A mapped register window

A `Window` is a run of plain bytes, the way a device's registers appear when they are mapped into
memory. Words are stored with their lowest byte first. Nothing is special about any offset, and an
access that leaves the window is a fault. Where the window is mapped, and that every access to it is
a single one that is neither cached nor left out, is not described.

## Main definitions

* `VideoCapture.Window` — the bytes of the window.
-/

set_option autoImplicit false

namespace VideoCapture

/-- A register window over plain memory. -/
structure Window where
  /-- The bytes of the window. -/
  bytes : List UInt8

namespace Window

/-- A window of `size` zero bytes. -/
def zeroed (size : Nat) : Window :=
  ⟨List.replicate size 0⟩

/-- The byte at `offset`; zero outside the window. -/
def read8 (window : Window) (offset : Nat) : UInt8 :=
  window.bytes[offset]?.getD 0

/-- Stores a byte at `offset`. -/
def write8 (window : Window) (offset : Nat) (value : UInt8) : Window :=
  ⟨window.bytes.set offset value⟩

/-- The word whose lowest byte is at `offset`. -/
def read32 (window : Window) (offset : Nat) : UInt32 :=
  (window.read8 offset).toUInt32
    ||| ((window.read8 (offset + 1)).toUInt32 <<< 8)
    ||| ((window.read8 (offset + 2)).toUInt32 <<< 16)
    ||| ((window.read8 (offset + 3)).toUInt32 <<< 24)

/-- Stores a word with its lowest byte at `offset`. -/
def write32 (window : Window) (offset : Nat) (value : UInt32) : Window :=
  (((window.write8 offset value.toUInt8).write8 (offset + 1) (value >>> 8).toUInt8).write8
    (offset + 2) (value >>> 16).toUInt8).write8 (offset + 3) (value >>> 24).toUInt8

/-- Every byte of an access has to lie in the window. -/
def permit (window : Window) (offset width : Nat) : Except Fault Unit :=
  if offset + width ≤ window.bytes.length then .ok () else .error (.outsideWindow offset)

instance : RegisterAccess Window where
  permit := permit
  read32 := read32
  write32 := write32
  read8 := read8
  write8 := write8

end Window

end VideoCapture
