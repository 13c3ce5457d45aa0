import VideoCapture.Register.Access
import VideoCapture.Register.Map

/-!
# A register file in memory

A `RegisterFile` holds the chip's registers in 32-bit slots and behaves like the chip where it
matters to a driver: the interrupt status latches bits that are raised, and a 32-bit write to it
clears the bits written as one. Bits that a stuck line holds up are seen by every read of the
status, whatever is written.

## Main definitions

* `VideoCapture.RegisterFile` — the slots, the bits held up, and the writes made.
* `VideoCapture.RegisterFile.raise` — latches interrupt status.
* `VideoCapture.RegisterFile.nonzero` — the slots that are not zero.
-/

set_option autoImplicit false

namespace VideoCapture

/-- One write to a register window, with the value handed to it. -/
inductive RegisterWrite where
  /-- A byte written. -/
  | byte (offset : Nat) (value : UInt8)
  /-- A 32-bit word written. -/
  | word (offset : Nat) (value : UInt32)
  deriving DecidableEq

/-- The registers of a chip. -/
structure RegisterFile where
  /-- The 32-bit slots; slot `i` holds the bytes from offset `4 * i`. -/
  slots : Vector UInt32 (Register.space / 4) := Vector.replicate _ 0
  /-- Interrupt status bits that read as set whatever is written. -/
  stuck : UInt32 := 0
  /-- The writes made so far, latest first. -/
  history : List RegisterWrite := []

namespace RegisterFile

/-- The value latched in slot `i`; zero outside the window. -/
def slot (regs : RegisterFile) (i : Nat) : UInt32 :=
  regs.slots[i]?.getD 0

/-- Latches `value` in slot `i`. -/
def setSlot (regs : RegisterFile) (i : Nat) (value : UInt32) : RegisterFile :=
  { regs with slots := regs.slots.setIfInBounds i value }

/-- A slot holds what was latched last. -/
theorem slot_setSlot (regs : RegisterFile) {i : Nat} (value : UInt32)
    (h : i < Register.space / 4) : (regs.setSlot i value).slot i = value := by
  simp [slot, setSlot, h]

/-- Latching leaves the other slots alone. -/
theorem slot_setSlot_ne (regs : RegisterFile) {i j : Nat} (value : UInt32) (h : i ≠ j) :
    (regs.setSlot i value).slot j = regs.slot j := by
  simp [slot, setSlot, Vector.getElem?_setIfInBounds_ne h]

/-! ## The four primitives -/

/-- The 32-bit value of the slot at `offset`, with the stuck bits in the interrupt status. -/
def read32 (regs : RegisterFile) (offset : Nat) : UInt32 :=
  let value := regs.slot (offset / 4)
  if offset = Register.interruptStatus then value ||| regs.stuck else value

/-- Stores a word in the slot at `offset`; in the interrupt status it clears the bits given. -/
def write32 (regs : RegisterFile) (offset : Nat) (value : UInt32) : RegisterFile :=
  let stored :=
    if offset = Register.interruptStatus then regs.slot (offset / 4) &&& ~~~value else value
  { regs.setSlot (offset / 4) stored with history := .word offset value :: regs.history }

/-- A register other than the interrupt status holds the word written last. -/
theorem read32_write32 (regs : RegisterFile) {offset : Nat} (value : UInt32)
    (h : offset < Register.space) (hs : offset ≠ Register.interruptStatus) :
    (regs.write32 offset value).read32 offset = value := by
  have hi : offset / 4 < Register.space / 4 := by
    simp only [Register.space] at h ⊢
    omega
  simp only [read32, write32, if_neg hs]
  exact slot_setSlot regs value hi

/-- The first bit, in its slot, of the byte at `offset`. -/
def lane (offset : Nat) : UInt32 :=
  8 * UInt32.ofNat (offset % 4)

/-- The byte at `offset`. -/
def read8 (regs : RegisterFile) (offset : Nat) : UInt8 :=
  (regs.slot (offset / 4) >>> lane offset).toUInt8

/-- Stores a byte at `offset`, leaving the other bytes of its slot alone. -/
def write8 (regs : RegisterFile) (offset : Nat) (value : UInt8) : RegisterFile :=
  let old := regs.slot (offset / 4)
  let stored := (old &&& ~~~((0xff : UInt32) <<< lane offset)) ||| (value.toUInt32 <<< lane offset)
  { regs.setSlot (offset / 4) stored with history := .byte offset value :: regs.history }

/-- The file has the slots of the register window and no others. -/
def permit (_ : RegisterFile) (offset _width : Nat) : Except Fault Unit :=
  if offset < Register.space then .ok () else .error .indexOutOfRange

instance : RegisterAccess RegisterFile where
  permit := permit
  read32 := read32
  write32 := write32
  read8 := read8
  write8 := write8

/-! ## What the chip does -/

/-- Latches interrupt status bits, as the chip does when their conditions arise. -/
def raise (regs : RegisterFile) (bits : UInt32) : RegisterFile :=
  let i := Register.interruptStatus / 4
  regs.setSlot i (regs.slot i ||| bits)

/-! ## What an observer sees -/

/-- The offsets and values of the slots that are not zero, in order. -/
def nonzero (regs : RegisterFile) : List (Nat × UInt32) :=
  (List.range (Register.space / 4)).filterMap fun i =>
    if regs.slot i = 0 then none else some (4 * i, regs.slot i)

/-- The registers with their history of writes forgotten. -/
def forget (regs : RegisterFile) : RegisterFile :=
  { regs with history := [] }

end RegisterFile

end VideoCapture
