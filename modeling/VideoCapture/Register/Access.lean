import VideoCapture.Fault

/-!
# Access to a register window

A register window answers reads and takes writes of 8 and 32 bits at byte offsets. The operations
that change part of a register, such as setting and clearing bits, read it once and write the merged
value back, so they come out of the four primitives alike for every kind of window.

## Main definitions

* `VideoCapture.RegisterAccess` — the four primitives, and the check that an offset is inside.
* `VideoCapture.RegisterAccess.merge32`, `set32`, `clear32`, `merge8` — partial changes.
* `VideoCapture.RegisterAccess.Request` — one access at an arbitrary offset, and `perform`.
-/

set_option autoImplicit false

namespace VideoCapture

/-- Reads and writes of a register window.

The primitives are total; `permit` says which accesses the window has, and an access it refuses is
never to be made. -/
class RegisterAccess (ρ : Type) where
  /-- Refuses an access of `width` bytes at `offset` that the window does not have. -/
  permit : ρ → (offset width : Nat) → Except Fault Unit
  /-- The 32-bit value at an offset. -/
  read32 : ρ → (offset : Nat) → UInt32
  /-- The window after a 32-bit write. -/
  write32 : ρ → (offset : Nat) → UInt32 → ρ
  /-- The byte at an offset. -/
  read8 : ρ → (offset : Nat) → UInt8
  /-- The window after the write of a byte. -/
  write8 : ρ → (offset : Nat) → UInt8 → ρ

namespace RegisterAccess

variable {ρ : Type} [RegisterAccess ρ]

/-! ## Partial changes -/

/-- Replaces the bits of a 32-bit register that `mask` selects by those of `value`. -/
def merge32 (regs : ρ) (offset : Nat) (mask value : UInt32) : ρ :=
  write32 regs offset ((read32 regs offset &&& ~~~mask) ||| (value &&& mask))

/-- Sets `bits` in a 32-bit register. -/
def set32 (regs : ρ) (offset : Nat) (bits : UInt32) : ρ :=
  merge32 regs offset bits bits

/-- Clears `bits` in a 32-bit register. -/
def clear32 (regs : ρ) (offset : Nat) (bits : UInt32) : ρ :=
  merge32 regs offset bits 0

/-- Replaces the bits of a byte register that `mask` selects by those of `value`. -/
def merge8 (regs : ρ) (offset : Nat) (mask value : UInt8) : ρ :=
  write8 regs offset ((read8 regs offset &&& ~~~mask) ||| (value &&& mask))

/-! ## Accesses at arbitrary offsets -/

/-- One access to a register window. -/
inductive Request where
  | read32 (offset : Nat)
  | read8 (offset : Nat)
  | write32 (offset : Nat) (value : UInt32)
  | write8 (offset : Nat) (value : UInt8)
  | set32 (offset : Nat) (bits : UInt32)
  | clear32 (offset : Nat) (bits : UInt32)
  | merge32 (offset : Nat) (mask value : UInt32)
  | merge8 (offset : Nat) (mask value : UInt8)

namespace Request

/-- The offset an access goes to. -/
def offset : Request → Nat
  | .read32 o | .read8 o | .write32 o _ | .write8 o _ => o
  | .set32 o _ | .clear32 o _ | .merge32 o _ _ | .merge8 o _ _ => o

/-- The number of bytes an access covers. -/
def width : Request → Nat
  | .read8 _ | .write8 _ _ | .merge8 _ _ _ => 1
  | .read32 _ | .write32 _ _ | .set32 _ _ | .clear32 _ _ | .merge32 _ _ _ => 4

/-- What an access reads, if it is a read. -/
def answer (regs : ρ) : Request → Option Nat
  | .read32 o => some (RegisterAccess.read32 regs o).toNat
  | .read8 o => some (RegisterAccess.read8 regs o).toNat
  | _ => none

/-- The window after an access. -/
def apply (regs : ρ) : Request → ρ
  | .read32 _ | .read8 _ => regs
  | .write32 o v => RegisterAccess.write32 regs o v
  | .write8 o v => RegisterAccess.write8 regs o v
  | .set32 o bits => RegisterAccess.set32 regs o bits
  | .clear32 o bits => RegisterAccess.clear32 regs o bits
  | .merge32 o mask v => RegisterAccess.merge32 regs o mask v
  | .merge8 o mask v => RegisterAccess.merge8 regs o mask v

/-- Makes an access that the window admits: its answer, and the window afterwards. -/
def perform (regs : ρ) (request : Request) : Except Fault (Option Nat × ρ) := do
  permit regs request.offset request.width
  return (request.answer regs, request.apply regs)

end Request

end RegisterAccess

end VideoCapture
