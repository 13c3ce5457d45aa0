/-!
# Instructions of the DMA engine

The engine executes a list of instructions of two 32-bit words. The first word packs, from the top,
an opcode of four bits, the interrupt flag, a data type of three bits, a start offset of twelve bits
and a byte count of twelve bits; the second is a bus address.

## Main definitions

* `VideoCapture.Opcode` — the five opcodes, with their codes.
* `VideoCapture.Instruction` — an instruction as its six parts.
* `VideoCapture.Instruction.encode`, `VideoCapture.Instruction.decode` — its two words and back.
-/

set_option autoImplicit false

namespace VideoCapture

/-- What an instruction makes the engine do. -/
inductive Opcode where
  /-- Waits for the start of the odd (top) field. -/
  | syncOdd
  /-- Waits for the start of the even (bottom) field. -/
  | syncEven
  /-- Continues at the address. -/
  | jump
  /-- Transfers the first bytes of a line. -/
  | lineStart
  /-- Transfers further bytes of the same line. -/
  | inline
  deriving DecidableEq

namespace Opcode

/-- The four bits that stand for an opcode. -/
def code : Opcode → Nat
  | syncOdd => 0xc
  | syncEven => 0xd
  | jump => 0xb
  | lineStart => 0x9
  | inline => 0xa

/-- The opcode that four bits stand for, if any. -/
def ofCode? : Nat → Option Opcode
  | 0xc => some syncOdd
  | 0xd => some syncEven
  | 0xb => some jump
  | 0x9 => some lineStart
  | 0xa => some inline
  | _ => none

/-- Every opcode is the one its code stands for. -/
@[simp] theorem ofCode?_code (op : Opcode) : ofCode? op.code = some op := by
  cases op <;> rfl

end Opcode

/-- One of the two fields of a frame. -/
inductive Parity where
  /-- The top field. -/
  | odd
  /-- The bottom field. -/
  | even
  deriving DecidableEq

/-- The opcode that waits for a field. -/
def Parity.opcode : Parity → Opcode
  | odd => .syncOdd
  | even => .syncEven

/-- An instruction of the DMA engine. -/
structure Instruction where
  /-- What to do. -/
  opcode : Opcode
  /-- Whether completing the instruction raises an interrupt. -/
  irq : Bool := false
  /-- Tag of the data; only its low three bits are encoded. -/
  dataType : UInt8 := 0
  /-- Start offset; only its low twelve bits are encoded. -/
  start : UInt16 := 0
  /-- Byte count; only its low twelve bits are encoded. -/
  count : UInt16 := 0
  /-- Bus address. -/
  address : UInt32 := 0
  deriving DecidableEq

namespace Instruction

/-- Bytes of an encoded instruction. -/
abbrev bytes : Nat := 8

/-- The largest byte count an instruction can carry. -/
abbrev maxCount : Nat := 4095

/-- The first word of an instruction. -/
def control (i : Instruction) : UInt32 :=
  UInt32.ofNat (i.opcode.code * 0x10000000 + i.irq.toNat * 0x8000000
    + i.dataType.toNat % 8 * 0x1000000 + i.start.toNat % 4096 * 4096 + i.count.toNat % 4096)

/-- The two words of an instruction. -/
def encode (i : Instruction) : UInt32 × UInt32 :=
  (i.control, i.address)

/-- The instruction that two words stand for, if the opcode is one of the five. -/
def decode (control address : UInt32) : Option Instruction := do
  let n := control.toNat
  let opcode ← Opcode.ofCode? (n / 0x10000000)
  return {
    opcode
    irq := n / 0x8000000 % 2 == 1
    dataType := UInt8.ofNat (n / 0x1000000 % 8)
    start := UInt16.ofNat (n / 4096 % 4096)
    count := UInt16.ofNat (n % 4096)
    address }

/-- The instruction with its interrupt flag set. -/
def flagged (i : Instruction) : Instruction :=
  { i with irq := true }

/-- A list of instructions as the words in memory. -/
def encodeAll (instructions : List Instruction) : List UInt32 :=
  instructions.flatMap fun i => [i.control, i.address]

/-- Reads words two by two and leaves out the pairs that are no instruction. -/
def decodeAll : List UInt32 → List Instruction
  | control :: address :: rest =>
    match decode control address with
    | some i => i :: decodeAll rest
    | none => decodeAll rest
  | _ => []

/-- Each instruction takes two words. -/
@[simp] theorem length_encodeAll (instructions : List Instruction) :
    (encodeAll instructions).length = 2 * instructions.length := by
  induction instructions with
  | nil => rfl
  | cons i rest ih =>
    simp only [encodeAll, List.flatMap_cons, List.length_append, List.length_cons,
      List.length_nil] at ih ⊢
    omega

end Instruction

end VideoCapture
