import VideoCapture.Arithmetic
import VideoCapture.Dma.Backend
import VideoCapture.Field.Region
import VideoCapture.Program.Layout

/-!
# Programs in memory

A program is a coherent allocation that holds the instructions of a frame, and behind them a jump,
its tail. Programs are chained by pointing the tail of one at the start of the next, which changes
nothing else; the engine may be executing the program meanwhile.

## Main definitions

* `VideoCapture.Program` — a program in memory.
* `VideoCapture.Program.build` — a program for a frame.
* `VideoCapture.Program.stopper` — the program that parks the engine.
* `VideoCapture.Program.retarget` — points the tail elsewhere.
* `VideoCapture.Program.snapshot`, `VideoCapture.Program.instructions` — what stands in memory.
-/

set_option autoImplicit false

namespace VideoCapture

/-- A program of the DMA engine. -/
structure Program where
  /-- The memory that holds it. -/
  memory : CoherentMemory
  /-- The word at which the tail begins. -/
  tail : Nat
  deriving DecidableEq

namespace Program

/-! ## Addresses -/

/-- Bus address of the first instruction. -/
def address (program : Program) : UInt32 :=
  program.memory.bus

/-- Bytes of the allocation. -/
def size (program : Program) : Nat :=
  program.memory.size

/-- Bus address of the tail. -/
def tailAddress (program : Program) : UInt32 :=
  program.address + UInt32.ofNat (4 * program.tail)

/-- Whether a bus address lies in the program's allocation. -/
def contains (program : Program) (address : UInt32) : Bool :=
  program.address.toNat ≤ address.toNat && address.toNat < program.address.toNat + program.size

/-! ## The tail -/

/-- Points the tail at `target`, with or without an interrupt. -/
def retarget (program : Program) (target : UInt32) (irq : Bool) : Program :=
  let jump : Instruction := { opcode := .jump, irq, address := target }
  { program with
    memory.words := (program.memory.words.set program.tail jump.control).set (program.tail + 1)
      target }

/-- Where the tail jumps to. -/
def tailTarget (program : Program) : UInt32 :=
  program.memory.words[program.tail + 1]?.getD 0

/-- Whether the tail raises an interrupt. -/
def tailInterrupts (program : Program) : Bool :=
  (program.memory.words[program.tail]?.getD 0).toNat / 0x8000000 % 2 == 1

/-! ## Contents -/

/-- The words up to the tail, which is included. -/
def snapshot (program : Program) : List UInt32 :=
  program.memory.words.take (program.tail + 2)

/-- The instructions up to the tail, which is included. -/
def instructions (program : Program) : List Instruction :=
  Instruction.decodeAll program.snapshot

/-! ## Making programs -/

/-- Bytes of the stopper: a jump and room for one more instruction. -/
def stopperSize : Nat := 16

/-- Writes the fields of a frame, one behind the other. -/
def writeFields (region : Region) (chunks : ScatterList) (mode : LineOffset) :
    List FieldLayout → Except Fault Region
  | [] => .ok region
  | layout :: rest => do writeFields (← region.field layout chunks mode) chunks mode rest

/-- Where in the given memory a tail begins, in bytes of the bus. Memory may end with the last byte
that has an address, but a tail behind that has none. -/
def tailPlace (memory : CoherentMemory) (tail : Nat) : Except Fault Nat :=
  bounded bound32 (memory.bus.toNat + (UInt32.ofNat (4 * tail)).toNat)

/-- The given memory with what was written to a region at its beginning, and a tail behind that. -/
def filled (memory : CoherentMemory) (region : Region) : Program where
  memory := { memory with words := region.words ++ memory.words.drop region.position }
  tail := region.position

/-- A program for a frame in the given memory, its tail looping on itself. -/
def write (memory : CoherentMemory) (chunks : ScatterList) (layout : ProgramLayout)
    (mode : LineOffset) : Except Fault Program := do
  let region ← writeFields (.blank memory.words.length) chunks mode layout.parts
  if memory.size < 4 * (region.position + 2) then
    throw (.programOverflow (4 * (region.position + 2)) memory.size)
  let program := filled memory region
  let _ ← tailPlace memory program.tail
  return program.retarget program.tailAddress false

variable {δ : Type} [DmaBackend δ]

/-- Allocates and writes a program for a frame. -/
def build (dma : δ) (chunks : ScatterList) (layout : ProgramLayout) (mode : LineOffset) :
    Except Fault (Except Error Program × δ) := do
  if layout.parts.isEmpty then throw .programWithoutFields
  match DmaBackend.allocate dma (Instruction.bytes * layout.allowance) with
  | (.error error, dma) => return (.error error, dma)
  | (.ok memory, dma) => return (.ok (← write memory chunks layout mode), dma)

/-- Allocates the program that parks the engine: a single jump to itself. -/
def stopper (dma : δ) : Except Error Program × δ :=
  match DmaBackend.allocate dma stopperSize with
  | (.error error, dma) => (.error error, dma)
  | (.ok memory, dma) =>
    let program : Program := { memory, tail := 0 }
    (.ok (program.retarget program.address false), dma)

/-- Gives the memory of a program back. -/
def discard (program : Program) (dma : δ) : δ :=
  DmaBackend.free dma program.memory

end Program

end VideoCapture
