import VideoCapture.Instruction.Basic

/-!
# The layout of a field in its buffer

A field is a number of lines of equal length, each followed by the same number of bytes that are
skipped.

## Main definitions

* `VideoCapture.FieldLayout` — where the lines of a field lie in the buffer.
* `VideoCapture.LineOffset` — whether a line reports its offset in its chunk.
* `VideoCapture.pageSize` — the granularity of mappings and programs.
* `VideoCapture.estimateInstructions` — an allowance for the instructions of a program.
-/

set_option autoImplicit false

namespace VideoCapture

/-- Bytes of a page, the granularity of buffer mappings and program allocations. -/
abbrev pageSize : Nat := 4096

/-- Whether the first instruction of a line that fits into its chunk tells its offset there.

The address word points at the right byte in any case; some chips want the offset as well. -/
inductive LineOffset where
  /-- The start offset is left zero. -/
  | omit
  /-- The start offset is the offset in the chunk. -/
  | encode
  deriving DecidableEq

/-- The lines of one field in a capture buffer. -/
structure FieldLayout where
  /-- The field to wait for first, if any. -/
  sync : Option Parity
  /-- Offset in the buffer of the first line. -/
  offset : Nat
  /-- Bytes of a line. -/
  lineBytes : Nat
  /-- Bytes skipped behind each line. -/
  padding : Nat
  /-- Number of lines. -/
  lines : Nat
  /-- Every how many lines an interrupt is raised; zero for never. -/
  linesPerInterrupt : Nat
  deriving DecidableEq

/-- An allowance for the instructions of `fields` fields of the given shape and a tail jump.

Each field has its sync, each line at least one instruction, and a line goes on in a new chunk at
most once per page that the field spans. The numbers of a layout have 32 bits and the span has 64,
which it fits if a line has `2 ^ 32` bytes at most with its padding; no line of a frame comes near,
and the span is not asked for it. -/
def estimateInstructions (fields lineBytes padding lines : Nat) : Nat :=
  let span := (lineBytes + padding) * lines
  fields * (1 + (span + (pageSize - 1)) / pageSize + lines) + 2

end VideoCapture
