import VideoCapture.Field.Layout

/-!
# The layout of a frame in its buffer

A frame consists of a top field, a bottom field or both, which share the shape of their lines.

## Main definitions

* `VideoCapture.ProgramLayout` — where the fields of a frame begin, and their common shape.
* `VideoCapture.ProgramLayout.parts` — the fields one by one, in the order they are captured.
-/

set_option autoImplicit false

namespace VideoCapture

/-- Where a program puts the fields of a frame. -/
structure ProgramLayout where
  /-- Offset of the first line of the top field, if it is captured. -/
  top : Option Nat
  /-- Offset of the first line of the bottom field, if it is captured. -/
  bottom : Option Nat
  /-- Bytes of a line. -/
  lineBytes : Nat
  /-- Bytes skipped behind each line. -/
  padding : Nat
  /-- Lines of each field. -/
  lines : Nat
  deriving DecidableEq

namespace ProgramLayout

/-- The field of the given parity that begins at `offset`. -/
def part (layout : ProgramLayout) (parity : Parity) (offset : Nat) : FieldLayout where
  sync := some parity
  offset := offset
  lineBytes := layout.lineBytes
  padding := layout.padding
  lines := layout.lines
  linesPerInterrupt := 0

/-- The fields that are captured, the top field first. -/
def parts (layout : ProgramLayout) : List FieldLayout :=
  (layout.top.map (layout.part .odd)).toList ++ (layout.bottom.map (layout.part .even)).toList

/-- The instructions allowed for a program of this layout. -/
def allowance (layout : ProgramLayout) : Nat :=
  estimateInstructions layout.parts.length layout.lineBytes layout.padding layout.lines

end ProgramLayout

end VideoCapture
