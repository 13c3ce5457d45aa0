import VideoCapture.Fault
import VideoCapture.Program.Layout

/-!
# Field modes

A frame is sent as two fields. A field mode says which of them a buffer receives and how their lines
are arranged in it.

## Main definitions

* `VideoCapture.FieldMode` — the modes.
* `VideoCapture.FieldMode.layout` — where a mode puts the fields of a frame.
-/

set_option autoImplicit false

namespace VideoCapture

/-- Which fields a buffer receives, and how they are arranged in it. -/
inductive FieldMode where
  /-- Left open; negotiation decides. -/
  | any
  /-- The top field alone. -/
  | top
  /-- The bottom field alone. -/
  | bottom
  /-- Both fields, their lines alternating. -/
  | interlaced
  /-- Both fields, the top field in the first half of the buffer. -/
  | topThenBottom
  /-- Both fields, the bottom field in the first half of the buffer. -/
  | bottomThenTop
  deriving DecidableEq

namespace FieldMode

/-- Whether a frame holds both fields. -/
def hasBoth : FieldMode → Bool
  | any | top | bottom => false
  | interlaced | topThenBottom | bottomThenTop => true

/-- Where the fields lie in a buffer of `height` lines of `lineBytes` bytes. -/
def layout (mode : FieldMode) (lineBytes height : Nat) : Except Fault ProgramLayout :=
  let half := lineBytes * (height / 2)
  match mode with
  | any => .error .fieldUnresolved
  | top => .ok ⟨some 0, none, lineBytes, 0, height⟩
  | bottom => .ok ⟨none, some 0, lineBytes, 0, height⟩
  | interlaced => .ok ⟨some 0, some lineBytes, lineBytes, lineBytes, height / 2⟩
  | topThenBottom => .ok ⟨some 0, some half, lineBytes, 0, height / 2⟩
  | bottomThenTop => .ok ⟨some half, some 0, lineBytes, 0, height / 2⟩

end FieldMode

end VideoCapture
