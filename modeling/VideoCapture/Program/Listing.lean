import VideoCapture.Instruction.Listing
import VideoCapture.Program.Basic

/-!
# Listings of programs

## Main definitions

* `VideoCapture.Program.listing` — a program as text, one instruction a line.
-/

set_option autoImplicit false

namespace VideoCapture

/-- The instructions of a program as text, each behind its bus address. -/
def Program.listing (program : Program) : String :=
  Instruction.listing program.address program.instructions

end VideoCapture
