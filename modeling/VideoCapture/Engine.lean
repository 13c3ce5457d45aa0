import VideoCapture.Decoder.Setup

/-!
# Starting and stopping the engine

The engine executes programs while it is enabled. Starting it programs the scaler, the address of
the first program and the colour format, and passes the interrupts of the capture path on; stopping
it takes back the enables and the interrupts, and acknowledges what was latched meanwhile so that it
cannot be taken for a sign of the program started next.

## Main definitions

* `VideoCapture.Engine` — the interrupt sources wanted.
* `VideoCapture.Engine.start`, `VideoCapture.Engine.stop`, `VideoCapture.Engine.maskAll`.
* `VideoCapture.Engine.running` — whether the registers have the engine enabled.
-/

set_option autoImplicit false

namespace VideoCapture

/-- What is remembered about the engine. -/
structure Engine where
  /-- The interrupt sources that are wanted at present. -/
  mask : UInt32 := 0
  deriving DecidableEq

namespace Engine

/-- Programs the scaler for a geometry and a norm and starts the program at an address. -/
def start (engine : Engine) (regs : RegisterFile) (address : UInt32) (geometry : Geometry)
    (norm : Norm) : Except Fault (Engine × RegisterFile) := do
  let (_, regs) ← Decoder.setScale regs norm geometry.width geometry.height geometry.field
  let regs := regs.write32 Register.programStart address
  let regs := RegisterAccess.merge32 regs Register.dmaControl DmaControl.capture
    (geometry.format.color ||| DmaControl.enables)
  let mask := engine.mask ||| Status.video
  return ({ mask }, RegisterAccess.set32 regs Register.interruptMask mask)

/-- Disables the engine and its interrupts, and acknowledges what they have latched. -/
def stop (engine : Engine) (regs : RegisterFile) : Engine × RegisterFile :=
  let regs := RegisterAccess.clear32 regs Register.dmaControl DmaControl.enables
  let regs := RegisterAccess.clear32 regs Register.interruptMask Status.video
  ({ mask := engine.mask &&& ~~~Status.video },
    regs.write32 Register.interruptStatus Status.video)

/-- Masks every interrupt source. -/
def maskAll (_ : Engine) (regs : RegisterFile) : Engine × RegisterFile :=
  ({ mask := 0 }, regs.write32 Register.interruptMask 0)

/-- Whether the engine is enabled. -/
def running (regs : RegisterFile) : Bool :=
  regs.read32 Register.dmaControl &&& DmaControl.programEnable != 0

end Engine

end VideoCapture
