import VideoCapture.Format.Geometry
import VideoCapture.Register.File

/-!
# Cropping and scaling

The decoder crops the active picture of a norm and scales it to the size captured. The six values
are wider than a byte: their low bytes have registers of their own, their high bits share two.

## Main definitions

* `VideoCapture.Scaling` — the six values, and `Scaling.compute` — the values for a size.
* `VideoCapture.Scaling.cropHigh`, `VideoCapture.Scaling.scaleHigh` — the shared high bits.
* `VideoCapture.Scaling.program` — writes the values to the decoder.
-/

set_option autoImplicit false

namespace VideoCapture

/-- Crop and scale values of the decoder. -/
structure Scaling where
  /-- Active pixels of a line. -/
  horizontalActive : Nat
  /-- Pixels skipped at the start of a line. -/
  horizontalDelay : Nat
  /-- Ratio of active pixels to pixels captured, with eight binary places. -/
  horizontalScale : Nat
  /-- Active lines. -/
  verticalActive : Nat
  /-- Lines skipped at the start of a field. -/
  verticalDelay : Nat
  /-- Ratio of active lines to lines captured, with eight binary places. -/
  verticalScale : Nat
  deriving DecidableEq

/-- A quotient, for a divisor that must not be zero. -/
def quotient (n divisor : Nat) : Except Fault Nat :=
  if divisor = 0 then .error .divisionByZero else .ok (n / divisor)

namespace Scaling

/-- The lines of a whole frame, of which a single field is half. -/
def frameLines (height : Nat) (field : FieldMode) : Nat :=
  if field.hasBoth then height else height * 2

/-- The values that capture a size under a norm. -/
def compute (norm : Norm) (width height : Nat) (field : FieldMode) : Except Fault Scaling := do
  let horizontalScale ← quotient (norm.width * 256) width
  let verticalScale ← quotient (norm.height * 256) (frameLines height field)
  return {
    horizontalActive := norm.width
    horizontalDelay := norm.horizontalDelay
    horizontalScale
    verticalActive := norm.height
    verticalDelay := norm.verticalDelay
    verticalScale }

/-- Bits 8 and 9 of the four crop values, in one byte. -/
def cropHigh (s : Scaling) : UInt8 :=
  UInt8.ofNat (s.verticalDelay / 256 % 4 * 64 + s.verticalActive / 256 % 4 * 16
    + s.horizontalDelay / 256 % 4 * 4 + s.horizontalActive / 256 % 4)

/-- Bits 8 to 11 of the two scales, in one byte. -/
def scaleHigh (s : Scaling) : UInt8 :=
  UInt8.ofNat (s.verticalScale / 256 % 16 * 16 + s.horizontalScale / 256 % 16)

/-- The registers that hold the values, in the order they are written, with their contents. -/
def registers (s : Scaling) : List (Nat × UInt8) := [
  (Register.cropHigh, s.cropHigh),
  (Register.verticalDelay, UInt8.ofNat s.verticalDelay),
  (Register.verticalActive, UInt8.ofNat s.verticalActive),
  (Register.horizontalDelay, UInt8.ofNat s.horizontalDelay),
  (Register.horizontalActive, UInt8.ofNat s.horizontalActive),
  (Register.scaleHigh, s.scaleHigh),
  (Register.verticalScale, UInt8.ofNat s.verticalScale),
  (Register.horizontalScale, UInt8.ofNat s.horizontalScale)]

/-- Writes the values to the decoder. -/
def program (s : Scaling) (regs : RegisterFile) : RegisterFile :=
  s.registers.foldl (fun regs (offset, value) => regs.write8 offset value) regs

end Scaling

end VideoCapture
