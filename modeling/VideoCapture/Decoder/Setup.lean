import VideoCapture.Decoder.Control
import VideoCapture.Decoder.Scaling

/-!
# Bringing the decoder up

After a reset the decoder gets a fixed set of register values. The norm and the input are chosen by
fields of a few bits in shared registers. That the driver lets the chip settle for a while between
the reset and the first value is not described.

## Main definitions

* `VideoCapture.Decoder.shutdown` — stops transfers and masks every interrupt.
* `VideoCapture.Decoder.reset` — resets the chip and writes the power-on values.
* `VideoCapture.Decoder.setNorm`, `VideoCapture.Decoder.selectInput`,
  `VideoCapture.Decoder.setScale` — the choice of norm, input and size.
-/

set_option autoImplicit false

namespace VideoCapture.Decoder

/-- Number of inputs the decoder can select from. -/
abbrev inputCount : Nat := 4

/-- The decoder registers written after a reset, in order. -/
def powerOn : List (Nat × UInt8) := [
  (Register.inputForm, 0x40), (Register.horizontalSync, 0x00), (Register.analogControl, 0x42),
  (Register.filterControl, 0xcc), (Register.cropHigh, 0x02), (Register.verticalDelay, 0x18),
  (Register.verticalActive, 0xf0), (Register.horizontalDelay, 0x0f),
  (Register.horizontalActive, 0xd0), (Register.verticalScale, 0x00), (Register.scaleHigh, 0x11),
  (Register.horizontalScale, 0x00), (Register.brightness, 0x00), (Register.contrast, 0x5c),
  (Register.sharpness, 0x98), (Register.saturationU, 0x80), (Register.saturationV, 0x80),
  (Register.hue, 0x00), (Register.sharpness2, 0xc6), (Register.coring, 0x44),
  (Register.captionStatus, 0x0a), (Register.standard, 0x07),
  (Register.standardRecognition, 0x7f), (Register.standardCopy, 0x07),
  (Register.recognitionCopy, 0x7f), (Register.clampGain, 0x50), (Register.gainControl, 0x42),
  (Register.gainValue, 0xf0), (Register.peakWhite, 0xd8), (Register.clampLevel, 0xbc),
  (Register.syncAmplitude, 0xb8), (Register.missingSync, 0x44), (Register.clampPosition, 0x2a),
  (Register.verticalControl, 0x00), (Register.verticalControl2, 0x00),
  (Register.colorKiller, 0x78), (Register.misc1, 0x14), (Register.misc2, 0xe0),
  (Register.copyProtection, 0x00), (Register.clampControl2, 0x00), (Register.fillData, 0xa0),
  (Register.sliceLevel, 0x00)]

/-- Stops transfers and masks every interrupt. -/
def shutdown (regs : RegisterFile) : RegisterFile :=
  (RegisterAccess.clear32 regs Register.dmaControl DmaControl.enables).write32
    Register.interruptMask 0

/-- Resets the chip and writes the power-on values. -/
def reset (regs : RegisterFile) : RegisterFile :=
  let regs := (shutdown regs).write32 Register.interruptStatus 0xffffffff
  let regs := regs.write8 Register.analogControl 0x80
  let regs := powerOn.foldl (fun regs (offset, value) => regs.write8 offset value) regs
  let regs := regs.write32 Register.blankingControl 0x03
  let regs := regs.write32 Register.dmaControl 0x2000
  regs.write32 Register.test 0

/-- Selects the standard of a norm. -/
def setNorm (regs : RegisterFile) (norm : Norm) : RegisterFile :=
  let regs := RegisterAccess.merge8 regs Register.standard 0x07 norm.code
  RegisterAccess.merge8 regs Register.standardCopy 0x07 norm.code

/-- Routes an input to the decoder. -/
def selectInput (regs : RegisterFile) (input : Nat) : Except Error RegisterFile :=
  if input < inputCount then
    .ok (RegisterAccess.merge8 regs Register.inputForm 0x0c (UInt8.ofNat (4 * input)))
  else .error .invalidArgument

/-- Crops and scales to a size, and answers the values used. -/
def setScale (regs : RegisterFile) (norm : Norm) (width height : Nat) (field : FieldMode) :
    Except Fault (Scaling × RegisterFile) := do
  let scaling ← Scaling.compute norm width height field
  return (scaling, scaling.program regs)

end VideoCapture.Decoder
