/-!
# The register map

The chip exposes one register window. Offsets below `0x100` are 32-bit registers of the DMA
controller; from `0x200` on the video decoder has one byte register per 32-bit slot.

## Main definitions

* `VideoCapture.Register` — the named offsets and the size of the window.
* `VideoCapture.DmaControl` — bits of the DMA control register.
* `VideoCapture.Status` — bits of the interrupt status and mask registers.
-/

set_option autoImplicit false

namespace VideoCapture

namespace Register

/-- Bytes of the register window. -/
abbrev space : Nat := 0x300

/-! ## DMA controller, 32 bits each -/

/-- DMA control. -/
abbrev dmaControl : Nat := 0x000
/-- Address of the program to start. -/
abbrev programStart : Nat := 0x004
/-- Address the engine fetches from. -/
abbrev programPointer : Nat := 0x00c
/-- Control of the blanking interval engine. -/
abbrev blankingControl : Nat := 0x010
/-- Latched interrupt status; a one written clears its bit. -/
abbrev interruptStatus : Nat := 0x01c
/-- Interrupt sources passed on. -/
abbrev interruptMask : Nat := 0x020
/-- Test modes. -/
abbrev test : Nat := 0x02c

/-! ## Video decoder, one byte per slot -/

/-- Input format and multiplexer. -/
abbrev inputForm : Nat := 0x208
/-- Delay of the horizontal sync. -/
abbrev horizontalSync : Nat := 0x210
/-- Analog control, with the reset and automatic gain bits. -/
abbrev analogControl : Nat := 0x218
/-- High bits of the four crop values. -/
abbrev cropHigh : Nat := 0x21c
/-- Low byte of the vertical delay. -/
abbrev verticalDelay : Nat := 0x220
/-- Low byte of the active lines. -/
abbrev verticalActive : Nat := 0x224
/-- Low byte of the horizontal delay. -/
abbrev horizontalDelay : Nat := 0x228
/-- Low byte of the active pixels. -/
abbrev horizontalActive : Nat := 0x22c
/-- Filter control. -/
abbrev filterControl : Nat := 0x230
/-- Low byte of the vertical scale. -/
abbrev verticalScale : Nat := 0x234
/-- High bits of both scales. -/
abbrev scaleHigh : Nat := 0x238
/-- Low byte of the horizontal scale. -/
abbrev horizontalScale : Nat := 0x23c
/-- Brightness. -/
abbrev brightness : Nat := 0x240
/-- Contrast. -/
abbrev contrast : Nat := 0x244
/-- Sharpness. -/
abbrev sharpness : Nat := 0x248
/-- Saturation of the U component. -/
abbrev saturationU : Nat := 0x24c
/-- Saturation of the V component. -/
abbrev saturationV : Nat := 0x250
/-- Hue. -/
abbrev hue : Nat := 0x254
/-- Second sharpness control. -/
abbrev sharpness2 : Nat := 0x258
/-- Second copy of the standard code. -/
abbrev standardCopy : Nat := 0x25c
/-- Coring. -/
abbrev coring : Nat := 0x260
/-- Status of the caption decoder. -/
abbrev captionStatus : Nat := 0x268
/-- Standard selection. -/
abbrev standard : Nat := 0x270
/-- Standards recognised automatically. -/
abbrev standardRecognition : Nat := 0x274
/-- Second copy of the recognised standards. -/
abbrev recognitionCopy : Nat := 0x278
/-- Clamping gain. -/
abbrev clampGain : Nat := 0x280
/-- Gain control of the luminance path. -/
abbrev gainControl : Nat := 0x284
/-- Gain value. -/
abbrev gainValue : Nat := 0x288
/-- White peak threshold. -/
abbrev peakWhite : Nat := 0x28c
/-- Clamping level. -/
abbrev clampLevel : Nat := 0x290
/-- Sync amplitude. -/
abbrev syncAmplitude : Nat := 0x294
/-- Tolerated missing syncs. -/
abbrev missingSync : Nat := 0x298
/-- Clamping position. -/
abbrev clampPosition : Nat := 0x29c
/-- Vertical control. -/
abbrev verticalControl : Nat := 0x2a0
/-- Second vertical control. -/
abbrev verticalControl2 : Nat := 0x2a4
/-- Colour killer. -/
abbrev colorKiller : Nat := 0x2a8
/-- Miscellaneous control. -/
abbrev misc1 : Nat := 0x2b4
/-- Second miscellaneous control. -/
abbrev misc2 : Nat := 0x2b8
/-- Detection of copy protection. -/
abbrev copyProtection : Nat := 0x2c0
/-- Second clamping control. -/
abbrev clampControl2 : Nat := 0x2c4
/-- Fill data. -/
abbrev fillData : Nat := 0x2c8
/-- Slicing level of the caption decoder. -/
abbrev sliceLevel : Nat := 0x2d8

end Register

/-! ## Bits of the DMA control register -/

namespace DmaControl

/-- The engine executes programs. -/
abbrev programEnable : UInt32 := 0x1
/-- The pixel queue is enabled. -/
abbrev queueEnable : UInt32 := 0x2
/-- Both enables. -/
abbrev enables : UInt32 := 0x3
/-- The bits that belong to the capture path: colour format and enables. -/
abbrev capture : UInt32 := 0x7f

end DmaControl

/-! ## Interrupt status bits -/

namespace Status

/-- A program instruction asked for an interrupt. -/
abbrev program : UInt32 := 0x2
/-- The pixel queue has overflowed. -/
abbrev pixelOverflow : UInt32 := 0x8
/-- The conditions that stop the engine: a bus abort, a program error, a sync mismatch and an
overflow of the pixel queue. -/
abbrev faults : UInt32 := 0x78
/-- Everything the capture path enables and acknowledges. -/
abbrev video : UInt32 := 0x7a

end Status

end VideoCapture
