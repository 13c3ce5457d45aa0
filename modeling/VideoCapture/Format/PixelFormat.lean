/-!
# Pixel formats

A pixel format is known by a code of four characters, packed into a word with the first character
lowest. The DMA control register takes a code of its own for it.

## Main definitions

* `VideoCapture.fourcc` — packs the four characters of a code.
* `VideoCapture.PixelFormat` — a format, and `PixelFormat.all` — the formats of the chip.
* `VideoCapture.PixelFormat.find?` — the format of a code.
-/

set_option autoImplicit false

namespace VideoCapture

/-- The code of four characters as a word, the first character lowest. -/
def fourcc (a b c d : Char) : UInt32 :=
  UInt32.ofNat (a.toNat + b.toNat * 0x100 + c.toNat * 0x10000 + d.toNat * 0x1000000)

/-- How pixels are stored. -/
structure PixelFormat where
  /-- Name for users. -/
  name : String
  /-- Four-character code. -/
  code : UInt32
  /-- Value of the colour format bits of the DMA control register. -/
  color : UInt32
  /-- Bits of a pixel. -/
  depth : Nat
  deriving DecidableEq

namespace PixelFormat

/-! ## Colour format bits: the format proper, and swaps of bytes and words -/

/-- Four bytes of RGB. -/
def rgb32 : UInt32 := 0x00
/-- Three bytes of RGB. -/
def rgb24 : UInt32 := 0x10
/-- Two bytes of RGB, 5-6-5. -/
def rgb16 : UInt32 := 0x20
/-- Two bytes of RGB, 5-5-5. -/
def rgb15 : UInt32 := 0x30
/-- Packed 4:2:2. -/
def yuy2 : UInt32 := 0x40
/-- Swaps the bytes of each pair. -/
def byteSwap : UInt32 := 0x04
/-- Swaps the pairs of bytes. -/
def wordSwap : UInt32 := 0x08

/-- The formats of the chip. -/
def all : List PixelFormat := [
  ⟨"32 bpp RGB, le", fourcc 'B' 'G' 'R' '4', rgb32, 32⟩,
  ⟨"32 bpp RGB, be", fourcc 'R' 'G' 'B' '4', rgb32 ||| byteSwap ||| wordSwap, 32⟩,
  ⟨"24 bpp RGB, le", fourcc 'B' 'G' 'R' '3', rgb24, 24⟩,
  ⟨"16 bpp RGB, le", fourcc 'R' 'G' 'B' 'P', rgb16, 16⟩,
  ⟨"16 bpp RGB, be", fourcc 'R' 'G' 'B' 'R', rgb16 ||| byteSwap, 16⟩,
  ⟨"15 bpp RGB, le", fourcc 'R' 'G' 'B' 'O', rgb15, 16⟩,
  ⟨"15 bpp RGB, be", fourcc 'R' 'G' 'B' 'Q', rgb15 ||| byteSwap, 16⟩,
  ⟨"4:2:2, packed, YUYV", fourcc 'Y' 'U' 'Y' 'V', yuy2, 16⟩,
  ⟨"4:2:2, packed, UYVY", fourcc 'U' 'Y' 'V' 'Y', yuy2 ||| byteSwap, 16⟩]

/-- The format that a new opener starts from: three bytes of RGB. -/
def initial : PixelFormat :=
  ⟨"24 bpp RGB, le", fourcc 'B' 'G' 'R' '3', rgb24, 24⟩

/-- The format of a four-character code. -/
def find? (code : UInt32) : Option PixelFormat :=
  all.find? fun format => format.code == code

end PixelFormat

end VideoCapture
