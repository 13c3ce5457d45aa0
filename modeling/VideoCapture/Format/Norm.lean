/-!
# Television norms

Analog television comes in many standards. The decoder knows them in families, its norms, each with
a timing of its own.

## Main definitions

* `VideoCapture.Standards` — sets of standards, as bits.
* `VideoCapture.Norm` — a family of standards with its timing, and `Norm.all` — the chip's norms.
* `VideoCapture.Norm.find?`, `VideoCapture.Norm.named?` — a norm by its standards or its name.
-/

set_option autoImplicit false

namespace VideoCapture

namespace Standards

/-- PAL as used in most countries: B, B1, G, H, I, D, D1 and K. -/
def pal : UInt64 := 0x000000ff
/-- PAL with 525 lines. -/
def palM : UInt64 := 0x00000100
/-- PAL with the narrow channel. -/
def palN : UInt64 := 0x00000200
/-- The variant of narrow PAL with another carrier. -/
def palNc : UInt64 := 0x00000400
/-- PAL colour with the timing of 60 fields. -/
def pal60 : UInt64 := 0x00000800
/-- NTSC of Japan. -/
def ntscJapan : UInt64 := 0x00002000
/-- NTSC as of America, Japan and Korea. -/
def ntsc : UInt64 := 0x0000b000
/-- Every kind of SECAM. -/
def secam : UInt64 := 0x00ff0000

end Standards

/-- A family of standards that the decoder treats alike. -/
structure Norm where
  /-- Name for users. -/
  name : String
  /-- The standards of the family. -/
  standards : UInt64
  /-- Code of the standard selection register. -/
  code : UInt8
  /-- Active width in pixels. -/
  width : Nat
  /-- Active height in lines, both fields together. -/
  height : Nat
  /-- Horizontal delay. -/
  horizontalDelay : Nat
  /-- Vertical delay. -/
  verticalDelay : Nat
  deriving DecidableEq

/-- The smallest width that is captured. -/
abbrev minWidth : Nat := 48

/-- The smallest height that is captured. -/
abbrev minHeight : Nat := 32

/-- Two texts that differ in the case of ASCII letters only. -/
def sameLetters (a b : String) : Bool :=
  a.toList.map Char.toLower == b.toList.map Char.toLower

namespace Norm

/-- The norms of the decoder, in the order they are searched. -/
def all : List Norm := [
  ⟨"NTSC-JP", Standards.ntscJapan, 0, 640, 480, 135, 0x16⟩,
  ⟨"NTSC", Standards.ntsc, 0, 768, 480, 128, 0x1a⟩,
  ⟨"PAL-M", Standards.palM, 4, 640, 480, 135, 0x1a⟩,
  ⟨"PAL-N", Standards.palN, 5, 720, 576, 15, 23⟩,
  ⟨"PAL-Nc", Standards.palNc, 5, 640, 576, 130, 0x1a⟩,
  ⟨"PAL-60", Standards.pal60, 6, 924, 480, 186, 0x1a⟩,
  ⟨"PAL", Standards.pal, 1, 720, 576, 15, 0x17⟩,
  ⟨"SECAM", Standards.secam, 2, 924, 576, 186, 0x20⟩]

/-- The norm in force until another is chosen: PAL with 525 lines. -/
def initial : Norm :=
  ⟨"PAL-M", Standards.palM, 4, 640, 480, 135, 0x1a⟩

/-- Whether a norm has one of the given standards. -/
def covers (norm : Norm) (standards : UInt64) : Bool :=
  norm.standards &&& standards != 0

/-- Whether a norm is a kind of SECAM. -/
def isSecam (norm : Norm) : Bool :=
  norm.covers Standards.secam

/-- Whether a buffer of this size can be captured under a norm. -/
def accepts (norm : Norm) (width height : Nat) : Bool :=
  minWidth ≤ width && width ≤ norm.width && minHeight ≤ height && height ≤ norm.height

/-- The first norm that has one of the given standards. -/
def find? (standards : UInt64) : Option Norm :=
  all.find? fun norm => norm.covers standards

/-- The norm of a name, in capital or small letters. -/
def named? (name : String) : Option Norm :=
  all.find? fun norm => sameLetters norm.name name

end Norm

end VideoCapture
