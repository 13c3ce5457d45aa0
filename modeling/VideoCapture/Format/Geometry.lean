import VideoCapture.Error
import VideoCapture.Format.FieldMode
import VideoCapture.Format.Norm
import VideoCapture.Format.PixelFormat

/-!
# Capture geometry

A geometry is what a frame looks like in memory: its size in pixels, the format of a pixel and the
arrangement of its fields.

## Main definitions

* `VideoCapture.Geometry` — a geometry, with the sizes in bytes that follow from it.
* `VideoCapture.Geometry.chains` — which frames can follow each other without a pause.
* `VideoCapture.FormatRequest`, `VideoCapture.FormatRequest.negotiate` — a wish, and the nearest
  geometry that a norm can deliver.
-/

set_option autoImplicit false

namespace VideoCapture

/-- The geometry of a captured frame. -/
structure Geometry where
  /-- Pixels of a line. -/
  width : Nat
  /-- Lines. -/
  height : Nat
  /-- Format of the pixels. -/
  format : PixelFormat
  /-- Arrangement of the fields. -/
  field : FieldMode
  deriving DecidableEq

namespace Geometry

/-- Bytes of a line. -/
def lineBytes (g : Geometry) : Nat :=
  g.width * g.format.depth / 8

/-- Bytes of a frame. -/
def imageBytes (g : Geometry) : Nat :=
  g.lineBytes * g.height

/-- Where a frame's fields lie in its buffer. -/
def layout (g : Geometry) : Except Fault ProgramLayout :=
  g.field.layout g.lineBytes g.height

/-- Whether a frame of geometry `h` can be captured right after one of geometry `g` with the decoder
and the colour format left as they are. -/
def chains (g h : Geometry) : Bool :=
  g.width == h.width && g.height == h.height && g.format.code == h.format.code

end Geometry

/-! ## Negotiation -/

/-- The geometry that an opener wishes for. -/
structure FormatRequest where
  /-- Pixels of a line. -/
  width : Nat
  /-- Lines. -/
  height : Nat
  /-- Four-character code of the pixel format. -/
  code : UInt32
  /-- Arrangement of the fields. -/
  field : FieldMode
  deriving DecidableEq

/-- The number nearest to `n` in a range, which must not be empty. -/
def clamp (lo hi n : Nat) : Except Fault Nat :=
  if hi < lo then .error .emptyRange else .ok (min (max n lo) hi)

namespace FormatRequest

/-- The field mode asked for. One left open becomes the bottom field, or both fields if the height
takes more than one. -/
def resolvedField (request : FormatRequest) (norm : Norm) : FieldMode :=
  match request.field with
  | .any => if norm.height / 2 < request.height then .interlaced else .bottom
  | mode => mode

/-- The nearest geometry that a norm can deliver. The pixel format must be known; a size out of
range becomes the nearest in range, and the width a multiple of four. -/
def negotiate (request : FormatRequest) (norm : Norm) : Except Fault (Except Error Geometry) :=
  match PixelFormat.find? request.code with
  | none => .ok (.error .invalidArgument)
  | some format => do
    let field := request.resolvedField norm
    let maxHeight := if field.hasBoth then norm.height else norm.height / 2
    let height ← clamp minHeight maxHeight request.height
    let width ← clamp minWidth norm.width request.width
    return .ok { width := width / 4 * 4, height, format, field }

end FormatRequest

end VideoCapture
