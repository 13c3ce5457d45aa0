import VideoCapture.Error
import VideoCapture.Format.Norm
import VideoCapture.Register.File

/-!
# Picture controls

Six controls adjust the picture. Each has a range, to which a value is brought before it is written,
and a register of the decoder that holds it in an encoding of its own.

## Main definitions

* `VideoCapture.ControlId`, `VideoCapture.Control` — the controls and their properties.
* `VideoCapture.ControlId.control` — the properties of a control.
* `VideoCapture.ControlId.inactive` — where a control has no effect.
* `VideoCapture.ControlId.set` — programs a control.
-/

set_option autoImplicit false

namespace VideoCapture

/-- The picture controls. -/
inductive ControlId where
  | brightness
  | contrast
  | hue
  | saturation
  | chromaGain
  | colorKiller
  deriving DecidableEq

/-- What values a control takes. -/
inductive ControlKind where
  /-- A number. -/
  | integer
  /-- Off or on. -/
  | boolean
  deriving DecidableEq

/-- The properties of a control. -/
structure Control where
  /-- Name for users. -/
  name : String
  /-- What values it takes. -/
  kind : ControlKind
  /-- The least value. -/
  minimum : Int
  /-- The greatest value. -/
  maximum : Int
  /-- The step between values. -/
  step : Int
  /-- The value after power-on. -/
  default : Int
  deriving DecidableEq

namespace ControlId

/-- The controls, in the order they are set at power-on. -/
def all : List ControlId :=
  [brightness, contrast, hue, saturation, chromaGain, colorKiller]

/-- The properties of each control. -/
def control : ControlId → Control
  | brightness => ⟨"Brightness", .integer, -128, 127, 2, 0⟩
  | contrast => ⟨"Contrast", .integer, 0, 0xff, 2, 84⟩
  | hue => ⟨"Hue", .integer, -90, 90, 1, 0⟩
  | saturation => ⟨"Saturation", .integer, 0, 0xff, 1, 0x7f⟩
  | chromaGain => ⟨"Chroma AGC", .boolean, 0, 1, 1, 1⟩
  | colorKiller => ⟨"Color killer", .boolean, 0, 1, 1, 1⟩

/-- The place of a control in the list of all. -/
def index : ControlId → Nat
  | brightness => 0
  | contrast => 1
  | hue => 2
  | saturation => 3
  | chromaGain => 4
  | colorKiller => 5

/-- Whether a control is present but without effect: under SECAM there is no chroma gain. -/
def inactive (id : ControlId) (norm : Norm) : Bool :=
  id == chromaGain && norm.isSecam

/-- The value nearest to `value` in a control's range. -/
def bring (id : ControlId) (value : Int) : Int :=
  min (max value id.control.minimum) id.control.maximum

/-- A value brought to a control's range lies in it. -/
theorem bring_bounds (id : ControlId) (value : Int) :
    id.control.minimum ≤ id.bring value ∧ id.bring value ≤ id.control.maximum := by
  cases id <;> simp only [bring, control] <;> omega

/-- The low byte of an integer, negative ones taken modulo 256. -/
def lowByte (value : Int) : UInt8 :=
  UInt8.ofNat (value % 256).toNat

/-- The saturation of the V component that goes with `u` of the U component. Under SECAM they are
the same; otherwise they keep the ratio of 90 to 127. -/
def saturationV (norm : Norm) (u : UInt8) : UInt8 :=
  if norm.isSecam then u else UInt8.ofNat (u.toNat * 0x5a / 0x7f)

/-- Writes a value in a control's range to the decoder. -/
def write (regs : RegisterFile) (norm : Norm) (id : ControlId) (value : Int) : RegisterFile :=
  match id with
  | brightness => regs.write8 Register.brightness (lowByte value)
  | contrast => regs.write8 Register.contrast (lowByte value)
  | hue => regs.write8 Register.hue (lowByte (value - 128))
  | saturation =>
    let u := lowByte value
    (regs.write8 Register.saturationV (saturationV norm u)).write8 Register.saturationU u
  | chromaGain =>
    RegisterAccess.merge8 regs Register.analogControl 0x10 (if value = 0 then 0 else 0x10)
  | colorKiller =>
    RegisterAccess.merge8 regs Register.colorKiller 0xe0 (if value = 0 then 0 else 0xe0)

/-- Programs a control to the value nearest to `value`, which is the answer. Chroma gain cannot be
switched on under SECAM. -/
def set (regs : RegisterFile) (norm : Norm) (id : ControlId) (value : Int) :
    Except Error (Int × RegisterFile) :=
  let applied := id.bring value
  if id.inactive norm ∧ applied ≠ 0 then .error .invalidArgument
  else .ok (applied, write regs norm id applied)

end ControlId

end VideoCapture
