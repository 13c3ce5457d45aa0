import VideoCapture.Board
import VideoCapture.Config
import VideoCapture.Decoder.Setup

/-!
# Capture chips

A chip is brought up once: it is reset, and its norm, its picture controls and its input are
programmed. From then on it remembers what they are set to.

## Main definitions

* `VideoCapture.Location` — where a chip is plugged in.
* `VideoCapture.Chip` — what is remembered about a chip.
* `VideoCapture.Chip.bringUp` — a chip after power-on.
* `VideoCapture.Chip.setNorm`, `VideoCapture.Chip.selectInput`, `VideoCapture.Chip.setControl`.
-/

set_option autoImplicit false

namespace VideoCapture

/-- Where a device is plugged in, and the identifiers of its subsystem. -/
structure Location where
  /-- Number of the bus. -/
  bus : Nat
  /-- Slot on the bus. -/
  slot : Nat
  /-- Vendor of the subsystem. -/
  vendor : UInt16
  /-- Device number of the subsystem. -/
  device : UInt16
  deriving DecidableEq

/-- What is remembered about a chip. -/
structure Chip where
  /-- Number of the chip, which no other chip has. -/
  number : Nat
  /-- Number of its board. -/
  board : Nat
  /-- Number of its register file. -/
  file : Nat
  /-- The norm in force. -/
  norm : Norm
  /-- The connector selected. -/
  input : Nat := 0
  /-- The values of the picture controls. -/
  controls : ControlId → Int := fun _ => 0
  /-- Whether an opener holds the right to capture. -/
  claimed : Bool := false

/-- The name of the chip of a number. -/
def chipName (number : Nat) : String :=
  s!"tw68[{number}]"

namespace Chip

/-- The name of a chip. -/
def name (chip : Chip) : String :=
  chipName chip.number

/-- The board that a chip sits on. -/
def onBoard (chip : Chip) : Board :=
  Board.all.getD chip.board .generic

/-- Remembers the value of a control. -/
def remember (chip : Chip) (id : ControlId) (value : Int) : Chip :=
  { chip with controls := fun other => if other = id then value else chip.controls other }

/-- Programs a picture control, and answers the value applied. -/
def setControl (chip : Chip) (regs : RegisterFile) (id : ControlId) (value : Int) :
    Except Error Int × Chip × RegisterFile :=
  match id.set regs chip.norm value with
  | .ok (applied, regs) => (.ok applied, chip.remember id applied, regs)
  | .error error => (.error error, chip, regs)

/-- Switches to the first norm that has one of the given standards. The saturation is programmed
anew, because its V component depends on the norm, and chroma gain is switched off under SECAM. -/
def setNorm (chip : Chip) (regs : RegisterFile) (standards : UInt64) :
    Except Error Norm × Chip × RegisterFile :=
  match Norm.find? standards with
  | none => (.error .invalidArgument, chip, regs)
  | some norm =>
    let regs := Decoder.setNorm regs norm
    let chip := { chip with norm }
    let (_, chip, regs) := chip.setControl regs .saturation (chip.controls .saturation)
    if norm.isSecam then
      let (_, chip, regs) := chip.setControl regs .chromaGain 0
      (.ok norm, chip, regs)
    else (.ok norm, chip, regs)

/-- Routes a connector of the board to the decoder. -/
def selectInput (chip : Chip) (regs : RegisterFile) (index : Nat) :
    Except Error Unit × Chip × RegisterFile :=
  match chip.onBoard.input index with
  | .error error => (.error error, chip, regs)
  | .ok connector =>
    match Decoder.selectInput regs connector.mux with
    | .error error => (.error error, chip, regs)
    | .ok regs => (.ok (), { chip with input := index }, regs)

/-- Programs the power-on value of a control. One that is refused counts as off. -/
def initControl (chip : Chip) (regs : RegisterFile) (id : ControlId) : Chip × RegisterFile :=
  match chip.setControl regs id id.control.default with
  | (.ok _, chip, regs) => (chip, regs)
  | (.error _, chip, regs) => (chip.remember id 0, regs)

/-- Routes the first connector of the board to the decoder, if there is one that can be. -/
def initInput (chip : Chip) (regs : RegisterFile) : RegisterFile :=
  match chip.onBoard.inputs with
  | [] => regs
  | connector :: _ => ((Decoder.selectInput regs connector.mux).toOption).getD regs

/-- Brings up the chip of a number at a location: a reset, the norm of the settings, the power-on
values of the controls, and the first input. -/
def bringUp (number : Nat) (location : Location) (file : Nat) (regs : RegisterFile)
    (config : Config) : Chip × RegisterFile :=
  let chip : Chip := {
    number
    board := Board.identify location.vendor location.device config.card
    file
    norm := config.norm }
  let regs := Decoder.setNorm (Decoder.reset regs) chip.norm
  let (chip, regs) :=
    ControlId.all.foldl (fun (chip, regs) id => initControl chip regs id) (chip, regs)
  (chip, chip.initInput regs)

end Chip

end VideoCapture
