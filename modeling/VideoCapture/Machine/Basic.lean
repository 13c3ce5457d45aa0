import VideoCapture.Opener
import VideoCapture.Registry

/-!
# Several devices

A machine has chips, the devices that capture with them, and the openers of the devices. All
devices get their memory from one backend. Devices and openers are known by numbers in the order
they came; one that has gone leaves its number unused.

## Main definitions

* `VideoCapture.Device` — a capture function of a chip.
* `VideoCapture.Machine` — everything there is.
* `VideoCapture.Machine.channel`, `VideoCapture.Machine.seat?` — the parts of a machine that a
  device or an opener works on, and `setChannel`, `setSeat` to put them back.
-/

set_option autoImplicit false

namespace VideoCapture

/-- A capture function of a chip. -/
structure Device where
  /-- Number of the chip. -/
  chip : Nat
  /-- Number of the register file that the queue works on. -/
  file : Nat
  /-- The settings. -/
  config : Config
  /-- The capture queue. -/
  queue : CaptureQueue
  /-- Whether whoever brought the device up still has it. -/
  owned : Bool := true

/-- An opener, and the device it has opened. -/
structure OpenDevice where
  /-- Number of the device. -/
  device : Nat
  /-- What is remembered about the opener. -/
  opener : Opener

/-- The chips, devices and openers that share one backend. -/
structure Machine (δ : Type) where
  /-- The backend. -/
  dma : δ
  /-- The register files, by number. -/
  files : List (Nat × RegisterFile) := []
  /-- The chips in use. -/
  registry : Registry := {}
  /-- All chips ever brought up, by number. -/
  chips : List Chip := []
  /-- The devices, by number. -/
  devices : List (Option Device) := []
  /-- The openers, by number. -/
  openers : List (Option OpenDevice) := []

namespace Machine

variable {δ : Type}

/-! ## Register files -/

/-- A register file; one never used before is zero. -/
def file (s : Machine δ) (number : Nat) : RegisterFile :=
  (s.files.lookup number).getD {}

/-- Puts a register file in its place. -/
def setFile (s : Machine δ) (number : Nat) (regs : RegisterFile) : Machine δ :=
  { s with files := (number, regs) :: s.files.filter fun entry => entry.1 != number }

/-- Makes a register file, unless there is one of that number. -/
def attach (s : Machine δ) (number : Nat) (regs : RegisterFile) : Machine δ :=
  if (s.files.lookup number).isSome then s else s.setFile number regs

/-! ## Chips -/

/-- Puts a chip in its place. -/
def setChip (s : Machine δ) (chip : Chip) : Machine δ :=
  { s with chips := s.chips.set chip.number chip }

/-- Does something with a chip and its registers. -/
def withChip {α : Type} (s : Machine δ) (chip : Chip)
    (act : Chip → RegisterFile → Except Error α × Chip × RegisterFile) :
    Except Error α × Machine δ :=
  let (result, after, regs) := act chip (s.file chip.file)
  (result, (s.setChip after).setFile chip.file regs)

/-! ## Devices and openers -/

/-- The device of a number, if it has not gone. -/
def device? (s : Machine δ) (number : Nat) : Option Device :=
  s.devices[number]?.join

/-- The opener of a number, if it has not gone. -/
def opener? (s : Machine δ) (number : Nat) : Option OpenDevice :=
  s.openers[number]?.join

/-- Whether any opener has a device open. -/
def isOpen (s : Machine δ) (device : Nat) : Bool :=
  s.openers.any fun entry => entry.any fun o => o.device == device

/-- The queue of a device, in its surroundings. -/
def channel (s : Machine δ) (device : Device) : Channel δ :=
  { toCaptureQueue := device.queue, regs := s.file device.file, dma := s.dma }

/-- Puts the queue of a device and its surroundings back. -/
def setChannel (s : Machine δ) (number : Nat) (device : Device) (c : Channel δ) : Machine δ :=
  let s := s.setFile device.file c.regs
  { s with
    devices := s.devices.set number (some { device with queue := c.toCaptureQueue })
    dma := c.dma }

/-- What an opener works on. -/
def seat? (s : Machine δ) (number : Nat) : Option (Seat δ) := do
  let entry ← s.opener? number
  let device ← s.device? entry.device
  let chip ← s.chips[device.chip]?
  return { opener := entry.opener, chip, config := device.config, channel := s.channel device }

/-- Puts what an opener works on back. -/
def setSeat (s : Machine δ) (number : Nat) (seat : Seat δ) : Machine δ :=
  match s.opener? number with
  | none => s
  | some entry =>
    let s := { s with openers := s.openers.set number (some { entry with opener := seat.opener }) }
    match s.device? entry.device with
    | none => s
    | some device => (s.setChannel entry.device device seat.channel).setChip seat.chip

end Machine

end VideoCapture
