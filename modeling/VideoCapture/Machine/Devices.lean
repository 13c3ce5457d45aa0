import VideoCapture.Machine.Basic

/-!
# The life of chips, devices and openers

Bringing a device up takes a reference to its chip and makes its queue. A device lasts until whoever
brought it up has dropped it and every opener has closed; then its queue ends and the reference to
the chip is returned.

## Main definitions

* `VideoCapture.Machine.get`, `VideoCapture.Machine.put` — take and return a reference to a chip.
* `VideoCapture.Machine.probe`, `VideoCapture.Machine.drop` — bring a device up and drop it.
* `VideoCapture.Machine.openDevice`, `VideoCapture.Machine.close` — open and close a device.
* `VideoCapture.Machine.interrupt` — serves an interrupt of a device.
-/

set_option autoImplicit false

namespace VideoCapture.Machine

variable {δ : Type}

/-! ## Chips -/

/-- Takes a reference to the chip at a location, and answers its number. A chip not yet in use is
brought up on the given register file. -/
def get (s : Machine δ) (location : Location) (file : Nat) (config : Config) :
    Except Error Nat × Machine δ :=
  match s.registry.take location with
  | .error error => (.error error, s)
  | .ok (.shared number, registry) => (.ok number, { s with registry })
  | .ok (.first number, registry) =>
    let (chip, regs) := Chip.bringUp number location file (s.file file) config
    let s := s.setFile file regs
    (.ok number, { s with registry, chips := s.chips ++ [chip] })

/-- Returns a reference to a chip. The chip is shut down with the last one. -/
def put (s : Machine δ) (number : Nat) : Except Fault (Machine δ) := do
  let (last, registry) ← s.registry.giveBack number
  let s := { s with registry }
  match s.chips[number]? with
  | some chip =>
    if last then return s.setFile chip.file (Decoder.shutdown (s.file chip.file))
    return s
  | none => return s

variable [DmaBackend δ]

/-! ## Devices -/

/-- Brings a device up at a location, and answers its number. If its queue cannot be made, the
reference to the chip is returned. -/
def probe (s : Machine δ) (location : Location) (file : Nat) (config : Config) :
    Except Fault (Except Error Nat × Machine δ) := do
  match s.get location file config with
  | (.error error, s) => return (.error error, s)
  | (.ok chip, s) =>
    match Channel.create (s.file file) s.dma config with
    | (.error error, dma) => return (.error error, ← { s with dma }.put chip)
    | (.ok c, dma) =>
      let device : Device := { chip, file, config, queue := c.toCaptureQueue }
      return (.ok s.devices.length, { s with dma, devices := s.devices ++ [some device] })

/-- Ends a device: the engine is stopped, the chip is returned, and the queue gives its memory
back. -/
def retire (s : Machine δ) (number : Nat) (device : Device) : Except Fault (Machine δ) := do
  let stopped := (s.channel device).stopEngine
  let s ← (s.setFile device.file stopped.regs).put device.chip
  let device := { device with queue := stopped.toCaptureQueue }
  let (regs, dma) := (s.channel device).dispose
  let s := s.setFile device.file regs
  return { s with dma, devices := s.devices.set number none }

/-- Ends a device that nobody has any more. -/
def reap (s : Machine δ) (number : Nat) : Except Fault (Machine δ) :=
  match s.device? number with
  | some device => if device.owned || s.isOpen number then return s else s.retire number device
  | none => return s

/-- Drops a device, and answers whether there was one to drop. -/
def drop (s : Machine δ) (number : Nat) : Except Fault (Bool × Machine δ) := do
  match s.device? number with
  | none => return (false, s)
  | some device =>
    let s := { s with devices := s.devices.set number (some { device with owned := false }) }
    return (device.owned, ← s.reap number)

/-! ## Openers -/

/-- Opens a device, and answers the number of the opener. -/
def openDevice (s : Machine δ) (number : Nat) (chip : Chip) : Except Fault (Nat × Machine δ) := do
  let opener ← Opener.create chip.norm
  return (s.openers.length, { s with openers := s.openers ++ [some { device := number, opener }] })

/-- Closes an opener, and answers whether there was one to close. -/
def close (s : Machine δ) (number : Nat) : Except Fault (Bool × Machine δ) := do
  match s.opener? number, s.seat? number with
  | some entry, some seat =>
    let s := s.setSeat number (← seat.close)
    let s := { s with openers := s.openers.set number none }
    return (true, ← s.reap entry.device)
  | _, _ => return (false, s)

/-! ## Interrupts -/

/-- Serves an interrupt of a device. The status is that of the chip, whose registers need not be
those that the queue works on. -/
def interrupt (s : Machine δ) (now : Int) (number : Nat) (device : Device) (chip : Chip) :
    Except Fault (Bool × Machine δ) := do
  let sense := fun c : Channel δ =>
    if chip.file = device.file then c.regs.read32 Register.interruptStatus
    else (s.file chip.file).read32 Register.interruptStatus
  let (handled, c) ← (s.channel device).interrupt sense now false device.config.interruptPasses
  return (handled, s.setChannel number device c)

end VideoCapture.Machine
