import VideoCapture.Chip

/-!
# The registry of chips

Chips are shared: whoever asks for the chip in a slot gets a reference to it. It is brought up with
the first reference and shut down when the last is returned. Numbers are given in order and never
again. Neither numbers nor references run out: each takes a call, and they have 64 bits.

## Main definitions

* `VideoCapture.Registry` — the chips in use with their references.
* `VideoCapture.Registry.take` — takes a reference.
* `VideoCapture.Registry.giveBack` — returns one.
-/

set_option autoImplicit false

namespace VideoCapture

/-- A chip in use. -/
structure Registration where
  /-- Number of the chip. -/
  number : Nat
  /-- The bus it is on. -/
  bus : Nat
  /-- Its slot on the bus. -/
  slot : Nat
  /-- References to it that are out. -/
  references : Nat
  deriving DecidableEq

/-- The chips in use. -/
structure Registry where
  /-- The chips with references out, in the order they were brought up. -/
  entries : List Registration := []
  /-- Number of the next chip. -/
  count : Nat := 0
  deriving DecidableEq

/-- What asking for a chip comes to. -/
inductive Registry.Grant where
  /-- Another reference to the chip of a number. -/
  | shared (number : Nat)
  /-- The first reference to a chip that is still to be brought up. -/
  | first (number : Nat)
  deriving DecidableEq

namespace Registry

/-- How many chips can be in use at a time. -/
abbrev capacity : Nat := 8

/-- Whether a chip in use sits at a location. -/
def isAt (entry : Registration) (location : Location) : Bool :=
  entry.bus == location.bus && entry.slot == location.slot

/-- Changes the first entry that satisfies a test. -/
def updateFirst (test : Registration → Bool) (change : Registration → Registration) :
    List Registration → List Registration
  | [] => []
  | entry :: rest =>
    if test entry then change entry :: rest else entry :: updateFirst test change rest

/-- Takes a reference to the chip at a location. -/
def take (registry : Registry) (location : Location) : Except Error (Grant × Registry) :=
  let here := fun entry => isAt entry location
  match registry.entries.find? here with
  | some entry =>
    let entries := updateFirst here (fun e => { e with references := e.references + 1 })
      registry.entries
    .ok (.shared entry.number, { registry with entries })
  | none =>
    if capacity ≤ registry.entries.length then .error .noDevice
    else
      let number := registry.count
      let entry : Registration :=
        { number, bus := location.bus, slot := location.slot, references := 1 }
      .ok (.first number, { entries := registry.entries ++ [entry], count := number + 1 })

/-- Returns a reference to the chip of a number, and answers whether it was the last. -/
def giveBack (registry : Registry) (number : Nat) : Except Fault (Bool × Registry) :=
  let this := fun entry : Registration => entry.number == number
  match registry.entries.find? this with
  | none => .error (.unregistered (chipName number))
  | some entry =>
    if entry.references ≤ 1 then
      .ok (true, { registry with entries := registry.entries.eraseP this })
    else
      let entries := updateFirst this (fun e => { e with references := e.references - 1 })
        registry.entries
      .ok (false, { registry with entries })

end Registry

end VideoCapture
