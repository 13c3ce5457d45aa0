import VideoCapture.Text.Hex

/-!
# Broken assertions

A `Fault` is raised where an operation finds that something it relies on does not hold: a program
that outgrows its memory, a scatter list that ends too early, an index or a division out of range.
Unlike an error it ends the run; nothing is said about the state it leaves.

## Main definitions

* `VideoCapture.Fault` — the assertions that can break.
* `VideoCapture.Fault.message?` — the wording of those that have one.
-/

set_option autoImplicit false

namespace VideoCapture

/-- An assertion that did not hold. -/
inductive Fault where
  /-- An instruction does not fit at word `position` of a region of `capacity` words. -/
  | instructionOverflow (position capacity : Nat)
  /-- A program with its tail needs more bytes than its allocation has. -/
  | programOverflow (needed size : Nat)
  /-- A line of this many bytes does not fit the count of an instruction. -/
  | lineNotEncodable (bytes : Nat)
  /-- The scatter list has no entry of this index. -/
  | scatterExhausted (index : Nat)
  /-- A bus address needs more than 32 bits. -/
  | addressTooWide (address : Nat)
  /-- A program captures neither field. -/
  | programWithoutFields
  /-- The field mode was left open. -/
  | fieldUnresolved
  /-- A register access falls outside the register window. -/
  | outsideWindow (offset : Nat)
  /-- A buffer was to be prepared while in flight. -/
  | prepareInFlight (index : Nat)
  /-- A buffer was to be released while in flight. -/
  | releaseInFlight (index : Nat)
  /-- A scheduled buffer does not exist. -/
  | notResident (index : Nat)
  /-- A scheduled buffer has no program. -/
  | noProgram (index : Nat)
  /-- A reference to the chip of this name was returned once too often. -/
  | unregistered (chip : String)
  /-- An index is out of range. -/
  | indexOutOfRange
  /-- A divisor is zero. -/
  | divisionByZero
  /-- A range to clamp to is empty. -/
  | emptyRange
  /-- A number does not fit its type. -/
  | numberTooWide
  /-- An instant lies beyond the last that the clock can tell. -/
  | instantTooLate
  deriving DecidableEq

namespace Fault

/-- The wording of a fault, for those that are worded. -/
def message? : Fault → Option String
  | instructionOverflow position capacity =>
    some s!"tw68: risc program overflow at word {position} of {capacity}"
  | programOverflow needed size =>
    some s!"tw68: risc program overflow ({needed} of {size} bytes)"
  | lineNotEncodable bytes => some s!"tw68: bytes per line {bytes} not encodable"
  | scatterExhausted index => some s!"tw68: scatter list exhausted at entry {index}"
  | addressTooWide address => some s!"tw68: bus address {Text.hex address} beyond 32 bits"
  | programWithoutFields => some "tw68: program without fields"
  | fieldUnresolved => some "tw68: field mode must be resolved before programming"
  | outsideWindow offset => some s!"tw68: register {Text.hex offset} outside BAR"
  | prepareInFlight index => some s!"tw68: prepare of in-flight buffer {index}"
  | releaseInFlight index => some s!"tw68: release of in-flight buffer {index}"
  | notResident index => some s!"tw68: buffer {index} not resident"
  | noProgram index => some s!"tw68: buffer {index} scheduled without a program"
  | unregistered chip => some s!"tw68: put of unregistered core {chip}"
  | indexOutOfRange => none
  | divisionByZero => none
  | emptyRange => none
  | numberTooWide => none
  | instantTooLate => none

end Fault

end VideoCapture
