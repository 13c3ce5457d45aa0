import VideoCapture.Arithmetic
import VideoCapture.Field.Layout
import VideoCapture.Format.Norm
import VideoCapture.Text.Numeral

/-!
# Settings

A driver is set up by a handful of named settings. One that is missing or cannot be read leaves the
default.

## Main definitions

* `VideoCapture.Config` — the settings with their defaults.
* `VideoCapture.Config.ofSettings` — the settings given by name.
-/

set_option autoImplicit false

namespace VideoCapture

/-- The settings of a driver; times are in milliseconds. -/
structure Config where
  /-- Board number that overrides detection. -/
  card : Option Nat := none
  /-- Limit of an opener's capture memory, in MiB. -/
  memoryLimit : Nat := 16
  /-- How long a running chain may complete nothing before it is recovered. -/
  bufferTimeout : Nat := 500
  /-- The norm chosen at first. -/
  norm : Norm := Norm.initial
  /-- How often an interrupt looks at the status before it masks everything. -/
  interruptPasses : Nat := 10
  /-- Whether lines report their offset in their chunk. -/
  lineOffset : LineOffset := .omit
  /-- Period of the watchdog. -/
  watchdogInterval : Nat := 20
  /-- Pause after a reset of the decoder. -/
  resetSettle : Nat := 100

namespace Config

/-- The number that a setting gives, if it is given and is a numeral below `bound`. -/
def number? (settings : String → Option String) (bound : Nat) (key : String) : Option Nat := do
  Text.numeral? bound (← settings key)

/-- Whether the text of a switch means on: the digit one or the word true. -/
def isOn (text : String) : Bool :=
  text == "1" || sameLetters text "true"

/-- The settings that are given by name, over the defaults. -/
def ofSettings (settings : String → Option String) : Config :=
  let defaults : Config := {}
  let number (bound : Nat) (key : String) (default : Nat) :=
    (number? settings bound key).getD default
  { card := number? settings bound64 "TW68_CARD"
    memoryLimit := number bound64 "TW68_VID_LIMIT" defaults.memoryLimit
    bufferTimeout := number bound64 "TW68_BUFFER_TIMEOUT_MS" defaults.bufferTimeout
    norm := (settings "TW68_NORM" >>= Norm.named?).getD defaults.norm
    interruptPasses := max 1 (number bound32 "TW68_IRQ_LOOP_LIMIT" defaults.interruptPasses)
    lineOffset :=
      match settings "TW68_RISC_LINE_OFFSET" with
      | some text => if isOn text then .encode else .omit
      | none => defaults.lineOffset
    watchdogInterval := max 1 (number bound64 "TW68_WATCHDOG_MS" defaults.watchdogInterval)
    resetSettle := number bound64 "TW68_RESET_SETTLE_MS" defaults.resetSettle }

end Config

end VideoCapture
