import VideoCapture.Error
import VideoCapture.Field.Layout

/-!
# An address window that recycles

Bus addresses come from a window of fixed size. Ranges are rounded up to pages. A range that is
given back is kept for its size and handed out again, latest first, before the window is used up
further, so a user that keeps taking ranges of the same sizes and giving them back never runs out.

## Main definitions

* `VideoCapture.BusWindow` — the window, how far it is used up, and the ranges given back.
* `VideoCapture.BusWindow.take?`, `VideoCapture.BusWindow.give` — taking and giving back a range.
* `VideoCapture.BusWindow.takeMany` — takes several ranges of one size, or none.
-/

set_option autoImplicit false

namespace VideoCapture

/-- A number of bytes rounded up to whole pages. -/
def wholePages (size : Nat) : Nat :=
  (size + (pageSize - 1)) / pageSize * pageSize

/-- Rounding up does not lose bytes. -/
theorem le_wholePages (size : Nat) : size ≤ wholePages size := by
  unfold wholePages pageSize
  omega

/-- Whole pages are a multiple of a page. -/
theorem pageSize_dvd_wholePages (size : Nat) : pageSize ∣ wholePages size :=
  Nat.dvd_mul_left pageSize _

/-- A range of bus addresses that was given back. -/
structure FreeRange where
  /-- Bytes of the range, in whole pages. -/
  size : Nat
  /-- First address. -/
  address : Nat
  deriving DecidableEq

/-- A window of bus addresses. -/
structure BusWindow where
  /-- First address of the window. -/
  base : Nat
  /-- Bytes of the window. -/
  size : Nat
  /-- Bytes handed out so far from its start. -/
  next : Nat := 0
  /-- Ranges given back, latest first. -/
  free : List FreeRange := []
  deriving DecidableEq

namespace BusWindow

/-- Takes a range of `size` bytes: the latest of that size that was given back, or else the next
part of the window, if it is large enough. -/
def take? (window : BusWindow) (size : Nat) : Option (Nat × BusWindow) :=
  let pages := wholePages size
  match window.free.find? (fun range => range.size == pages) with
  | some range => some (range.address, { window with free := window.free.erase range })
  | none =>
    if window.size < window.next + pages then none
    else some (window.base + window.next, { window with next := window.next + pages })

/-- Gives a range of `size` bytes back. -/
def give (window : BusWindow) (size address : Nat) : BusWindow :=
  { window with free := ⟨wholePages size, address⟩ :: window.free }

/-- Gives ranges of `size` bytes back, in order. -/
def giveMany (window : BusWindow) (size : Nat) (addresses : List Nat) : BusWindow :=
  addresses.foldl (fun w address => w.give size address) window

/-- Takes ranges of `size` bytes until `count` are taken or the window has run out. The ranges are
put in front of those already taken. -/
def takeUpTo (size : Nat) : (count : Nat) → BusWindow → (taken : List Nat) → List Nat × BusWindow
  | 0, window, taken => (taken, window)
  | count + 1, window, taken =>
    match window.take? size with
    | some (address, window) => takeUpTo size count window (address :: taken)
    | none => (taken, window)

/-- Takes `count` ranges of `size` bytes. If the window runs out, those already taken are given
back, and there is no answer. -/
def takeMany (window : BusWindow) (size count : Nat) : Option (List Nat) × BusWindow :=
  let (taken, window) := takeUpTo size count window []
  let addresses := taken.reverse
  if addresses.length = count then (some addresses, window)
  else (none, window.giveMany size addresses)

end BusWindow

end VideoCapture
