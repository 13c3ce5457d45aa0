import VideoCapture.Error
import VideoCapture.Fault

/-!
# Boards

The same chip sits on different boards, which differ in their connectors. A board is recognised by
the identifiers of its subsystem, unless its number is forced.

## Main definitions

* `VideoCapture.Board` — a board with its connectors, and `Board.all` — the boards known.
* `VideoCapture.Board.identify` — the number of a board.
* `VideoCapture.Board.input` — a connector of a board.
-/

set_option autoImplicit false

namespace VideoCapture

/-- A connector of a board. -/
structure Connector where
  /-- Name for users. -/
  name : String
  /-- Setting of the decoder's input multiplexer. -/
  mux : Nat
  deriving DecidableEq

/-- A capture board. -/
structure Board where
  /-- Name for users. -/
  name : String
  /-- The connectors, in order. -/
  inputs : List Connector
  deriving DecidableEq

namespace Board

/-- Four composite connectors, wired in order. -/
def fourComposite : List Connector :=
  [⟨"Composite1", 0⟩, ⟨"Composite2", 1⟩, ⟨"Composite3", 2⟩, ⟨"Composite4", 3⟩]

/-- Number of the board assumed when nothing is recognised. -/
def unknown : Nat := 0

/-- A board of unknown make. -/
def generic : Board := ⟨"UNKNOWN/GENERIC", fourComposite⟩

/-- The boards known, by number. -/
def all : List Board := [generic, ⟨"TW6801/GENERIC", fourComposite⟩]

/-- The subsystem identifiers recognised, vendor first, each with the number of its board. -/
def subsystems : List ((UInt16 × UInt16) × Nat) := [((0x0000, 0x0000), 1)]

/-- The number of the board with the given subsystem identifiers. -/
def detect (vendor device : UInt16) : Nat :=
  (subsystems.lookup (vendor, device)).getD unknown

/-- The number of a board: the one forced, if there is such a board, or else the one detected. -/
def identify (vendor device : UInt16) (forced : Option Nat) : Nat :=
  match forced with
  | some number => if number < all.length then number else detect vendor device
  | none => detect vendor device

/-- The board of a number, which has to be one. -/
def numbered (number : Nat) : Except Fault Board :=
  match all[number]? with
  | some board => .ok board
  | none => .error .indexOutOfRange

/-- The connector of a board at a position. -/
def input (board : Board) (index : Nat) : Except Error Connector :=
  match board.inputs[index]? with
  | some connector => .ok connector
  | none => .error .invalidArgument

end Board

end VideoCapture
