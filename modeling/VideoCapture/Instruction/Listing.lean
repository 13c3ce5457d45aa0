import VideoCapture.Instruction.Basic
import VideoCapture.Text.Hex

/-!
# Instructions as text

A listing shows an instruction as its mnemonic, padded to nine characters, a mark if it raises an
interrupt, and the parts that its opcode uses.

## Main definitions

* `VideoCapture.Instruction.text` — one instruction.
* `VideoCapture.Instruction.listing` — a run of instructions, each behind its bus address.
-/

set_option autoImplicit false

namespace VideoCapture

/-- The mnemonic of an opcode. -/
def Opcode.mnemonic : Opcode → String
  | syncOdd => "SYNCO"
  | syncEven => "SYNCE"
  | jump => "JUMP"
  | lineStart => "LINESTART"
  | inline => "INLINE"

namespace Instruction

/-- The mnemonic of an instruction, filled up with blanks to nine characters. -/
def paddedMnemonic (i : Instruction) : String :=
  String.ofList (i.opcode.mnemonic.toList.rightpad 9 ' ')

/-- The part of an instruction's text that its opcode calls for. -/
def operands (i : Instruction) : String :=
  match i.opcode with
  | .syncOdd | .syncEven => ""
  | .jump => s!" -> {Text.address i.address}"
  | .lineStart | .inline =>
    s!" type={i.dataType.toNat} start={i.start.toNat} count={i.count.toNat}"
      ++ s!" addr={Text.address i.address}"

/-- An instruction as text. -/
def text (i : Instruction) : String :=
  i.paddedMnemonic ++ (if i.irq then " INT" else "") ++ i.operands

/-- Instructions that stand in memory from address `base` on, one line each. -/
def listing (base : UInt32) : List Instruction → String
  | [] => ""
  | i :: rest => s!"{Text.address base}: {i.text}\n" ++ listing (base + 8) rest

end Instruction

end VideoCapture
