import VideoCapture.Instruction.Basic
import Mathlib.Tactic.Lemma

/-!
# Reading instructions back

The five parts of an instruction's first word fill its 32 bits without overlap, so decoding the
words of an instruction gives it back, with each part reduced to the bits it has in the word. An
instruction whose parts fit comes back unchanged, and so does a whole list of such instructions.

## Main definitions

* `VideoCapture.Instruction.Fits` — every part of an instruction fits its bits.
* `VideoCapture.Instruction.jumpTo` — the jump to an address.

## Main results

* `VideoCapture.Instruction.decode_control` — an instruction is read back from its words.
* `VideoCapture.Instruction.decodeAll_encodeAll` — so is a list of instructions, whatever follows.
-/

set_option autoImplicit false

namespace VideoCapture

/-- The code of an operation takes four bits. -/
lemma Opcode.code_lt (op : Opcode) : op.code < 16 := by
  cases op <;> decide

namespace Instruction

/-- The parts of an instruction that are packed into its first word fit the bits they have there. -/
structure Fits (i : Instruction) : Prop where
  /-- The data type has three bits. -/
  dataType : i.dataType.toNat < 8
  /-- The start offset has twelve bits. -/
  start : i.start.toNat < 4096
  /-- So has the byte count. -/
  count : i.count.toNat < 4096

/-- The first word of an instruction is the sum of its parts, each at its place. -/
lemma toNat_control (i : Instruction) :
    i.control.toNat = i.opcode.code * 0x10000000 + i.irq.toNat * 0x8000000
      + i.dataType.toNat % 8 * 0x1000000 + i.start.toNat % 4096 * 4096 + i.count.toNat % 4096 := by
  have hcode := i.opcode.code_lt
  have hirq := Bool.toNat_le i.irq
  rw [control, UInt32.toNat_ofNat_of_lt']
  simp only [UInt32.size]
  omega

/-- The interrupt flag is read back from the first word. -/
lemma irq_control (i : Instruction) : (i.control.toNat / 0x8000000 % 2 == 1) = i.irq := by
  have hcode := i.opcode.code_lt
  have hirq := Bool.toNat_le i.irq
  have hword := i.toNat_control
  have hflag : i.control.toNat / 0x8000000 % 2 = i.irq.toNat := by omega
  rw [hflag]
  cases i.irq <;> rfl

/-- **An instruction is read back from its words**, with its parts reduced to the bits they have. -/
theorem decode_control (i : Instruction) :
    decode i.control i.address = some
      { i with
        dataType := UInt8.ofNat (i.dataType.toNat % 8)
        start := UInt16.ofNat (i.start.toNat % 4096)
        count := UInt16.ofNat (i.count.toNat % 4096) } := by
  have hcode := i.opcode.code_lt
  have hirq := Bool.toNat_le i.irq
  have hword := i.toNat_control
  -- each part is cut out of the word by dividing off what lies below it
  have hop : i.control.toNat / 0x10000000 = i.opcode.code := by omega
  have htype : i.control.toNat / 0x1000000 % 8 = i.dataType.toNat % 8 := by omega
  have hstart : i.control.toNat / 4096 % 4096 = i.start.toNat % 4096 := by omega
  have hcount : i.control.toNat % 4096 = i.count.toNat % 4096 := by omega
  simp only [decode, hop, i.irq_control, htype, hstart, hcount, Opcode.ofCode?_code]
  rfl

/-- An instruction whose parts fit is read back unchanged. -/
lemma Fits.decode {i : Instruction} (h : i.Fits) :
    Instruction.decode i.control i.address = some i := by
  rw [decode_control, Nat.mod_eq_of_lt h.dataType, Nat.mod_eq_of_lt h.start,
    Nat.mod_eq_of_lt h.count]
  simp

/-- Instructions stand in memory one behind the other. -/
lemma encodeAll_append (l₁ l₂ : List Instruction) :
    encodeAll (l₁ ++ l₂) = encodeAll l₁ ++ encodeAll l₂ :=
  List.flatMap_append

/-- The words of an instruction stand where it stands. -/
lemma getElem?_encodeAll (l : List Instruction) (k : Nat) :
    (encodeAll l)[2 * k]? = l[k]?.map control ∧ (encodeAll l)[2 * k + 1]? = l[k]?.map address := by
  induction l generalizing k with
  | nil => exact ⟨rfl, rfl⟩
  | cons i l ih =>
    cases k with
    | zero => exact ⟨rfl, rfl⟩
    | succ k => exact ih k

/-- **Instructions that fit are read back from memory**, and so is what follows them.

**Proof sketch.** Along the instructions: each takes two words, which are decoded to it because it
fits. -/
theorem decodeAll_encodeAll {instructions : List Instruction}
    (h : ∀ i ∈ instructions, i.Fits) (words : List UInt32) :
    decodeAll (encodeAll instructions ++ words) = instructions ++ decodeAll words := by
  induction instructions with
  | nil => rfl
  | cons i rest ih =>
    have hi : i.Fits := h i List.mem_cons_self
    have hrest := ih fun j hj => h j (List.mem_cons_of_mem i hj)
    simp only [encodeAll, List.flatMap_cons, List.cons_append, List.nil_append] at hrest ⊢
    rw [decodeAll, hi.decode, hrest]

/-- The jump to an address, with or without an interrupt. -/
def jumpTo (target : UInt32) (irq : Bool) : Instruction :=
  { opcode := .jump, irq, address := target }

/-- A jump fits its word. -/
lemma fits_jumpTo (target : UInt32) (irq : Bool) : (jumpTo target irq).Fits :=
  ⟨by simp [jumpTo], by simp [jumpTo], by simp [jumpTo]⟩

end Instruction

end VideoCapture
