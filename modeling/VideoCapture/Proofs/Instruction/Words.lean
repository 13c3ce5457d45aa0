import Mathlib.Data.Nat.Bitwise
import VideoCapture.Proofs.Instruction.Codec

/-!
# First words bit by bit

The first word of an instruction can be put together in two ways. Its parts can be added up, each
cut to the bits that it has; or they can be shifted to their places and or-ed, as they are. In the
second way nothing is cut, and a number that is too large runs into the bits above its own. As long
as every number fits, both come to the same word, and the interrupt flag can be or-ed to it later.

The parts take up all 32 bits. So a word whose upper four bits are the code of an opcode is the
first word of exactly one instruction whose parts fit, and nothing but what does not fit is lost
when any other instruction is encoded.

## Main definitions

* `VideoCapture.Opcode.packed` — a word or-ed together from numbers as they are.
* `VideoCapture.Instruction.reduced` — an instruction with its parts cut to the bits they have.

## Main results

* `VideoCapture.Opcode.packed_eq_control` — both ways come to the same word.
* `VideoCapture.Instruction.decode_eq_some` — what two words stand for.
* `VideoCapture.Instruction.decode_exact` — which words are instructions, and what encoding keeps.
-/

set_option autoImplicit false

namespace VideoCapture

/-! ## Putting words together -/

/-- A number that is shifted is multiplied, if it stays in the word. -/
lemma toNat_ofNat_shiftLeft {k n : Nat} (hk : k < 32) (hn : 2 ^ k * n < 2 ^ 32) :
    (UInt32.ofNat n <<< UInt32.ofNat k).toNat = 2 ^ k * n := by
  have hsmall : n < 2 ^ 32 :=
    Nat.lt_of_le_of_lt (Nat.le_mul_of_pos_left n (Nat.two_pow_pos k)) hn
  rw [UInt32.toNat_shiftLeft, UInt32.toNat_ofNat', UInt32.toNat_ofNat', Nat.mod_eq_of_lt hsmall,
    Nat.mod_eq_of_lt (show k < 2 ^ 32 by omega), Nat.mod_eq_of_lt hk, Nat.shiftLeft_eq,
    Nat.mul_comm, Nat.mod_eq_of_lt hn]

namespace Opcode

/-- A first word that is put together from an opcode and numbers, each shifted to its place and none
of them cut to the bits that it has there. -/
def packed (opcode : Opcode) (dataType start count : Nat) : UInt32 :=
  UInt32.ofNat opcode.code <<< 28 ||| UInt32.ofNat dataType <<< 24 |||
    UInt32.ofNat start <<< 12 ||| UInt32.ofNat count

variable {opcode : Opcode} {dataType start count n : Nat}

/-- **Numbers that fit do not run into each other**, so that or-ing them is adding them up.

**Proof sketch.** From the highest part to the lowest, each or is an addition, since the lower part
is less than the power of two that the higher one is a multiple of. -/
theorem toNat_packed (htype : dataType < 8) (hstart : start < 4096) (hcount : count < 4096) :
    (opcode.packed dataType start count).toNat =
      opcode.code * 0x10000000 + dataType * 0x1000000 + start * 4096 + count := by
  have hcode := opcode.code_lt
  have hword : (opcode.packed dataType start count).toNat =
      ((2 ^ 28 * opcode.code ||| 2 ^ 24 * dataType) ||| 2 ^ 12 * start) ||| count := by
    have hop : (UInt32.ofNat opcode.code <<< 28).toNat = 2 ^ 28 * opcode.code :=
      toNat_ofNat_shiftLeft (k := 28) (by decide) (by omega)
    have htag : (UInt32.ofNat dataType <<< 24).toNat = 2 ^ 24 * dataType :=
      toNat_ofNat_shiftLeft (k := 24) (by decide) (by omega)
    have hoffset : (UInt32.ofNat start <<< 12).toNat = 2 ^ 12 * start :=
      toNat_ofNat_shiftLeft (k := 12) (by decide) (by omega)
    have hbytes : (UInt32.ofNat count).toNat = count :=
      UInt32.toNat_ofNat_of_lt' (by simp only [UInt32.size]; omega)
    rw [packed, UInt32.toNat_or, UInt32.toNat_or, UInt32.toNat_or, hop, htag, hoffset, hbytes]
  calc (opcode.packed dataType start count).toNat
      = ((2 ^ 28 * opcode.code ||| 2 ^ 24 * dataType) ||| 2 ^ 12 * start) ||| count := hword
    _ = (2 ^ 24 * (16 * opcode.code + dataType) ||| 2 ^ 12 * start) ||| count := by
        rw [← Nat.two_pow_add_eq_or_of_lt (by omega)]
        congr 2
        omega
    _ = 2 ^ 12 * (4096 * (16 * opcode.code + dataType) + start) ||| count := by
        rw [← Nat.two_pow_add_eq_or_of_lt (by omega)]
        congr 1
        omega
    _ = 2 ^ 12 * (4096 * (16 * opcode.code + dataType) + start) + count :=
        (Nat.two_pow_add_eq_or_of_lt (by omega) _).symm
    _ = _ := by omega

/-- **Both ways of putting a word together come to the same**, if every number fits. -/
theorem packed_eq_control (htype : dataType < 8) (hstart : start < 4096) (hcount : count < 4096)
    (address : UInt32) :
    opcode.packed dataType start count = Instruction.control
      { opcode, dataType := UInt8.ofNat dataType, start := UInt16.ofNat start,
        count := UInt16.ofNat count, address } := by
  refine UInt32.toNat_inj.mp ?_
  rw [toNat_packed htype hstart hcount, Instruction.toNat_control]
  simp only [Bool.toNat_false, UInt8.toNat_ofNat', UInt16.toNat_ofNat']
  omega

/-- An opcode is the one that its code stands for, and no other code stands for it. -/
lemma ofCode?_eq_some : ofCode? n = some opcode ↔ n = opcode.code := by
  refine ⟨fun h => ?_, fun h => h ▸ ofCode?_code opcode⟩
  unfold ofCode? at h
  split at h <;> cases h <;> rfl

end Opcode

namespace Instruction

variable {i : Instruction} {control address : UInt32}

/-- The interrupt flag is a bit of its own, which can be or-ed to a word later. -/
lemma control_flagged (i : Instruction) : i.flagged.control = i.control ||| 0x8000000 := by
  let low := i.dataType.toNat % 8 * 0x1000000 + i.start.toNat % 4096 * 4096 + i.count.toNat % 4096
  have hlow : low < 2 ^ 27 := by simp only [low]; omega
  have hword : i.control.toNat = 2 ^ 28 * i.opcode.code + (2 ^ 27 * i.irq.toNat + low) := by
    rw [toNat_control]
    simp only [low]
    omega
  have hirq : (2 ^ 27 * i.irq.toNat + low) ||| 2 ^ 27 = 2 ^ 27 * 1 + low := by
    cases i.irq with
    | false => rw [Bool.toNat_false, Nat.mul_zero, Nat.zero_add, Nat.or_two_pow_eq_add_of_lt hlow,
        Nat.mul_one, Nat.add_comm]
    | true => rw [Bool.toNat_true, Nat.two_pow_add_eq_or_of_lt hlow, Nat.mul_one, Nat.or_right_comm,
        Nat.or_self]
  have hupper := Bool.toNat_le i.irq
  refine UInt32.toNat_inj.mp ?_
  calc i.flagged.control.toNat
      = 2 ^ 28 * i.opcode.code + (2 ^ 27 * 1 + low) := by
        rw [toNat_control]
        simp only [flagged, Bool.toNat_true, low]
        omega
    _ = 2 ^ 28 * i.opcode.code ||| ((2 ^ 27 * i.irq.toNat + low) ||| 2 ^ 27) := by
        rw [hirq, Nat.two_pow_add_eq_or_of_lt (by omega)]
    _ = i.control.toNat ||| 2 ^ 27 := by
        rw [hword, Nat.two_pow_add_eq_or_of_lt (show 2 ^ 27 * i.irq.toNat + low < 2 ^ 28 by omega),
          Nat.or_assoc]
    _ = (i.control ||| 0x8000000).toNat := (UInt32.toNat_or _ 0x8000000).symm

/-! ## Taking words apart -/

/-- The instruction with the packed parts cut to the bits that they have in the first word. -/
def reduced (i : Instruction) : Instruction :=
  { i with dataType := i.dataType % 8, start := i.start % 4096, count := i.count % 4096 }

/-- An instruction whose parts fit is cut nowhere. -/
lemma Fits.reduced_eq (h : i.Fits) : i.reduced = i := by
  have htype : i.dataType % 8 = i.dataType :=
    UInt8.toNat_inj.mp ((UInt8.toNat_mod _ _).trans (Nat.mod_eq_of_lt h.dataType))
  have hstart : i.start % 4096 = i.start :=
    UInt16.toNat_inj.mp ((UInt16.toNat_mod _ _).trans (Nat.mod_eq_of_lt h.start))
  have hcount : i.count % 4096 = i.count :=
    UInt16.toNat_inj.mp ((UInt16.toNat_mod _ _).trans (Nat.mod_eq_of_lt h.count))
  rw [reduced, htype, hstart, hcount]

/-- Decoding the words of an instruction cuts it. -/
lemma decode_encode (i : Instruction) : decode i.encode.1 i.encode.2 = some i.reduced := by
  have htype : UInt8.ofNat (i.dataType.toNat % 8) = i.dataType % 8 :=
    UInt8.toNat_inj.mp (by rw [UInt8.toNat_ofNat', UInt8.toNat_mod]; simp; omega)
  have hstart : UInt16.ofNat (i.start.toNat % 4096) = i.start % 4096 :=
    UInt16.toNat_inj.mp (by rw [UInt16.toNat_ofNat', UInt16.toNat_mod]; simp; omega)
  have hcount : UInt16.ofNat (i.count.toNat % 4096) = i.count % 4096 :=
    UInt16.toNat_inj.mp (by rw [UInt16.toNat_ofNat', UInt16.toNat_mod]; simp; omega)
  rw [encode, decode_control, htype, hstart, hcount]
  rfl

/-- **What two words stand for**: an instruction whose parts fit, and whose words they are.

**Proof sketch.** The parts that are decoded are digits of the word to mixed bases, so they fit and
add up to the word again. Conversely words of an instruction that fits are decoded to it. -/
theorem decode_eq_some :
    decode control address = some i ↔ i.Fits ∧ i.encode = (control, address) := by
  constructor
  · intro h
    obtain ⟨opcode, hopcode, h⟩ := Option.bind_eq_some_iff.mp h
    obtain rfl := Option.some.inj h
    have hcode := Opcode.ofCode?_eq_some.mp hopcode
    have hword : control.toNat < 2 ^ 32 := control.toNat_lt
    have htype : (UInt8.ofNat (control.toNat / 0x1000000 % 8)).toNat =
        control.toNat / 0x1000000 % 8 :=
      UInt8.toNat_ofNat_of_lt' (by simp only [UInt8.size]; omega)
    have hstart : (UInt16.ofNat (control.toNat / 4096 % 4096)).toNat =
        control.toNat / 4096 % 4096 :=
      UInt16.toNat_ofNat_of_lt' (by simp only [UInt16.size]; omega)
    have hcount : (UInt16.ofNat (control.toNat % 4096)).toNat = control.toNat % 4096 :=
      UInt16.toNat_ofNat_of_lt' (by simp only [UInt16.size]; omega)
    have hirq : (control.toNat / 0x8000000 % 2 == 1).toNat = control.toNat / 0x8000000 % 2 := by
      obtain h | h := Nat.mod_two_eq_zero_or_one (control.toNat / 0x8000000) <;> rw [h] <;> rfl
    refine ⟨⟨?_, ?_, ?_⟩, Prod.ext (UInt32.toNat_inj.mp ?_) rfl⟩
    · rw [htype]; omega
    · rw [hstart]; omega
    · rw [hcount]; omega
    · -- the parts, each at its place, are the word again
      rw [encode, toNat_control]
      simp only [htype, hstart, hcount, hirq, ← hcode]
      omega
  · rintro ⟨hfits, hencode⟩
    obtain ⟨rfl, rfl⟩ := Prod.mk.inj hencode
    exact hfits.decode

/-- The opcode is what the upper four bits of the first word stand for. -/
lemma toNat_control_shiftRight (i : Instruction) : (i.control >>> 28).toNat = i.opcode.code := by
  have hcode := i.opcode.code_lt
  have hirq := Bool.toNat_le i.irq
  rw [UInt32.toNat_shiftRight, toNat_control, show (28 : UInt32).toNat % 32 = 28 from rfl,
    Nat.shiftRight_eq_div_pow]
  omega

/-- Two words are an instruction if their opcode is one. -/
lemma exists_decode_iff :
    (∃ i, decode control address = some i) ↔ ∃ op : Opcode, (control >>> 28).toNat = op.code := by
  constructor
  · rintro ⟨i, h⟩
    obtain ⟨rfl, -⟩ := Prod.mk.inj (decode_eq_some.mp h).2
    exact ⟨i.opcode, i.toNat_control_shiftRight⟩
  · rintro ⟨op, hop⟩
    rw [UInt32.toNat_shiftRight, show (28 : UInt32).toNat % 32 = 28 from rfl,
      Nat.shiftRight_eq_div_pow] at hop
    exact ⟨_, Option.bind_eq_some_iff.mpr ⟨op, Opcode.ofCode?_eq_some.mpr hop, rfl⟩⟩

/-- **Which words are instructions, and what encoding keeps.** Two words are an instruction if and
only if the upper four bits of the first are the code of one of the five opcodes. That instruction
has the opcode, its parts fit, and its own words are the two. Of any instruction the words keep all
but what its parts have above their three and twelve bits, so that an instruction whose parts fit is
read back as it is. -/
theorem decode_exact (control address : UInt32) (i : Instruction) :
    ((∃ read, decode control address = some read) ↔
      ∃ op : Opcode, (control >>> 28).toNat = op.code) ∧
    (∀ read, decode control address = some read →
      (control >>> 28).toNat = read.opcode.code ∧ read.Fits ∧ read.encode = (control, address)) ∧
    decode i.encode.1 i.encode.2 = some i.reduced ∧
    (i.Fits → decode i.encode.1 i.encode.2 = some i) := by
  refine ⟨exists_decode_iff, fun read hread => ?_, i.decode_encode, fun hfits => ?_⟩
  · obtain ⟨hfits, hencode⟩ := decode_eq_some.mp hread
    obtain ⟨rfl, rfl⟩ := Prod.mk.inj hencode
    exact ⟨read.toNat_control_shiftRight, hfits, rfl⟩
  · rw [i.decode_encode, hfits.reduced_eq]

/-- The rest of a line that was split, with an interrupt and every part taken up in full. -/
def fullest : Instruction where
  opcode := .inline
  irq := true
  dataType := 7
  start := 4095
  count := 4095
  address := 0xffffffff

/-- A word with all bits set below its opcode is an instruction with every part taken up in full;
larger parts would be cut to the same word. With one bit less in its opcode it is no instruction. -/
theorem decode_exact_full :
    decode 0xafffffff 0xffffffff = some fullest ∧ fullest.encode = (0xafffffff, 0xffffffff) ∧
      fullest.Fits ∧ decode fullest.encode.1 fullest.encode.2 = some fullest ∧
      { fullest with dataType := 255, start := 65535, count := 65535 }.reduced = fullest ∧
      decode 0x8fffffff 0xffffffff = none := by
  have hfits : fullest.Fits := ⟨by decide, by decide, by decide⟩
  have hread : decode 0xafffffff 0xffffffff = some fullest := by decide
  obtain ⟨-, hwords, -, hback⟩ := decode_exact 0xafffffff 0xffffffff fullest
  exact ⟨hread, (hwords fullest hread).2.2, hfits, hback hfits, by decide, by decide⟩

end Instruction

end VideoCapture
