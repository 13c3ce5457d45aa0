import VideoCapture.Program.Basic
import VideoCapture.Proofs.Instruction.Codec
import VideoCapture.Proofs.Outcome
import Mathlib.Tactic.Lemma

/-!
# The tail of a program

A program ends in a jump that is written anew whenever the program is chained to another. What the
engine meets there is read back from memory, word by word; pointing the tail elsewhere changes
nothing in front of it, and not where the program lies.

## Main definitions

* `VideoCapture.Program.tailInstruction` — what stands in memory at the tail of a program.
* `VideoCapture.Program.HasTail` — the memory of a program has room for its tail.
* `VideoCapture.Program.untied` — a program with where its tail points taken back.

## Main results

* `VideoCapture.Program.tailInstruction_retarget` — a tail that was pointed at an address is the
  jump to it.
* `VideoCapture.Program.hasTail_of_build` — programs are built with room for their tail.
-/

set_option autoImplicit false

namespace VideoCapture

namespace Program

/-- The instruction that stands at a program's tail, if the words there are one. -/
def tailInstruction (program : Program) : Option Instruction := do
  let control ← program.memory.words[program.tail]?
  let address ← program.memory.words[program.tail + 1]?
  Instruction.decode control address

/-- The memory of a program reaches to the end of its tail. -/
def HasTail (program : Program) : Prop :=
  program.tail + 2 ≤ program.memory.words.length

/-- The program with its tail pointed nowhere, so that programs differ only in what does not change
when they are chained. -/
def untied (program : Program) : Program :=
  program.retarget 0 false

/-! ## Pointing the tail elsewhere -/

/-- The tail stays where it is, wherever it points. -/
@[simp] lemma tail_retarget (program : Program) (target : UInt32) (irq : Bool) :
    (program.retarget target irq).tail = program.tail := rfl

/-- A program is as long, wherever its tail points. -/
@[simp] lemma length_words_retarget (program : Program) (target : UInt32) (irq : Bool) :
    (program.retarget target irq).memory.words.length = program.memory.words.length := by
  simp [retarget]

/-- What stands in front of the tail stays when the tail is pointed elsewhere. -/
@[simp] lemma take_words_retarget (program : Program) (target : UInt32) (irq : Bool) :
    (program.retarget target irq).memory.words.take program.tail =
      program.memory.words.take program.tail := by
  simp only [retarget]
  rw [List.take_set_of_le (Nat.le_succ _), List.take_set_of_le (Nat.le_refl _)]

/-- A program keeps room for its tail when the tail is pointed elsewhere. -/
@[simp] lemma hasTail_retarget {program : Program} {target : UInt32} {irq : Bool} :
    (program.retarget target irq).HasTail ↔ program.HasTail := by
  simp [HasTail]

/-- The words of a tail that was pointed at an address are those of the jump to it. -/
lemma words_tail_retarget {program : Program} (h : program.HasTail) (target : UInt32)
    (irq : Bool) :
    (program.retarget target irq).memory.words[program.tail]? =
        some (Instruction.jumpTo target irq).control ∧
      (program.retarget target irq).memory.words[program.tail + 1]? = some target := by
  unfold HasTail at h
  simp only [retarget, Instruction.jumpTo]
  constructor
  · rw [List.getElem?_set_ne (by omega), List.getElem?_set_self (by omega)]
  · rw [List.getElem?_set_self (by rw [List.length_set]; omega)]

/-- **A tail that was pointed at an address is the jump to it.** -/
theorem tailInstruction_retarget {program : Program} (h : program.HasTail) (target : UInt32)
    (irq : Bool) :
    (program.retarget target irq).tailInstruction = some (Instruction.jumpTo target irq) := by
  obtain ⟨hcontrol, haddress⟩ := words_tail_retarget h target irq
  rw [tailInstruction, tail_retarget, hcontrol, haddress, Option.bind_eq_bind, Option.bind_some,
    Option.bind_some]
  exact (Instruction.fits_jumpTo target irq).decode

/-- Of two targets of a tail only the second shows. -/
lemma retarget_retarget (program : Program) (first second : UInt32) (irq irq' : Bool) :
    (program.retarget first irq).retarget second irq' = program.retarget second irq' := by
  simp only [retarget]
  congr 2
  rw [List.set_comm _ _ (show program.tail + 1 ≠ program.tail by omega), List.set_set,
    List.set_set]

/-- Where the tail points does not show in the program untied. -/
@[simp] lemma untied_retarget (program : Program) (target : UInt32) (irq : Bool) :
    (program.retarget target irq).untied = program.untied :=
  retarget_retarget program target 0 irq false

/-- A program has its tail, wherever it points. -/
lemma hasTail_untied {program : Program} : program.untied.HasTail ↔ program.HasTail :=
  hasTail_retarget

/-! ## Programs as they are made -/

/-- The address of word number `tail` of some memory, added up as the driver does, has 32 bits. -/
def TailInReach (memory : CoherentMemory) (tail : Nat) : Prop :=
  memory.bus.toNat + (UInt32.ofNat (4 * tail)).toNat < bound32

instance (memory : CoherentMemory) (tail : Nat) : Decidable (TailInReach memory tail) :=
  inferInstanceAs (Decidable (_ < _))

/-- What is filled has the words of the memory, if these are enough for what was written. -/
lemma length_words_filled {memory : CoherentMemory} {region : Region}
    (h : region.position ≤ memory.words.length) :
    (filled memory region).memory.words.length = memory.words.length := by
  simp only [filled, List.length_append, List.length_drop, Region.position] at h ⊢
  omega

/-- How writing a program ends once its fields are written: with the program, unless there is no
room for the tail, or the tail has no address.

**Proof sketch.** Only two checks are left, whether the tail has room and whether its address fits
its number. -/
lemma write_of_writeFields {memory : CoherentMemory} {chunks : ScatterList}
    {layout : ProgramLayout} {mode : LineOffset} {region : Region}
    (h : writeFields (.blank memory.words.length) chunks mode layout.parts = .ok region) :
    write memory chunks layout mode =
      if memory.size < 4 * (region.position + 2) then
        .error (.programOverflow (4 * (region.position + 2)) memory.size)
      else if TailInReach memory region.position then
        .ok ((filled memory region).retarget (filled memory region).tailAddress false)
      else .error .numberTooWide := by
  rw [write, h]
  show (if memory.size < 4 * (region.position + 2) then _ else _) = _
  split
  · rfl
  · show (tailPlace memory region.position >>= fun _ => pure _) = _
    by_cases hreach : TailInReach memory region.position
    · have hplace : tailPlace memory region.position = .ok _ := bounded_eq_ok.mpr ⟨hreach, rfl⟩
      rw [if_pos hreach, hplace]
      rfl
    · have hplace : tailPlace memory region.position = .error .numberTooWide :=
        bounded_eq_error.mpr ⟨Nat.le_of_not_lt hreach, rfl⟩
      rw [if_neg hreach, hplace]
      rfl

/-- **A program is written exactly if its fields are**, behind them there is room for the tail, and
the tail has an address. -/
theorem write_eq_ok {memory : CoherentMemory} {chunks : ScatterList} {layout : ProgramLayout}
    {mode : LineOffset} {program : Program} :
    write memory chunks layout mode = .ok program ↔
      ∃ region, writeFields (.blank memory.words.length) chunks mode layout.parts = .ok region ∧
        4 * (region.position + 2) ≤ memory.size ∧ TailInReach memory region.position ∧
        (filled memory region).retarget (filled memory region).tailAddress false = program := by
  constructor
  · intro h
    obtain ⟨region, hregion, -⟩ := bind_eq_ok.mp h
    rw [write_of_writeFields hregion] at h
    split at h
    · cases h
    · next hroom =>
      split at h
      · next hreach => exact ⟨region, hregion, Nat.le_of_not_lt hroom, hreach, Except.ok.inj h⟩
      · cases h
  · rintro ⟨region, hregion, hroom, hreach, rfl⟩
    rw [write_of_writeFields hregion, if_neg (Nat.not_lt_of_le hroom), if_pos hreach]

/-- A program is written only with room for its tail. -/
lemma hasTail_of_write {memory : CoherentMemory} {chunks : ScatterList} {layout : ProgramLayout}
    {mode : LineOffset} {program : Program} (h : write memory chunks layout mode = .ok program) :
    program.HasTail := by
  obtain ⟨region, -, hsize, -, rfl⟩ := write_eq_ok.mp h
  have hwords : memory.size = 4 * memory.words.length := rfl
  rw [hasTail_retarget, HasTail, length_words_filled (by omega)]
  show region.position + 2 ≤ memory.words.length
  omega

variable {δ : Type} [DmaBackend δ]

/-- Building a program allocates memory, and writes the program there if it gets any. -/
lemma build_cases {dma dma' : δ} {chunks : ScatterList} {layout : ProgramLayout}
    {mode : LineOffset} {built : Except Error Program}
    (h : build dma chunks layout mode = .ok (built, dma')) :
    (∃ error, DmaBackend.allocate dma (Instruction.bytes * layout.allowance) =
      (.error error, dma') ∧ built = .error error) ∨
    ∃ memory program, DmaBackend.allocate dma (Instruction.bytes * layout.allowance) =
      (.ok memory, dma') ∧ write memory chunks layout mode = .ok program ∧ built = .ok program := by
  simp only [build] at h
  split at h
  · cases h
  · split at h
    · next error dma₁ hallocate =>
      obtain ⟨rfl, rfl⟩ := Prod.mk.inj (pure_eq_ok.mp h)
      exact .inl ⟨error, hallocate, rfl⟩
    · next memory dma₁ hallocate =>
      obtain ⟨program, hwrite, h⟩ := bind_eq_ok.mp h
      obtain ⟨rfl, rfl⟩ := Prod.mk.inj (pure_eq_ok.mp h)
      exact .inr ⟨memory, program, hallocate, hwrite, rfl⟩

/-- A program that was built was written to memory. -/
lemma exists_write_of_build {dma dma' : δ} {chunks : ScatterList} {layout : ProgramLayout}
    {mode : LineOffset} {program : Program}
    (h : build dma chunks layout mode = .ok (.ok program, dma')) :
    ∃ memory, write memory chunks layout mode = .ok program := by
  obtain ⟨_, -, hbuilt⟩ | ⟨memory, _, -, hwrite, hbuilt⟩ := build_cases h
  · cases hbuilt
  · obtain rfl := Except.ok.inj hbuilt
    exact ⟨memory, hwrite⟩

/-- **Programs are built with room for their tail.** -/
theorem hasTail_of_build {dma dma' : δ} {chunks : ScatterList} {layout : ProgramLayout}
    {mode : LineOffset} {program : Program}
    (h : build dma chunks layout mode = .ok (.ok program, dma')) : program.HasTail := by
  obtain ⟨memory, hwrite⟩ := exists_write_of_build h
  exact hasTail_of_write hwrite

end Program

end VideoCapture
