import VideoCapture.Proofs.Engine.Control

/-!
# What stopping the engine does to the registers

Stopping the engine writes to three registers. It takes the enables and the interrupts of the
capture path back, leaves the other bits of their registers alone, and acknowledges what the
interrupts have latched; a status bit that a stuck line holds up reads as set all the same. Doing it
twice does no more than doing it once.

## Main definitions

* `VideoCapture.RegisterFile.Silenced` — the engine has been stopped.
* `VideoCapture.RegisterFile.Silent` — registers in which there is nothing to be stopped.

## Main results

* `VideoCapture.RegisterFile.silenced_stop` — what stopping the engine does.
* `VideoCapture.RegisterFile.Silenced.sameSwitches_iff` — it shows unless there is nothing to be
  stopped.
-/

set_option autoImplicit false

namespace VideoCapture

/-! ## Bits -/

/-- What is held up does not show in what else is kept. -/
lemma or_and_or_self (value bits held : UInt32) :
    ((value ||| held) &&& bits) ||| held = (value &&& bits) ||| held := by
  rw [← UInt32.toBitVec_inj]
  ext i hi
  simp
  grind

/-- Clearing bits shows unless they are clear, apart from those that are held up. -/
lemma or_and_not_or_eq_iff (value bits held : UInt32) :
    ((value ||| held) &&& ~~~bits) ||| held = value ||| held ↔
      (value ||| held) &&& bits &&& ~~~held = 0 := by
  rw [← UInt32.toBitVec_inj, ← UInt32.toBitVec_inj, BitVec.eq_of_getLsbD_eq_iff,
    BitVec.eq_of_getLsbD_eq_iff]
  refine forall₂_congr fun i hi => ?_
  simp [hi]
  grind

/-- So does clearing bits none of which is held up. -/
lemma and_not_eq_self_iff (value bits : UInt32) :
    value &&& ~~~bits = value ↔ value &&& bits = 0 := by
  simpa using or_and_not_or_eq_iff value bits 0

/-! ## Stopping the engine -/

namespace RegisterFile

/-- The registers that stopping the engine writes to. -/
def switches : List Nat :=
  [Register.dmaControl, Register.interruptMask, Register.interruptStatus]

/-- The engine has been stopped: the enables and the interrupts of the capture path have been taken
back, and what these had latched has been acknowledged. The other registers are as they were. -/
structure Silenced (regs regs' : RegisterFile) : Prop where
  /-- The enables have been taken back. -/
  dmaControl : regs'.read32 Register.dmaControl =
    regs.read32 Register.dmaControl &&& ~~~DmaControl.enables
  /-- The interrupts have been taken back. -/
  interruptMask : regs'.read32 Register.interruptMask =
    regs.read32 Register.interruptMask &&& ~~~Status.video
  /-- What they had latched has been acknowledged, as far as it is not held up. -/
  interruptStatus : regs'.read32 Register.interruptStatus =
    (regs.read32 Register.interruptStatus &&& ~~~Status.video) ||| regs.stuck
  /-- What is held up stays so. -/
  stuck : regs'.stuck = regs.stuck
  /-- The other registers are as they were. -/
  others : ∀ i, (∀ offset ∈ switches, offset / 4 ≠ i) → regs'.slot i = regs.slot i

/-- Registers in which there is nothing to be stopped. -/
structure Silent (regs : RegisterFile) : Prop where
  /-- Neither enable is set. -/
  disabled : regs.read32 Register.dmaControl &&& DmaControl.enables = 0
  /-- No interrupt of the capture path is passed on. -/
  masked : regs.read32 Register.interruptMask &&& Status.video = 0
  /-- None is latched, except what is held up. -/
  acknowledged : regs.read32 Register.interruptStatus &&& Status.video &&& ~~~regs.stuck = 0

variable {regs regs₁ regs' : RegisterFile}

/-- The interrupt status reads as what is latched and what is held up. -/
lemma read32_interruptStatus (regs : RegisterFile) :
    regs.read32 Register.interruptStatus =
      regs.slot (Register.interruptStatus / 4) ||| regs.stuck := by
  rw [read32, if_pos rfl]

/-- What is acknowledged is no longer latched. -/
lemma read32_write32_interruptStatus (regs : RegisterFile) (bits : UInt32) :
    (regs.write32 Register.interruptStatus bits).read32 Register.interruptStatus =
      (regs.read32 Register.interruptStatus &&& ~~~bits) ||| regs.stuck := by
  have hslot : (regs.write32 Register.interruptStatus bits).slot (Register.interruptStatus / 4) =
      regs.slot (Register.interruptStatus / 4) &&& ~~~bits :=
    slot_setSlot regs _ (by decide)
  rw [read32_interruptStatus, read32_interruptStatus, hslot, or_and_or_self]
  rfl

/-- **Stopping the engine does this to the registers.**

**Proof sketch.** Three writes, one after the other, each to one of the three registers that switch
the engine, so that each register is read back behind the writes that do not concern it. -/
theorem silenced_stop (engine : Engine) (regs : RegisterFile) :
    regs.Silenced (engine.stop regs).2 := by
  let disabled := RegisterAccess.clear32 regs Register.dmaControl DmaControl.enables
  let masked := RegisterAccess.clear32 disabled Register.interruptMask Status.video
  -- each write concerns one of the registers
  have hcontrol : disabled.read32 Register.dmaControl =
      (regs.read32 Register.dmaControl &&& ~~~DmaControl.enables) ||| (0 &&& DmaControl.enables) :=
    regs.read32_merge32 _ _ (by decide) (by decide)
  have hmask : masked.read32 Register.interruptMask =
      (disabled.read32 Register.interruptMask &&& ~~~Status.video) ||| (0 &&& Status.video) :=
    disabled.read32_merge32 _ _ (by decide) (by decide)
  have hdisabled : ∀ other, Register.dmaControl / 4 ≠ other / 4 →
      disabled.read32 other = regs.read32 other := fun _ => read32_write32_ne _
  have hmasked : ∀ other, Register.interruptMask / 4 ≠ other / 4 →
      masked.read32 other = disabled.read32 other := fun _ => read32_write32_ne _
  rw [UInt32.zero_and, UInt32.or_zero] at hcontrol hmask
  constructor
  case dmaControl =>
    refine (read32_write32_ne _ (by decide)).trans ?_
    exact (hmasked _ (by decide)).trans hcontrol
  case interruptMask =>
    refine (read32_write32_ne _ (by decide)).trans ?_
    rw [hmask, hdisabled _ (by decide)]
  case interruptStatus =>
    refine (masked.read32_write32_interruptStatus Status.video).trans ?_
    rw [hmasked _ (by decide), hdisabled _ (by decide)]
    rfl
  case stuck => rfl
  case others =>
    intro i hi
    have hapart : ∀ offset ∈ switches, ∀ (regs : RegisterFile) value,
        (regs.write32 offset value).slot i = regs.slot i :=
      fun offset hoffset regs value => slot_setSlot_ne regs _ (hi offset hoffset)
    exact (hapart Register.interruptStatus (by decide) _ _).trans <|
      (hapart Register.interruptMask (by decide) _ _).trans
        (hapart Register.dmaControl (by decide) _ _)

/-- Stopping the engine again does no more. -/
lemma Silenced.trans (h : regs.Silenced regs₁) (h' : regs₁.Silenced regs') :
    regs.Silenced regs' where
  dmaControl := by rw [h'.dmaControl, h.dmaControl, UInt32.and_assoc, UInt32.and_self]
  interruptMask := by rw [h'.interruptMask, h.interruptMask, UInt32.and_assoc, UInt32.and_self]
  interruptStatus := by
    rw [h'.interruptStatus, h.interruptStatus, h.stuck, or_and_or_self, UInt32.and_assoc,
      UInt32.and_self]
  stuck := h'.stuck.trans h.stuck
  others i hi := (h'.others i hi).trans (h.others i hi)

/-- A stopped engine does not run. -/
lemma Silenced.running (h : regs.Silenced regs') : Engine.running regs' = false := by
  have hbit : ~~~DmaControl.enables &&& DmaControl.programEnable = 0 := by decide
  rw [Engine.running, h.dmaControl, UInt32.and_assoc, hbit, UInt32.and_zero]
  rfl

/-- **Stopping the engine shows unless there is nothing to be stopped.** -/
theorem Silenced.sameSwitches_iff (h : regs.Silenced regs') :
    (∀ offset ∈ switches, regs'.read32 offset = regs.read32 offset) ↔ regs.Silent := by
  simp only [switches, List.forall_mem_cons, List.not_mem_nil, false_implies, implies_true,
    and_true]
  rw [h.dmaControl, h.interruptMask, h.interruptStatus, and_not_eq_self_iff, and_not_eq_self_iff]
  have hstatus := or_and_not_or_eq_iff (regs.slot (Register.interruptStatus / 4)) Status.video
    regs.stuck
  rw [← read32_interruptStatus] at hstatus
  rw [hstatus]
  exact ⟨fun ⟨hcontrol, hmask, hlatched⟩ => ⟨hcontrol, hmask, hlatched⟩,
    fun hsilent => ⟨hsilent.disabled, hsilent.masked, hsilent.acknowledged⟩⟩

end RegisterFile

end VideoCapture
