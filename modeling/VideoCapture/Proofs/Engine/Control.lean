import VideoCapture.Proofs.Engine.Tuning

/-!
# The registers that switch the engine

Two registers switch the engine and its interrupts. The DMA control register has an enable bit for
the programs and one for the pixel queue, besides the colour format and bits that are not the
capture path's. The interrupt mask has the sources that are passed on, and what it holds is
remembered apart from it.

Starting the engine, stopping it and masking its interrupts change the two registers and the memory
of the mask one after the other. Between operations all of it fits together.

## Main definitions

* `VideoCapture.Engine.queueing` — whether the registers have the pixel queue enabled.
* `VideoCapture.RegisterFile.SameControl` — registers of which the two hold the same.
* `VideoCapture.Engine.Aligned` — the two registers and the memory of the mask fit together.

## Main results

* `VideoCapture.Engine.aligned_of_start`, `VideoCapture.Engine.aligned_stop`,
  `VideoCapture.Engine.aligned_maskAll` — the engine is switched and everything fits again.
-/

set_option autoImplicit false

namespace VideoCapture

/-- A merge leaves bits alone that its mask does not select. -/
lemma merge_and_of_apart {old mask value others : UInt32} (h : mask &&& others = 0) :
    ((old &&& ~~~mask) ||| (value &&& mask)) &&& others = old &&& others := by
  rw [← UInt32.toBitVec_inj] at h ⊢
  ext i hi
  have hbit := congrArg (fun b => b.getLsbD i) h
  simp at hbit ⊢
  grind

/-! ## Registers left alone -/

namespace RegisterFile

/-- Registers of which the two that switch the engine and its interrupts hold the same. -/
structure SameControl (regs regs' : RegisterFile) : Prop where
  /-- The DMA control register does. -/
  dmaControl : regs'.read32 Register.dmaControl = regs.read32 Register.dmaControl
  /-- The interrupt mask does. -/
  interruptMask : regs'.read32 Register.interruptMask = regs.read32 Register.interruptMask

variable {regs regs₁ regs' : RegisterFile}

/-- What is not written stays the same. -/
lemma SameControl.refl (regs : RegisterFile) : regs.SameControl regs :=
  ⟨rfl, rfl⟩

/-- The two registers stay the same over one write after the other. -/
lemma SameControl.trans (h : regs.SameControl regs₁) (h' : regs₁.SameControl regs') :
    regs.SameControl regs' :=
  ⟨h'.dmaControl.trans h.dmaControl, h'.interruptMask.trans h.interruptMask⟩

/-- A word shows in its register only. -/
lemma read32_write32_ne {offset other : Nat} (value : UInt32) (h : offset / 4 ≠ other / 4) :
    (regs.write32 offset value).read32 other = regs.read32 other := by
  have hslot : (regs.write32 offset value).slot (other / 4) = regs.slot (other / 4) :=
    slot_setSlot_ne regs _ h
  rw [read32, hslot]
  rfl

/-- The two registers hold the same if their slots do. -/
lemma sameControl_of_slot (hcontrol : regs'.slot 0 = regs.slot 0)
    (hmask : regs'.slot 8 = regs.slot 8) : regs.SameControl regs' :=
  ⟨hcontrol, hmask⟩

/-- A word written elsewhere concerns neither register. -/
lemma sameControl_write32 (offset : Nat) (value : UInt32) (hcontrol : offset / 4 ≠ 0)
    (hmask : offset / 4 ≠ 8) : regs.SameControl (regs.write32 offset value) :=
  sameControl_of_slot (slot_setSlot_ne regs _ hcontrol) (slot_setSlot_ne regs _ hmask)

/-- Bytes written elsewhere concern neither register. -/
lemma sameControl_foldl_write8 (writes : List (Nat × UInt8))
    (h : ∀ write ∈ writes, write.1 / 4 ≠ 0 ∧ write.1 / 4 ≠ 8) :
    regs.SameControl (writes.foldl (fun regs (offset, value) => regs.write8 offset value) regs) :=
  sameControl_of_slot (slot_foldl_write8 regs fun write hwrite => (h write hwrite).1)
    (slot_foldl_write8 regs fun write hwrite => (h write hwrite).2)

/-- Programming the scaler concerns neither register. -/
lemma sameControl_program (s : Scaling) (regs : RegisterFile) :
    regs.SameControl (s.program regs) := by
  have helsewhere : ∀ offset ∈ Scaling.offsets, offset / 4 ≠ 0 ∧ offset / 4 ≠ 8 := by decide
  refine sameControl_foldl_write8 _ fun write hwrite => helsewhere write.1 ?_
  exact List.mem_map_of_mem (f := Prod.fst) hwrite

end RegisterFile

/-! ## The engine and its interrupts -/

namespace Engine

open RegisterFile (SameControl)

/-- Whether the pixel queue is enabled. -/
def queueing (regs : RegisterFile) : Bool :=
  regs.read32 Register.dmaControl &&& DmaControl.queueEnable != 0

/-- The two registers and the memory of the mask fit together. Of the DMA control register the bits
that are not the capture path's are `others`. -/
structure Aligned (others : UInt32) (engine : Engine) (regs : RegisterFile) : Prop where
  /-- The pixel queue is enabled exactly if programs are executed. -/
  enables : queueing regs = running regs
  /-- The interrupt mask is what is remembered of it. -/
  mask : regs.read32 Register.interruptMask = engine.mask
  /-- All interrupts of the capture path are wanted, or none, and no others. -/
  own : engine.mask = 0 ∨ engine.mask = Status.video
  /-- While the engine is disabled none is wanted. -/
  silent : running regs = false → engine.mask = 0
  /-- The other bits of the DMA control register. -/
  others : regs.read32 Register.dmaControl &&& ~~~DmaControl.capture = others

variable {others : UInt32} {engine engine' : Engine} {regs regs' : RegisterFile}

/-- Whether the engine is enabled depends on the DMA control register. -/
lemma running_congr (h : regs.SameControl regs') : running regs' = running regs := by
  rw [running, h.dmaControl, running]

/-- What fits together fits as long as the two registers hold the same. -/
lemma Aligned.congr (ha : engine.Aligned others regs) (h : regs.SameControl regs') :
    engine.Aligned others regs' := by
  refine ⟨?_, h.interruptMask.trans ha.mask, ha.own, ?_, ?_⟩
  · rw [queueing, h.dmaControl, running_congr h]
    exact ha.enables
  · rw [running_congr h]
    exact ha.silent
  · rw [h.dmaControl]
    exact ha.others

/-- What holds of both masks there can be holds of the mask. -/
lemma Aligned.of_own (ha : engine.Aligned others regs) {P : UInt32 → Prop} (hnone : P 0)
    (hall : P Status.video) : P engine.mask :=
  ha.own.elim (fun h => h ▸ hnone) fun h => h ▸ hall

/-- Where nothing is enabled and no interrupt is passed on or wanted everything fits together. -/
lemma aligned_of_clear (henables : regs.read32 Register.dmaControl &&& DmaControl.enables = 0)
    (hregister : regs.read32 Register.interruptMask = 0) (hmask : engine.mask = 0) :
    engine.Aligned (regs.read32 Register.dmaControl &&& ~~~DmaControl.capture) regs := by
  have hclear : ∀ bit : UInt32, DmaControl.enables &&& bit = bit →
      (regs.read32 Register.dmaControl &&& bit != 0) = false := by
    intro bit hbit
    rw [← hbit, ← UInt32.and_assoc, henables, UInt32.zero_and]
    rfl
  have hrunning : running regs = false := hclear _ (by decide)
  have hqueueing : queueing regs = false := hclear _ (by decide)
  exact ⟨hqueueing.trans hrunning.symm, hregister.trans hmask.symm, .inl hmask, fun _ => hmask, rfl⟩

/-- A merge into the DMA control register that switches both enables alike leaves them alike, if it
is of the capture path.

**Proof sketch.** Each of the two bits is one that is written, and what is written has both of them
or neither. -/
lemma enables_merge32 (regs : RegisterFile) (mask value : UInt32)
    (hmask : DmaControl.enables &&& mask = DmaControl.enables)
    (hown : mask &&& ~~~DmaControl.capture = 0)
    (hswitched : value &&& DmaControl.enables = DmaControl.enables ∨
      value &&& DmaControl.enables = 0) :
    let regs' := RegisterAccess.merge32 regs Register.dmaControl mask value
    queueing regs' = running regs' ∧
      regs'.read32 Register.dmaControl &&& ~~~DmaControl.capture =
        regs.read32 Register.dmaControl &&& ~~~DmaControl.capture := by
  intro regs'
  have hread : regs'.read32 Register.dmaControl = _ :=
    regs.read32_merge32 mask value (by decide) (by decide)
  refine ⟨?_, by rw [hread, merge_and_of_apart hown]⟩
  -- each enable is a bit of both
  have hbit : ∀ bit : UInt32, DmaControl.enables &&& bit = bit →
      regs'.read32 Register.dmaControl &&& bit = value &&& DmaControl.enables &&& bit := by
    intro bit hbit
    calc regs'.read32 Register.dmaControl &&& bit
        = regs'.read32 Register.dmaControl &&& DmaControl.enables &&& bit := by
          rw [UInt32.and_assoc, hbit]
      _ = value &&& DmaControl.enables &&& bit := by rw [hread, merge_and_eq hmask]
  rw [queueing, running, hbit _ (by decide), hbit _ (by decide)]
  obtain hon | hoff := hswitched
  · rw [hon]
    rfl
  · rw [hoff]
    rfl

/-- A merge into the DMA control register leaves the interrupt mask alone. -/
lemma read32_interruptMask_merge32 (regs : RegisterFile) (mask value : UInt32) :
    RegisterFile.read32 (RegisterAccess.merge32 regs Register.dmaControl mask value)
      Register.interruptMask = regs.read32 Register.interruptMask :=
  RegisterFile.read32_write32_ne _ (by decide)

/-- Where both enables are alike a mask is written that suits them. -/
lemma aligned_write32 {value : UInt32} (henables : queueing regs = running regs)
    (hothers : regs.read32 Register.dmaControl &&& ~~~DmaControl.capture = others)
    (hmask : engine.mask = value) (hown : value = 0 ∨ value = Status.video)
    (hsilent : running regs = false → value = 0) :
    engine.Aligned others (regs.write32 Register.interruptMask value) := by
  have hcontrol : (regs.write32 Register.interruptMask value).read32 Register.dmaControl =
      regs.read32 Register.dmaControl := RegisterFile.read32_write32_ne _ (by decide)
  refine ⟨?_, ?_, hmask ▸ hown, ?_, hcontrol ▸ hothers⟩
  · rw [queueing, running, hcontrol]
    exact henables
  · rw [RegisterFile.read32_write32 _ _ (by decide) (by decide), hmask]
  · rw [running, hcontrol, hmask]
    exact hsilent

/-- **An engine that is started has both enables and the interrupts of the capture path.**

**Proof sketch.** The scaler and the start of the program are registers of their own. The merge into
the control register sets both enables and leaves the other bits, and then the mask is set to the
interrupts of the capture path, whether it had them before or not. -/
theorem aligned_of_start {address : UInt32} {g : Geometry} {n : Norm}
    (ha : engine.Aligned others regs)
    (h : engine.start regs address g n = .ok (engine', regs')) :
    engine'.Aligned others regs' := by
  obtain ⟨scaling, -, hmask, rfl⟩ := start_eq_ok h
  have hprogrammed : engine.Aligned others
      ((scaling.program regs).write32 Register.programStart address) :=
    ha.congr ((RegisterFile.sameControl_program scaling regs).trans
      (RegisterFile.sameControl_write32 _ _ (by decide) (by decide)))
  generalize (scaling.program regs).write32 Register.programStart address = regs₁
    at hprogrammed ⊢
  obtain ⟨henables, hothers⟩ := enables_merge32 regs₁ DmaControl.capture _
    (by decide) (by decide) (.inl (or_and_self g.format.color DmaControl.enables))
  have hregister := (read32_interruptMask_merge32 regs₁ DmaControl.capture
    (g.format.color ||| DmaControl.enables)).trans hprogrammed.mask
  have hswitched : running (RegisterAccess.merge32 regs₁ Register.dmaControl DmaControl.capture
      (g.format.color ||| DmaControl.enables)) = true := by
    rw [running_merge32 _ (by decide), enables_and_programEnable]
  generalize RegisterAccess.merge32 regs₁ Register.dmaControl DmaControl.capture
    (g.format.color ||| DmaControl.enables) = regs₂ at henables hothers hregister hswitched ⊢
  -- whether some were wanted before or not, all are now
  have hvideo : engine.mask ||| Status.video = Status.video :=
    ha.of_own (P := fun mask => mask ||| Status.video = Status.video) (by decide) (by decide)
  have hvalue : (regs₂.read32 Register.interruptMask &&& ~~~Status.video) |||
      (Status.video &&& Status.video) = Status.video := by
    rw [hregister]
    exact ha.of_own (P := fun mask => (mask &&& ~~~Status.video) ||| (Status.video &&& Status.video)
      = Status.video) (by decide) (by decide)
  rw [hvideo] at hmask ⊢
  have hset : engine'.Aligned others (regs₂.write32 Register.interruptMask
      ((regs₂.read32 Register.interruptMask &&& ~~~Status.video) |||
        (Status.video &&& Status.video))) := by
    rw [hvalue]
    refine aligned_write32 henables (hothers.trans hprogrammed.others) hmask (.inr rfl) ?_
    exact fun hoff => absurd (hoff.symm.trans hswitched) nofun
  exact hset

/-- **An engine that is stopped has neither enable and no interrupt.** -/
theorem aligned_stop (ha : engine.Aligned others regs) :
    (engine.stop regs).1.Aligned others (engine.stop regs).2 := by
  obtain ⟨henables, hothers⟩ := enables_merge32 regs DmaControl.enables 0
    (by decide) (by decide) (.inr UInt32.zero_and)
  have hregister := (read32_interruptMask_merge32 regs DmaControl.enables 0).trans ha.mask
  -- the same bits are cleared in the register and in what is remembered of it
  have hown : engine.mask &&& ~~~Status.video = 0 :=
    ha.of_own (P := fun mask => mask &&& ~~~Status.video = 0) (by decide) (by decide)
  have hcleared : (engine.stop regs).1.Aligned others
      ((RegisterAccess.merge32 regs Register.dmaControl DmaControl.enables 0).write32
        Register.interruptMask ((engine.mask &&& ~~~Status.video) ||| (0 &&& Status.video))) := by
    refine aligned_write32 henables (hothers.trans ha.others) ?_ (.inl ?_) fun _ => ?_
    all_goals rw [hown, UInt32.zero_and, UInt32.or_zero]
    exact hown
  rw [← hregister] at hcleared
  exact hcleared.congr (RegisterFile.sameControl_write32 _ _ (by decide) (by decide))

/-- **Masking the interrupts leaves the enables alone.** -/
theorem aligned_maskAll (ha : engine.Aligned others regs) :
    (engine.maskAll regs).1.Aligned others (engine.maskAll regs).2 :=
  aligned_write32 ha.enables ha.others rfl (.inl rfl) fun _ => rfl

end Engine

end VideoCapture
