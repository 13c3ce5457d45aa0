import VideoCapture.Proofs.Engine.Silence

/-!
# Switching the engine and acknowledging its interrupts

The enable bit of the DMA control register is switched by writes, and the registers remember them.
So do the interrupt bits that are acknowledged, in what is left of them. Starting the engine
switches it on and acknowledges nothing; stopping it switches it off and acknowledges the interrupts
of the capture path.

## Main definitions

* `VideoCapture.RegisterFile.switchings` — how the enable bit has been switched, latest first.
* `VideoCapture.RegisterFile.Driven` — how it has been switched between two states of the registers,
  and which interrupts have been acknowledged there.
* `VideoCapture.RegisterFile.Switched` — whether it has been switched on, or off, between them.

## Main results

* `VideoCapture.RegisterFile.driven_start`, `VideoCapture.RegisterFile.driven_stop`,
  `VideoCapture.RegisterFile.driven_maskAll`, `VideoCapture.RegisterFile.driven_acknowledge` — what
  the driver does to the engine.
-/

set_option autoImplicit false

namespace VideoCapture

/-- Clearing bits one after the other clears them all. -/
lemma and_not_and_not (value bits more : UInt32) :
    value &&& ~~~bits &&& ~~~more = value &&& ~~~(bits ||| more) := by
  rw [← UInt32.toBitVec_inj]
  ext i hi
  simp [Bool.and_assoc]

/-- Acknowledging interrupts leaves none of them but those that are held up. -/
lemma and_not_held_and_acknowledged {value bits : UInt32} (read held : UInt32)
    (h : value &&& bits = value) : value &&& ~~~held &&& ((read &&& ~~~bits) ||| held) = 0 := by
  rw [← UInt32.toBitVec_inj] at h ⊢
  ext i hi
  have hbit := congrArg (fun b => b.getLsbD i) h
  simp at hbit ⊢
  grind

/-- All of them are left if and only if all are held up. -/
lemma and_acknowledged_eq_iff {value bits : UInt32} (read held : UInt32)
    (h : value &&& bits = value) :
    value &&& ((read &&& ~~~bits) ||| held) = value ↔ value &&& ~~~held = 0 := by
  rw [← UInt32.toBitVec_inj] at h
  rw [← UInt32.toBitVec_inj, ← UInt32.toBitVec_inj, BitVec.eq_of_getLsbD_eq_iff,
    BitVec.eq_of_getLsbD_eq_iff]
  refine forall₂_congr fun i hi => ?_
  have hbit := congrArg (fun b => b.getLsbD i) h
  simp [hi] at hbit ⊢
  grind

/-- How a write switches the enable bit, if it is a write of its register. -/
def RegisterWrite.switching? : RegisterWrite → Option Bool
  | .word offset value =>
    if offset = Register.dmaControl then some (value &&& DmaControl.programEnable != 0) else none
  | .byte _ _ => none

namespace RegisterFile

/-- How the enable bit has been switched, latest first. -/
def switchings (regs : RegisterFile) : List Bool :=
  regs.history.filterMap RegisterWrite.switching?

/-- Between two states of the registers the enable bit has been switched as `commands` say, latest
first, and the interrupts `bits` have been acknowledged. -/
structure Driven (regs : RegisterFile) (commands : List Bool) (bits : UInt32)
    (regs' : RegisterFile) : Prop where
  /-- How the enable bit has been switched. -/
  switchings : regs'.switchings = commands ++ regs.switchings
  /-- What has been acknowledged is no longer latched, as far as it is not held up. -/
  interruptStatus : regs'.read32 Register.interruptStatus =
    (regs.read32 Register.interruptStatus &&& ~~~bits) ||| regs.stuck
  /-- What is held up stays so. -/
  stuck : regs'.stuck = regs.stuck

/-- Between two states of the registers the enable bit has been switched on, or off. -/
def Switched (on : Bool) (regs regs' : RegisterFile) : Prop :=
  ∃ commands, regs'.switchings = commands ++ regs.switchings ∧ on ∈ commands

variable {regs regs₁ regs' : RegisterFile} {commands later : List Bool} {bits more : UInt32}

/-- Whether the enable bit has been switched on, or off, shows in how it has been switched. -/
lemma Driven.switched_iff (h : regs.Driven commands bits regs') (on : Bool) :
    regs.Switched on regs' ↔ on ∈ commands := by
  constructor
  · rintro ⟨commands', hswitchings, hmem⟩
    rwa [← List.append_cancel_right (hswitchings.symm.trans h.switchings)]
  · exact fun hmem => ⟨commands, h.switchings, hmem⟩

/-- The interrupt status shows what is held up. -/
lemma read32_interruptStatus_or_stuck (regs : RegisterFile) :
    regs.read32 Register.interruptStatus ||| regs.stuck =
      regs.read32 Register.interruptStatus := by
  rw [read32_interruptStatus, UInt32.or_assoc, UInt32.or_self]

/-- Where nothing has been done nothing has been switched or acknowledged. -/
lemma Driven.refl (regs : RegisterFile) : regs.Driven [] 0 regs := by
  refine ⟨rfl, ?_, rfl⟩
  rw [UInt32.not_zero, UInt32.and_neg_one, read32_interruptStatus_or_stuck]

/-- What has been done first is followed by what has been done then. -/
lemma Driven.trans (h : regs.Driven commands bits regs₁) (h' : regs₁.Driven later more regs') :
    regs.Driven (later ++ commands) (bits ||| more) regs' := by
  refine ⟨?_, ?_, h'.stuck.trans h.stuck⟩
  · rw [h'.switchings, h.switchings, List.append_assoc]
  · rw [h'.interruptStatus, h.interruptStatus, h.stuck, or_and_or_self, and_not_and_not]

/-- Of what has been acknowledged nothing is pending but what is held up. -/
lemma Driven.acknowledged {value : UInt32} (h : regs.Driven commands bits regs')
    (hvalue : value &&& bits = value) :
    value &&& ~~~regs.stuck &&& regs'.read32 Register.interruptStatus = 0 := by
  rw [h.interruptStatus]
  exact and_not_held_and_acknowledged _ _ hvalue

/-- Where nothing has been acknowledged the interrupt status is as it was. -/
lemma Driven.same (h : regs.Driven commands 0 regs') :
    regs'.read32 Register.interruptStatus = regs.read32 Register.interruptStatus :=
  h.interruptStatus.trans (Driven.refl regs).interruptStatus.symm

/-- A word written to a register but the interrupt status is remembered as it switches. -/
lemma driven_write32 (regs : RegisterFile) (offset : Nat) (value : UInt32)
    (h : offset / 4 ≠ Register.interruptStatus / 4) :
    regs.Driven (RegisterWrite.switching? (.word offset value)).toList 0
      (regs.write32 offset value) := by
  refine ⟨?_, ?_, rfl⟩
  · simp only [switchings, write32, List.filterMap_cons]
    split <;> next heq => rw [heq]; rfl
  · rw [read32_write32_ne value h]
    exact (Driven.refl regs).interruptStatus

/-- A merge into the control register switches the engine if the mask has its enable bit. -/
lemma driven_merge32 (regs : RegisterFile) {mask : UInt32} (value : UInt32)
    (hmask : DmaControl.programEnable &&& mask = DmaControl.programEnable) :
    regs.Driven [value &&& DmaControl.programEnable != 0] 0
      (RegisterAccess.merge32 regs Register.dmaControl mask value) := by
  have hwritten := driven_write32 regs Register.dmaControl
    ((regs.read32 Register.dmaControl &&& ~~~mask) ||| (value &&& mask)) (by decide)
  rwa [RegisterWrite.switching?, if_pos rfl, merge_and_eq hmask] at hwritten

/-- Bytes written to the decoder concern neither.

**Proof sketch.** Induction on the writes. -/
lemma driven_foldl_write8 (writes : List (Nat × UInt8)) (regs : RegisterFile)
    (h : ∀ write ∈ writes, write.1 / 4 ≠ Register.interruptStatus / 4) :
    regs.Driven [] 0
      (writes.foldl (fun regs (offset, value) => regs.write8 offset value) regs) := by
  induction writes generalizing regs with
  | nil => exact .refl regs
  | cons write writes ih =>
    obtain ⟨hwrite, hrest⟩ := List.forall_mem_cons.mp h
    have hfirst : regs.Driven [] 0 (regs.write8 write.1 write.2) := by
      refine ⟨rfl, ?_, rfl⟩
      rw [read32_interruptStatus, slot_write8_ne regs write.2 hwrite]
      exact (Driven.refl regs).interruptStatus
    exact hfirst.trans (ih _ hrest)

/-! ## What the driver does -/

/-- **Interrupts are acknowledged** by writing to the interrupt status. -/
theorem driven_acknowledge (regs : RegisterFile) (bits : UInt32) :
    regs.Driven [] bits (regs.write32 Register.interruptStatus bits) :=
  ⟨rfl, regs.read32_write32_interruptStatus bits, rfl⟩

/-- **Starting the engine switches it on**, and acknowledges nothing. -/
theorem driven_start {engine engine' : Engine} {address : UInt32} {g : Geometry} {n : Norm}
    (h : engine.start regs address g n = .ok (engine', regs')) : regs.Driven [true] 0 regs' := by
  obtain ⟨scaling, -, -, rfl⟩ := Engine.start_eq_ok h
  have helsewhere : ∀ offset ∈ Scaling.offsets,
      offset / 4 ≠ Register.interruptStatus / 4 := by decide
  have hscaled : regs.Driven [] 0 (scaling.program regs) :=
    driven_foldl_write8 _ regs fun write hwrite =>
      helsewhere write.1 (List.mem_map_of_mem (f := Prod.fst) hwrite)
  have hplaced := hscaled.trans
    (driven_write32 _ Register.programStart address (by decide))
  have henabled := driven_merge32 ((scaling.program regs).write32 Register.programStart address)
    (g.format.color ||| DmaControl.enables)
    (show DmaControl.programEnable &&& DmaControl.capture = DmaControl.programEnable by decide)
  rw [Engine.enables_and_programEnable] at henabled
  exact (hplaced.trans henabled).trans
    (driven_write32 _ Register.interruptMask _ (by decide))

/-- **Stopping the engine switches it off**, and acknowledges the interrupts of the capture path. -/
theorem driven_stop (engine : Engine) (regs : RegisterFile) :
    regs.Driven [false] Status.video (engine.stop regs).2 := by
  have hdisabled : regs.Driven [false] 0
      (RegisterAccess.clear32 regs Register.dmaControl DmaControl.enables) :=
    driven_merge32 regs 0 (by decide)
  exact (hdisabled.trans (driven_write32 _ Register.interruptMask _ (by decide))).trans
    (driven_acknowledge _ Status.video)

/-- Masking the interrupts does neither. -/
theorem driven_maskAll (engine : Engine) (regs : RegisterFile) :
    regs.Driven [] 0 (engine.maskAll regs).2 :=
  driven_write32 regs Register.interruptMask 0 (by decide)

end RegisterFile

end VideoCapture
