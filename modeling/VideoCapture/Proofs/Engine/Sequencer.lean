import VideoCapture.Chip
import VideoCapture.Engine
import VideoCapture.Proofs.Outcome
import Mathlib.Tactic.Lemma

/-!
# The engine behind the registers

The engine of the chip is known to the driver by its registers only. Enabling it makes it begin at
the program whose address stands in the start register; while it is disabled it does not move. What
it does about a sequence of register writes follows from the writes alone, and the registers
remember them.

## Main definitions

* `VideoCapture.Sequencer` — where the engine is, and what it has run since it was enabled.
* `VideoCapture.Sequencer.react` — what the engine does about a register write.
* `VideoCapture.Sequencer.watch` — what it has done about the writes that registers remember.

## Main results

* `VideoCapture.Engine.running_start`, `VideoCapture.Engine.running_stop` — starting the engine
  enables it, and stopping disables it.
* `VideoCapture.Sequencer.watch_start` — starting the engine sends it to the program started.
* `VideoCapture.Sequencer.watch_stop` — stopping it leaves it where it is.
-/

set_option autoImplicit false

namespace VideoCapture

/-! ## Bits -/

/-- A merge takes the bits that its mask selects from the value merged in. -/
lemma merge_and_eq {old mask value bits : UInt32} (h : bits &&& mask = bits) :
    ((old &&& ~~~mask) ||| (value &&& mask)) &&& bits = value &&& bits := by
  rw [← UInt32.toBitVec_inj] at h ⊢
  ext i hi
  have hbit := congrArg (fun b => b.getLsbD i) h
  simp at hbit ⊢
  grind

/-- Bits that are set are set. -/
lemma or_and_self (value bits : UInt32) : (value ||| bits) &&& bits = bits := by
  rw [← UInt32.toBitVec_inj]
  ext i hi
  simp
  grind

/-- Setting bits does not show in others. -/
lemma or_and_of_apart {value bits others : UInt32} (h : bits &&& others = 0) :
    (value ||| bits) &&& others = value &&& others := by
  rw [← UInt32.toBitVec_inj] at h ⊢
  ext i hi
  have hbit := congrArg (fun b => b.getLsbD i) h
  simp at hbit ⊢
  grind

/-- A register that is merged into has the bits of its mask from the value, and keeps the others. -/
lemma RegisterFile.read32_merge32 (regs : RegisterFile) {offset : Nat} (mask value : UInt32)
    (h : offset < Register.space) (hs : offset ≠ Register.interruptStatus) :
    (RegisterAccess.merge32 regs offset mask value).read32 offset =
      (regs.read32 offset &&& ~~~mask) ||| (value &&& mask) :=
  read32_write32 regs _ h hs

/-! ## The engine -/

/-- The engine of the chip, with a record of what it has run. -/
structure Sequencer where
  /-- Whether it executes programs. -/
  enabled : Bool
  /-- The address in the start register. -/
  start : UInt32
  /-- Where the program begins that it is in. -/
  position : UInt32
  /-- The buffers whose programs it has run through their tails since it was enabled. -/
  ran : List Nat

namespace Sequencer

/-- What the engine does about its enable bit: when the bit comes on it goes to the program at the
start address. -/
def switch (s : Sequencer) (enable : Bool) : Sequencer :=
  if enable && !s.enabled then { s with enabled := true, position := s.start, ran := [] }
  else { s with enabled := enable }

/-- What the engine does about a register write. Its two registers are words, and no others concern
it. -/
def react (s : Sequencer) : RegisterWrite → Sequencer
  | .word offset value =>
    if offset = Register.programStart then { s with start := value }
    else if offset = Register.dmaControl then s.switch (value &&& DmaControl.programEnable != 0)
    else s
  | .byte _ _ => s

/-- What the engine has done about the writes that registers remember, the oldest first. -/
def watch (s : Sequencer) (regs : RegisterFile) : Sequencer :=
  regs.history.foldr (fun write s => s.react write) s

/-! ## Single writes -/

variable (s : Sequencer) (regs : RegisterFile)

/-- The engine reacts to a word that is written as to the access that it is. -/
lemma watch_write32 (offset : Nat) (value : UInt32) :
    s.watch (regs.write32 offset value) = (s.watch regs).react (.word offset value) := rfl

/-- The engine reacts to no byte. -/
lemma watch_write8 (offset : Nat) (value : UInt8) :
    s.watch (regs.write8 offset value) = s.watch regs := rfl

/-- A word written elsewhere does not concern the engine. -/
lemma react_word_of_ne {offset : Nat} (hs : offset ≠ Register.programStart)
    (hc : offset ≠ Register.dmaControl) (value : UInt32) : s.react (.word offset value) = s := by
  rw [react, if_neg hs, if_neg hc]

end Sequencer

namespace Engine

variable {regs : RegisterFile}

/-- Whether the engine is enabled shows in the first slot of the registers. -/
lemma running_eq (regs : RegisterFile) :
    running regs = (regs.slot 0 &&& DmaControl.programEnable != 0) := rfl

/-- A write to another slot leaves the engine as it is. -/
lemma running_setSlot_ne {i : Nat} (hi : i ≠ 0) (value : UInt32) :
    running (regs.setSlot i value) = running regs := by
  rw [running_eq, running_eq, RegisterFile.slot_setSlot_ne regs value hi]

/-- A word written elsewhere does not switch the engine. -/
lemma running_write32_ne {offset : Nat} (h : offset / 4 ≠ 0) (value : UInt32) :
    running (regs.write32 offset value) = running regs :=
  running_setSlot_ne h _

/-- A merge into the control register switches the engine if the mask has its enable bit. -/
lemma running_merge32 {mask : UInt32} (value : UInt32)
    (hmask : DmaControl.programEnable &&& mask = DmaControl.programEnable) :
    running (RegisterAccess.merge32 regs Register.dmaControl mask value) =
      (value &&& DmaControl.programEnable != 0) := by
  rw [running, RegisterFile.read32_merge32 regs _ _ (by decide) (by decide), merge_and_eq hmask]

/-- Starting the engine writes bytes of the decoder, which scale to the geometry, and then three
words. The interrupts of the capture path are wanted from then on. -/
lemma start_eq_ok {engine engine' : Engine} {regs' : RegisterFile} {address : UInt32}
    {geometry : Geometry} {norm : Norm}
    (h : engine.start regs address geometry norm = .ok (engine', regs')) :
    ∃ scaling : Scaling,
      Scaling.compute norm geometry.width geometry.height geometry.field = .ok scaling ∧
      engine'.mask = engine.mask ||| Status.video ∧
      regs' = RegisterAccess.set32
        (RegisterAccess.merge32 ((scaling.program regs).write32 Register.programStart address)
          Register.dmaControl DmaControl.capture (geometry.format.color ||| DmaControl.enables))
        Register.interruptMask (engine.mask ||| Status.video) := by
  simp only [start, Decoder.setScale, bind_eq_ok, pure_eq_ok, Prod.mk.injEq] at h
  obtain ⟨_, ⟨scaling, hscaling, rfl⟩, rfl, rfl⟩ := h
  exact ⟨scaling, hscaling, rfl, rfl⟩

/-- The enables are among what starting the engine writes. -/
lemma enables_and_programEnable (color : UInt32) :
    ((color ||| DmaControl.enables) &&& DmaControl.programEnable != 0) = true := by
  rw [show DmaControl.enables = DmaControl.queueEnable ||| DmaControl.programEnable by decide,
    ← UInt32.or_assoc, or_and_self]
  decide

/-- **An engine that has been started is enabled.** -/
theorem running_start {engine engine' : Engine} {regs' : RegisterFile} {address : UInt32}
    {geometry : Geometry} {norm : Norm}
    (h : engine.start regs address geometry norm = .ok (engine', regs')) :
    running regs' = true := by
  obtain ⟨scaling, -, -, rfl⟩ := start_eq_ok h
  refine (running_write32_ne (by decide) _).trans ?_
  rw [running_merge32 _ (by decide), enables_and_programEnable]

/-- **An engine that has been stopped is disabled.** -/
theorem running_stop (engine : Engine) (regs : RegisterFile) :
    running (engine.stop regs).2 = false := by
  refine (running_write32_ne (by decide) _).trans ?_
  refine (running_write32_ne (by decide) _).trans ?_
  exact running_merge32 0 (by decide)

end Engine

namespace Sequencer

/-! ## What the driver does to the engine -/

variable {s : Sequencer} {regs : RegisterFile}

/-- Bytes written do not concern the engine. -/
lemma watch_foldl_write8 (writes : List (Nat × UInt8)) (regs : RegisterFile) :
    s.watch (writes.foldl (fun regs (offset, value) => regs.write8 offset value) regs) =
      s.watch regs := by
  induction writes generalizing regs with
  | nil => rfl
  | cons write writes ih => exact (ih _).trans (s.watch_write8 regs write.1 write.2)

/-- The interrupt registers do not concern the engine. -/
lemma watch_write32_of_ne {offset : Nat} (hs : offset ≠ Register.programStart)
    (hc : offset ≠ Register.dmaControl) (value : UInt32) :
    s.watch (regs.write32 offset value) = s.watch regs := by
  rw [watch_write32, react_word_of_ne _ hs hc]

/-- A merge into the control register switches the engine if the mask has its enable bit. -/
lemma watch_merge32 {mask : UInt32} (value : UInt32)
    (hmask : DmaControl.programEnable &&& mask = DmaControl.programEnable) :
    s.watch (RegisterAccess.merge32 regs Register.dmaControl mask value) =
      (s.watch regs).switch (value &&& DmaControl.programEnable != 0) := by
  refine (watch_write32 s regs _ _).trans ?_
  rw [react, if_neg (by decide), if_pos rfl, merge_and_eq hmask]

/-- **Starting the engine sends it to the program started**, with nothing run yet. -/
theorem watch_start {engine engine' : Engine} {regs' : RegisterFile} {address : UInt32}
    {geometry : Geometry} {norm : Norm} (hidle : (s.watch regs).enabled = false)
    (h : engine.start regs address geometry norm = .ok (engine', regs')) :
    s.watch regs' = { enabled := true, start := address, position := address, ran := [] } ∧
      Engine.running regs' = true := by
  refine ⟨?_, Engine.running_start h⟩
  obtain ⟨scaling, -, -, rfl⟩ := Engine.start_eq_ok h
  have hwatch : s.watch (scaling.program regs) = s.watch regs :=
    watch_foldl_write8 scaling.registers regs
  have haddress : s.watch ((scaling.program regs).write32 Register.programStart address) =
      { s.watch regs with start := address } := by
    rw [watch_write32, hwatch, react, if_pos rfl]
  refine (watch_write32_of_ne (by decide) (by decide) _).trans ?_
  rw [watch_merge32 _ (by decide), Engine.enables_and_programEnable, haddress, switch]
  simp [hidle]

/-- **Stopping the engine leaves it where it is.** -/
theorem watch_stop (s : Sequencer) (regs : RegisterFile) (engine : Engine) :
    s.watch (engine.stop regs).2 = { s.watch regs with enabled := false } ∧
      Engine.running (engine.stop regs).2 = false := by
  refine ⟨?_, Engine.running_stop engine regs⟩
  refine (watch_write32_of_ne (by decide) (by decide) _).trans ?_
  refine (watch_write32_of_ne (by decide) (by decide) _).trans ?_
  exact watch_merge32 0 (by decide)

/-- Masking the interrupts does not concern the engine. -/
lemma watch_maskAll (s : Sequencer) (regs : RegisterFile) (engine : Engine) :
    s.watch (engine.maskAll regs).2 = s.watch regs ∧
      Engine.running (engine.maskAll regs).2 = Engine.running regs :=
  ⟨watch_write32_of_ne (by decide) (by decide) 0, Engine.running_write32_ne (by decide) 0⟩

end Sequencer

end VideoCapture
