import VideoCapture.Proofs.Engine.Picture
import VideoCapture.Proofs.Engine.Silence

/-!
# Chips that are powered on and off

Bringing a chip up begins with a reset, which gives the registers their power-on values whatever
they held before: the engine is disabled, no interrupt is latched or passed on, and the decoder has
the values that it works with. What is chosen then, the norm, the picture controls and the
connector, goes to the registers of the picture and leaves all others as the reset has left them.

Shutting a chip down takes the enables of the engine back and masks every interrupt, and leaves
everything else as it is.

## Main definitions

* `VideoCapture.RegisterFile.SameElsewhere` — registers that hold the same but for the picture.
* `VideoCapture.RegisterFile.PoweredOn` — registers that have their power-on values.
* `VideoCapture.Decoder.quieten` — how a reset begins.
* `VideoCapture.RegisterFile.Down` — nothing is transferred, and no interrupt is passed on.
* `VideoCapture.RegisterFile.ShutDown` — what shutting a chip down does to its registers.

## Main results

* `VideoCapture.Decoder.poweredOn_reset` — a reset gives registers their power-on values.
* `VideoCapture.Chip.poweredOn_bringUp` — they have them after a chip has been brought up.
* `VideoCapture.Decoder.shutDown_shutdown` — what shutting a chip down does.
-/

set_option autoImplicit false

namespace VideoCapture

/-! ## Registers outside of the picture -/

namespace RegisterFile

/-- Registers of which those that do not hold what a chip is set to hold the same. -/
structure SameElsewhere (regs regs' : RegisterFile) : Prop where
  /-- The slots that are none of the picture's are the same. -/
  slot : ∀ i, (∀ offset ∈ Decoder.pictureOffsets, offset / 4 ≠ i) → regs'.slot i = regs.slot i
  /-- What is held up stays so. -/
  stuck : regs'.stuck = regs.stuck

variable {regs regs₁ regs' : RegisterFile} {offset : Nat}

/-- Registers are the same as themselves. -/
lemma SameElsewhere.refl (regs : RegisterFile) : regs.SameElsewhere regs :=
  ⟨fun _ _ => rfl, rfl⟩

/-- What one step leaves and the next one leaves both leave. -/
lemma SameElsewhere.trans (h : regs.SameElsewhere regs₁) (h' : regs₁.SameElsewhere regs') :
    regs.SameElsewhere regs' :=
  ⟨fun i hi => (h'.slot i hi).trans (h.slot i hi), h'.stuck.trans h.stuck⟩

/-- A byte of the picture that is written concerns no other register. -/
lemma sameElsewhere_write8 (regs : RegisterFile) (value : UInt8)
    (h : offset ∈ Decoder.pictureOffsets) : regs.SameElsewhere (regs.write8 offset value) :=
  ⟨fun _ hi => slot_write8_ne regs value (hi offset h), rfl⟩

/-- A word elsewhere is read as before. -/
lemma SameElsewhere.read32 (h : regs.SameElsewhere regs')
    (hoffset : ∀ other ∈ Decoder.pictureOffsets, other / 4 ≠ offset / 4) :
    regs'.read32 offset = regs.read32 offset := by
  rw [RegisterFile.read32, h.slot _ hoffset, h.stuck]
  rfl

/-- So is a byte. -/
lemma SameElsewhere.read8 (h : regs.SameElsewhere regs')
    (hoffset : ∀ other ∈ Decoder.pictureOffsets, other / 4 ≠ offset / 4) :
    regs'.read8 offset = regs.read8 offset :=
  read8_congr (h.slot _ hoffset)

/-- In particular the registers that switch the engine and its interrupts are. -/
lemma SameElsewhere.sameControl (h : regs.SameElsewhere regs') : regs.SameControl regs' :=
  ⟨h.read32 (by decide), h.read32 (by decide)⟩

end RegisterFile

/-! ## What is chosen -/

namespace Chip

open RegisterFile (SameElsewhere)

variable {regs : RegisterFile}

/-- A merge into a byte of the picture concerns no other register. -/
lemma sameElsewhere_merge8 {offset : Nat} (mask value : UInt8)
    (h : offset ∈ Decoder.pictureOffsets) :
    regs.SameElsewhere (RegisterAccess.merge8 regs offset mask value) :=
  regs.sameElsewhere_write8 _ h

/-- Selecting a standard concerns the picture only. -/
lemma sameElsewhere_decoderSetNorm (norm : Norm) :
    regs.SameElsewhere (Decoder.setNorm regs norm) :=
  (sameElsewhere_merge8 _ _ (by decide)).trans (sameElsewhere_merge8 _ _ (by decide))

/-- So does routing an input. -/
lemma sameElsewhere_decoderSelectInput {regs' : RegisterFile} {input : Nat}
    (h : Decoder.selectInput regs input = .ok regs') : regs.SameElsewhere regs' := by
  unfold Decoder.selectInput at h
  split at h
  · obtain rfl := Except.ok.inj h
    exact sameElsewhere_merge8 _ _ (by decide)
  · cases h

/-- So do the picture controls. -/
lemma sameElsewhere_setControl (chip : Chip) (regs : RegisterFile) (id : ControlId) (value : Int) :
    regs.SameElsewhere (chip.setControl regs id value).2.2 := by
  have hwrite : ∀ value : Int, regs.SameElsewhere (id.write regs chip.norm value) := by
    intro value
    cases id with
    | brightness | contrast | hue => exact regs.sameElsewhere_write8 _ (by decide)
    | saturation =>
      exact (regs.sameElsewhere_write8 _ (by decide)).trans
        (RegisterFile.sameElsewhere_write8 _ _ (by decide))
    | chromaGain | colorKiller => exact sameElsewhere_merge8 _ _ (by decide)
  unfold setControl ControlId.set
  by_cases hinactive : id.inactive chip.norm ∧ id.bring value ≠ 0
  · simp only [if_pos hinactive]
    exact .refl regs
  · simp only [if_neg hinactive]
    exact hwrite _

/-- So does switching the norm. -/
lemma sameElsewhere_setNorm (chip : Chip) (regs : RegisterFile) (standards : UInt64) :
    regs.SameElsewhere (chip.setNorm regs standards).2.2 := by
  unfold setNorm
  split
  · exact .refl regs
  · next norm _ =>
    have hsaturated := (sameElsewhere_decoderSetNorm norm).trans
      (sameElsewhere_setControl { chip with norm } (Decoder.setNorm regs norm) .saturation
        (chip.controls .saturation))
    dsimp only
    split
    · exact hsaturated.trans (sameElsewhere_setControl _ _ .chromaGain 0)
    · exact hsaturated

/-- So does selecting a connector. -/
lemma sameElsewhere_selectInput (chip : Chip) (regs : RegisterFile) (index : Nat) :
    regs.SameElsewhere (chip.selectInput regs index).2.2 := by
  unfold selectInput
  split
  · exact .refl regs
  · split
    · exact .refl regs
    · next hselect => exact sameElsewhere_decoderSelectInput hselect

/-- So does giving a control its default. -/
lemma sameElsewhere_initControl (chip : Chip) (regs : RegisterFile) (id : ControlId) :
    regs.SameElsewhere (initControl chip regs id).2 := by
  have hset := sameElsewhere_setControl chip regs id id.control.default
  unfold initControl
  split <;> next heq => rwa [heq] at hset

/-- So does giving controls their defaults.

**Proof sketch.** Induction on the controls. -/
lemma sameElsewhere_initControls (ids : List ControlId) (state : Chip × RegisterFile) :
    state.2.SameElsewhere
      (ids.foldl (fun (chip, regs) id => initControl chip regs id) state).2 := by
  induction ids generalizing state with
  | nil => exact .refl _
  | cons id ids ih => exact (sameElsewhere_initControl state.1 state.2 id).trans (ih _)

/-- So does routing the first input. -/
lemma sameElsewhere_initInput (chip : Chip) (regs : RegisterFile) :
    regs.SameElsewhere (chip.initInput regs) := by
  unfold initInput
  split
  · exact .refl regs
  · next connector _ _ =>
    cases hselect : Decoder.selectInput regs connector.mux with
    | error error => exact .refl regs
    | ok regs' => exact sameElsewhere_decoderSelectInput hselect

end Chip

/-! ## Power-on -/

/-- Registers that have their power-on values, in all that is not chosen for a chip. -/
structure RegisterFile.PoweredOn (regs : RegisterFile) : Prop where
  /-- The engine is disabled, with the bits of its control register that belong to nobody else. -/
  dmaControl : regs.read32 Register.dmaControl = 0x2000
  /-- No interrupt is passed on. -/
  interruptMask : regs.read32 Register.interruptMask = 0
  /-- None is latched, but for what is held up. -/
  interruptStatus : regs.read32 Register.interruptStatus = regs.stuck
  /-- The engine of the blanking interval is set up. -/
  blankingControl : regs.read32 Register.blankingControl = 0x03
  /-- No test is on. -/
  test : regs.read32 Register.test = 0
  /-- The decoder has the values that it is given. -/
  decoder : ∀ write ∈ Decoder.powerOn, write.1 ∉ Decoder.pictureOffsets →
    regs.read8 write.1 = write.2

namespace RegisterFile

variable {regs regs' : RegisterFile}

/-- What is chosen for a chip leaves the power-on values. -/
lemma PoweredOn.congr (hp : regs.PoweredOn) (h : regs.SameElsewhere regs') : regs'.PoweredOn where
  dmaControl := (h.read32 (by decide)).trans hp.dmaControl
  interruptMask := (h.read32 (by decide)).trans hp.interruptMask
  interruptStatus := (h.read32 (by decide)).trans (hp.interruptStatus.trans h.stuck.symm)
  blankingControl := (h.read32 (by decide)).trans hp.blankingControl
  test := (h.read32 (by decide)).trans hp.test
  decoder write hwrite hchosen := by
    have hapart : ∀ write ∈ Decoder.powerOn, write.1 ∉ Decoder.pictureOffsets →
        ∀ other ∈ Decoder.pictureOffsets, other / 4 ≠ write.1 / 4 := by decide
    exact (h.read8 (hapart write hwrite hchosen)).trans (hp.decoder write hwrite hchosen)

/-- With the power-on values the engine is disabled. -/
lemma PoweredOn.running (hp : regs.PoweredOn) : Engine.running regs = false := by
  rw [Engine.running, hp.dmaControl]
  decide

/-- Bytes that are written leave what is held up. -/
lemma stuck_foldl_write8 (writes : List (Nat × UInt8)) (regs : RegisterFile) :
    (writes.foldl (fun regs (offset, value) => regs.write8 offset value) regs).stuck =
      regs.stuck := by
  induction writes generalizing regs with
  | nil => rfl
  | cons write writes ih => exact ih _

end RegisterFile

namespace Decoder

/-- Registers at the beginning of a reset: the chip has been shut down, and what was latched has
been acknowledged. -/
def quieten (regs : RegisterFile) : RegisterFile :=
  (shutdown regs).write32 Register.interruptStatus 0xffffffff

/-- No interrupt is passed on from then. -/
lemma interruptMask_quieten (regs : RegisterFile) :
    (quieten regs).read32 Register.interruptMask = 0 :=
  (RegisterFile.read32_write32_ne _ (by decide)).trans
    (RegisterFile.read32_write32 _ _ (by decide) (by decide))

/-- None is latched, but for what is held up. -/
lemma interruptStatus_quieten (regs : RegisterFile) :
    (quieten regs).read32 Register.interruptStatus = (quieten regs).stuck := by
  have hnone : ~~~(0xffffffff : UInt32) = 0 := by decide
  refine ((shutdown regs).read32_write32_interruptStatus 0xffffffff).trans ?_
  rw [hnone, UInt32.and_zero, UInt32.zero_or]
  rfl

/-- The rest of a reset writes the bytes of the decoder, which leave the words that hold none of
them, and then three words. -/
lemma exists_reset (regs : RegisterFile) :
    ∃ decoded : RegisterFile,
      (∀ offset, (∀ write ∈ powerOn, write.1 / 4 ≠ offset / 4) →
        Register.analogControl / 4 ≠ offset / 4 →
        decoded.read32 offset = (quieten regs).read32 offset) ∧
      decoded.stuck = (quieten regs).stuck ∧
      reset regs = ((decoded.write32 Register.blankingControl 0x03).write32
        Register.dmaControl 0x2000).write32 Register.test 0 := by
  have hstuck : (powerOn.foldl (fun regs (offset, value) => regs.write8 offset value)
      ((quieten regs).write8 Register.analogControl 0x80)).stuck = (quieten regs).stuck :=
    RegisterFile.stuck_foldl_write8 _ _
  refine ⟨_, fun offset hwrites hanalog => ?_, hstuck, rfl⟩
  have hslot := (RegisterFile.slot_foldl_write8 _ hwrites).trans
    (RegisterFile.slot_write8_ne (quieten regs) 0x80 hanalog)
  rw [RegisterFile.read32, hslot, hstuck]
  rfl

/-- **A reset gives registers their power-on values**, whatever they held before.

**Proof sketch.** The chip is shut down, and what is latched is acknowledged. Each of the words that
are written last goes to a register of its own (`exists_reset`), and the bytes of the decoder go to
registers of theirs. -/
theorem poweredOn_reset (regs : RegisterFile) : (reset regs).PoweredOn := by
  have hbytes := read8_reset regs
  -- the bytes of the decoder are opaque from here on, since nothing depends on what they are
  obtain ⟨decoded, hread, hstuck, hreset⟩ := exists_reset regs
  rw [hreset] at hbytes ⊢
  have helsewhere : ∀ {offset other : Nat} (regs : RegisterFile) (value : UInt32),
      other / 4 ≠ offset / 4 → (regs.write32 other value).read32 offset = regs.read32 offset :=
    fun _ _ hoffset => RegisterFile.read32_write32_ne _ hoffset
  constructor
  case dmaControl =>
    rw [helsewhere _ _ (by decide)]
    exact RegisterFile.read32_write32 _ _ (by decide) (by decide)
  case interruptMask =>
    rw [helsewhere _ _ (by decide), helsewhere _ _ (by decide), helsewhere _ _ (by decide),
      hread _ (by decide) (by decide), interruptMask_quieten]
  case interruptStatus =>
    rw [helsewhere _ _ (by decide), helsewhere _ _ (by decide), helsewhere _ _ (by decide),
      hread _ (by decide) (by decide), interruptStatus_quieten]
    exact hstuck.symm
  case blankingControl =>
    rw [helsewhere _ _ (by decide), helsewhere _ _ (by decide)]
    exact RegisterFile.read32_write32 _ _ (by decide) (by decide)
  case test => exact RegisterFile.read32_write32 _ _ (by decide) (by decide)
  case decoder => exact fun write hwrite _ => hbytes write hwrite

end Decoder

/-- **A chip that has been brought up has its power-on values.** -/
theorem Chip.poweredOn_bringUp (number : Nat) (location : Location) (file : Nat)
    (regs : RegisterFile) (config : Config) :
    (bringUp number location file regs config).2.PoweredOn := by
  have hchosen : ∀ chip : Chip, (Decoder.reset regs).SameElsewhere
      (ControlId.all.foldl (fun (chip, regs) id => initControl chip regs id)
        (chip, Decoder.setNorm (Decoder.reset regs) config.norm)).2 := fun chip =>
    (sameElsewhere_decoderSetNorm config.norm).trans
      (sameElsewhere_initControls ControlId.all (chip, _))
  exact (Decoder.poweredOn_reset regs).congr
    ((hchosen _).trans (sameElsewhere_initInput _ _))

/-! ## Shutting down -/

namespace RegisterFile

/-- Registers of a chip that is down: nothing is transferred, and no interrupt is passed on. -/
structure Down (regs : RegisterFile) : Prop where
  /-- Neither enable is set. -/
  disabled : regs.read32 Register.dmaControl &&& DmaControl.enables = 0
  /-- No interrupt is passed on. -/
  masked : regs.read32 Register.interruptMask = 0

/-- A chip has been shut down: the enables have been taken back, and every interrupt is masked. The
other registers, and the other bits of the control register, are as they were. -/
structure ShutDown (regs regs' : RegisterFile) : Prop where
  /-- The enables have been taken back. -/
  dmaControl : regs'.read32 Register.dmaControl =
    regs.read32 Register.dmaControl &&& ~~~DmaControl.enables
  /-- Every interrupt is masked. -/
  interruptMask : regs'.read32 Register.interruptMask = 0
  /-- What is held up stays so. -/
  stuck : regs'.stuck = regs.stuck
  /-- The other registers are as they were. -/
  others : ∀ i, Register.dmaControl / 4 ≠ i → Register.interruptMask / 4 ≠ i →
    regs'.slot i = regs.slot i

variable {regs regs' : RegisterFile}

/-- A chip that has been shut down is down. -/
lemma ShutDown.down (h : regs.ShutDown regs') : regs'.Down := by
  refine ⟨?_, h.interruptMask⟩
  have hbits : ~~~DmaControl.enables &&& DmaControl.enables = 0 := by decide
  rw [h.dmaControl, UInt32.and_assoc, hbits, UInt32.and_zero]

/-- A chip that is down stays so when an engine is stopped. -/
lemma Down.silenced (hdown : regs.Down) (h : regs.Silenced regs') : regs'.Down := by
  refine ⟨?_, ?_⟩
  · have hbits : ~~~DmaControl.enables &&& DmaControl.enables = 0 := by decide
    rw [h.dmaControl, UInt32.and_assoc, hbits, UInt32.and_zero]
  · rw [h.interruptMask, hdown.masked, UInt32.zero_and]

end RegisterFile

/-- **Shutting a chip down does this to its registers.** -/
theorem Decoder.shutDown_shutdown (regs : RegisterFile) : regs.ShutDown (shutdown regs) := by
  let disabled := RegisterAccess.clear32 regs Register.dmaControl DmaControl.enables
  have hcontrol : disabled.read32 Register.dmaControl =
      (regs.read32 Register.dmaControl &&& ~~~DmaControl.enables) ||| (0 &&& DmaControl.enables) :=
    regs.read32_merge32 _ _ (by decide) (by decide)
  rw [UInt32.zero_and, UInt32.or_zero] at hcontrol
  constructor
  case dmaControl => exact (RegisterFile.read32_write32_ne _ (by decide)).trans hcontrol
  case interruptMask => exact disabled.read32_write32 _ (by decide) (by decide)
  case stuck => rfl
  case others =>
    intro i hi hmask
    exact (RegisterFile.slot_setSlot_ne disabled _ hmask).trans
      (RegisterFile.slot_setSlot_ne regs _ hi)

end VideoCapture
