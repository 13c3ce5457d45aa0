import VideoCapture.Proofs.Engine.Tuning

/-!
# The registers of the picture

What a chip is set to is in the registers of its decoder: the code of the norm in two of them, the
connector in two bits of a third, and each picture control in an encoding of its own. Integers have
bytes, and a switch has bits of a byte that holds other things as well.

Every setting has registers, or bits of them, to itself. That keeps the settings apart, and starting
and stopping the engine concerns none of them.

## Main definitions

* `VideoCapture.ControlId.Shows` — registers hold the encoding of a control's value.
* `VideoCapture.ControlId.InForce` — they do, and the value is one that the control can have.
* `VideoCapture.RegisterFile.SamePicture` — registers that hold the same in this respect.

## Main results

* `VideoCapture.ControlId.inForce_of_set` — a control that is set is in force.
* `VideoCapture.ControlId.InForce.set` — the other controls stay in force.
* `VideoCapture.Decoder.read8_reset` — what a reset leaves in the registers of the decoder.
* `VideoCapture.Decoder.code_setNorm`, `VideoCapture.Decoder.selectInput_eq_ok` — the norm and the
  connector are in their registers once they are chosen.
* `VideoCapture.Engine.samePicture_start`, `VideoCapture.Engine.samePicture_stop` — the engine does
  not concern the picture.
-/

set_option autoImplicit false

namespace VideoCapture

/-! ## Bits of a byte -/

/-- A merge takes the bits of its mask from the value merged in. -/
lemma merge8_and (old mask value : UInt8) :
    ((old &&& ~~~mask) ||| (value &&& mask)) &&& mask = value &&& mask := by
  rw [← UInt8.toBitVec_inj]
  ext i hi
  simp
  grind

/-! ## Registers of the picture -/

/-- The registers that hold a control. -/
def ControlId.offsets : ControlId → List Nat
  | brightness => [Register.brightness]
  | contrast => [Register.contrast]
  | hue => [Register.hue]
  | saturation => [Register.saturationV, Register.saturationU]
  | chromaGain => [Register.analogControl]
  | colorKiller => [Register.colorKiller]

/-- The registers that hold the norm and the connector. -/
def Decoder.choiceOffsets : List Nat :=
  [Register.standard, Register.standardCopy, Register.inputForm]

/-- The registers that hold what a chip is set to: the norm, the connector and the controls. -/
def Decoder.pictureOffsets : List Nat :=
  choiceOffsets ++ ControlId.all.flatMap ControlId.offsets

namespace RegisterFile

/-- Registers of which those that hold what a chip is set to hold the same. -/
def SamePicture (regs regs' : RegisterFile) : Prop :=
  ∀ offset ∈ Decoder.pictureOffsets, regs'.read8 offset = regs.read8 offset

variable {regs regs₁ regs' : RegisterFile}

/-- What is not written stays the same. -/
lemma SamePicture.refl (regs : RegisterFile) : regs.SamePicture regs :=
  fun _ _ => rfl

/-- The settings stay the same over one write after the other. -/
lemma SamePicture.trans (h : regs.SamePicture regs₁) (h' : regs₁.SamePicture regs') :
    regs.SamePicture regs' :=
  fun offset hoffset => (h' offset hoffset).trans (h offset hoffset)

/-- A byte is read as before if another one is written. -/
lemma read8_write8_ne (regs : RegisterFile) {offset other : Nat} (value : UInt8)
    (h : offset / 4 ≠ other / 4) : (regs.write8 offset value).read8 other = regs.read8 other :=
  read8_congr (slot_write8_ne regs value h)

/-- A word written elsewhere does not change the picture. -/
lemma samePicture_write32 (regs : RegisterFile) {offset : Nat} (value : UInt32)
    (h : ∀ other ∈ Decoder.pictureOffsets, offset / 4 ≠ other / 4) :
    regs.SamePicture (regs.write32 offset value) :=
  fun other hother => read8_congr (slot_setSlot_ne regs _ (h other hother))

/-- Programming the scaler does not change the picture. -/
lemma samePicture_program (s : Scaling) (regs : RegisterFile) :
    regs.SamePicture (s.program regs) := by
  have hapart : ∀ other ∈ Decoder.pictureOffsets, ∀ offset ∈ Scaling.offsets,
      offset / 4 ≠ other / 4 := by decide
  intro other hother
  refine read8_congr (slot_foldl_write8 regs fun write hwrite => ?_)
  exact hapart other hother write.1 (List.mem_map_of_mem (f := Prod.fst) hwrite)

/-- A byte that is merged into has the bits of the mask from the value. -/
lemma read8_merge8 (regs : RegisterFile) {offset : Nat} (mask value : UInt8)
    (h : offset < Register.space) :
    RegisterFile.read8 (RegisterAccess.merge8 regs offset mask value) offset &&& mask =
      value &&& mask := by
  have hread : RegisterFile.read8 (RegisterAccess.merge8 regs offset mask value) offset =
      (regs.read8 offset &&& ~~~mask) ||| (value &&& mask) := regs.read8_write8 _ h
  rw [hread, merge8_and]

end RegisterFile

namespace Engine

open RegisterFile (SamePicture)

/-- Starting the engine does not change the picture. -/
lemma samePicture_start {engine engine' : Engine} {regs regs' : RegisterFile} {address : UInt32}
    {g : Geometry} {n : Norm} (h : engine.start regs address g n = .ok (engine', regs')) :
    regs.SamePicture regs' := by
  obtain ⟨scaling, -, -, rfl⟩ := start_eq_ok h
  refine (RegisterFile.samePicture_program scaling regs).trans <|
    (RegisterFile.samePicture_write32 _ address ?_).trans <|
    (RegisterFile.samePicture_write32 _ _ ?_).trans <|
    RegisterFile.samePicture_write32 _ _ ?_
  all_goals decide

/-- Neither does stopping it. -/
lemma samePicture_stop (engine : Engine) (regs : RegisterFile) :
    regs.SamePicture (engine.stop regs).2 := by
  refine (RegisterFile.samePicture_write32 _ _ ?_).trans <|
    (RegisterFile.samePicture_write32 _ _ ?_).trans <| RegisterFile.samePicture_write32 _ _ ?_
  all_goals decide

end Engine

/-! ## Controls -/

namespace ControlId

/-- Registers hold the encoding of a control's value under a norm: integers in a byte, hue with its
zero in the middle, the saturation once for each component, and switches as bits. -/
def Shows (regs : RegisterFile) (norm : Norm) (value : Int) : ControlId → Prop
  | brightness => regs.read8 Register.brightness = lowByte value
  | contrast => regs.read8 Register.contrast = lowByte value
  | hue => regs.read8 Register.hue = lowByte (value - 128)
  | saturation => regs.read8 Register.saturationU = lowByte value ∧
      regs.read8 Register.saturationV = saturationV norm (lowByte value)
  | chromaGain => regs.read8 Register.analogControl &&& 0x10 = if value = 0 then 0 else 0x10
  | colorKiller => regs.read8 Register.colorKiller &&& 0xe0 = if value = 0 then 0 else 0xe0

/-- A value of a control is in force: registers hold its encoding, it is in the range of the
control, and it is zero if the control has no effect under the norm. -/
structure InForce (id : ControlId) (regs : RegisterFile) (norm : Norm) (value : Int) : Prop where
  /-- Registers hold its encoding. -/
  shows : id.Shows regs norm value
  /-- It is in the range of the control. -/
  range : id.control.minimum ≤ value ∧ value ≤ id.control.maximum
  /-- It is zero if the control has no effect. -/
  inactive : id.inactive norm = true → value = 0

variable {id other : ControlId} {regs regs' : RegisterFile} {norm norm' : Norm} {value : Int}

/-- What registers show of a control depends on its own registers. -/
lemma Shows.congr (hs : id.Shows regs norm value)
    (h : ∀ offset ∈ id.offsets, regs'.read8 offset = regs.read8 offset) :
    id.Shows regs' norm value := by
  cases id with
  | saturation =>
    exact ⟨(h _ (by decide)).trans hs.1, (h _ (by decide)).trans hs.2⟩
  | brightness | contrast | hue => exact (h _ (by decide)).trans hs
  | chromaGain | colorKiller => exact (congrArg (· &&& _) (h _ (by decide))).trans hs

/-- Only the saturation is encoded by the norm. -/
lemma Shows.of_norm (hs : id.Shows regs norm value) (hid : id ≠ saturation) (norm' : Norm) :
    id.Shows regs norm' value := by
  cases id with
  | saturation => exact absurd rfl hid
  | brightness | contrast | hue | chromaGain | colorKiller => exact hs

/-- Whether a value is in force depends on the registers of its control alone. -/
lemma InForce.congr (hf : id.InForce regs norm value)
    (h : ∀ offset ∈ id.offsets, regs'.read8 offset = regs.read8 offset) :
    id.InForce regs' norm value :=
  ⟨hf.shows.congr h, hf.range, hf.inactive⟩

/-- The registers of the controls are among those of the picture. -/
lemma offsets_subset (id : ControlId) : ∀ offset ∈ id.offsets, offset ∈ Decoder.pictureOffsets := by
  cases id <;> decide

/-- No two controls share a register. -/
lemma offsets_apart (h : other ≠ id) :
    ∀ offset ∈ id.offsets, ∀ second ∈ other.offsets, offset / 4 ≠ second / 4 := by
  cases id <;> cases other <;> first | exact absurd rfl h | decide

/-- Controls do not share a register with the norm or the connector either. -/
lemma offsets_apart_choice (id : ControlId) :
    ∀ offset ∈ id.offsets, ∀ choice ∈ Decoder.choiceOffsets, offset / 4 ≠ choice / 4 := by
  cases id <;> decide

/-- **What is written for a control goes to its registers.** -/
lemma read8_write (regs : RegisterFile) (norm : Norm) (id : ControlId) (value : Int) {offset : Nat}
    (h : ∀ own ∈ id.offsets, own / 4 ≠ offset / 4) :
    (id.write regs norm value).read8 offset = regs.read8 offset := by
  cases id with
  | saturation =>
    refine (RegisterFile.read8_write8_ne _ _ (h _ (by decide))).trans ?_
    exact RegisterFile.read8_write8_ne _ _ (h _ (by decide))
  | brightness | contrast | hue | chromaGain | colorKiller =>
    exact RegisterFile.read8_write8_ne _ _ (h _ (by decide))

/-- **A value that is written is shown.** -/
lemma shows_write (regs : RegisterFile) (norm : Norm) (id : ControlId) (value : Int) :
    id.Shows (id.write regs norm value) norm value := by
  cases id with
  | brightness | contrast | hue => exact regs.read8_write8 _ (by decide)
  | saturation =>
    refine ⟨RegisterFile.read8_write8 _ _ (by decide), ?_⟩
    refine (RegisterFile.read8_write8_ne _ _ (by decide)).trans ?_
    exact regs.read8_write8 _ (by decide)
  | chromaGain | colorKiller =>
    refine (regs.read8_merge8 _ _ (by decide)).trans ?_
    split <;> decide

/-- A control is set to the value brought to its range, unless that has no effect. -/
lemma set_eq_ok {applied : Int} (h : id.set regs norm value = .ok (applied, regs')) :
    applied = id.bring value ∧ (id.inactive norm = true → applied = 0) ∧
      regs' = id.write regs norm applied := by
  unfold set at h
  dsimp only at h
  split at h
  · cases h
  · next hactive =>
    obtain ⟨rfl, rfl⟩ := Prod.mk.inj (Except.ok.inj h)
    exact ⟨rfl, fun hinactive => by simpa [hinactive] using hactive, rfl⟩

/-- **A control that is set is in force**, and nothing but its registers has changed. -/
theorem inForce_of_set {applied : Int} (h : id.set regs norm value = .ok (applied, regs')) :
    id.InForce regs' norm applied ∧ ∀ offset, (∀ own ∈ id.offsets, own / 4 ≠ offset / 4) →
      regs'.read8 offset = regs.read8 offset := by
  obtain ⟨rfl, hinactive, rfl⟩ := set_eq_ok h
  exact ⟨⟨shows_write regs norm id _, id.bring_bounds value, hinactive⟩,
    fun _ => read8_write regs norm id _⟩

/-- Other controls stay in force. -/
lemma InForce.set {applied kept : Int} (hf : other.InForce regs norm kept) (hother : other ≠ id)
    (h : id.set regs norm value = .ok (applied, regs')) : other.InForce regs' norm kept :=
  hf.congr fun offset hoffset => (inForce_of_set h).2 offset fun own hown =>
    offsets_apart hother own hown offset hoffset

/-- A control that has an effect can be set. -/
lemma exists_set (regs : RegisterFile) (norm : Norm) (id : ControlId) (value : Int)
    (h : id.inactive norm = true → id.bring value = 0) :
    ∃ regs', id.set regs norm value = .ok (id.bring value, regs') :=
  ⟨id.write regs norm (id.bring value), if_neg fun hrefused => hrefused.2 (h hrefused.1)⟩

/-- A control that is refused has no effect under the norm, and the gain is the only one of them. -/
lemma set_eq_error {error : Error} (h : id.set regs norm value = .error error) :
    id = chromaGain ∧ norm.isSecam = true := by
  unfold set at h
  dsimp only at h
  split at h
  · next hrefused => simpa [inactive] using hrefused.1
  · cases h

end ControlId

/-! ## The norm and the connector -/

namespace Decoder

variable {regs regs' : RegisterFile} {offset input : Nat}

/-- Selecting a standard writes two registers. -/
lemma read8_setNorm (regs : RegisterFile) (norm : Norm)
    (hstandard : Register.standard / 4 ≠ offset / 4)
    (hcopy : Register.standardCopy / 4 ≠ offset / 4) :
    (setNorm regs norm).read8 offset = regs.read8 offset :=
  (RegisterFile.read8_write8_ne _ _ hcopy).trans (RegisterFile.read8_write8_ne _ _ hstandard)

/-- Both have the code of the norm then. -/
lemma code_setNorm (regs : RegisterFile) {norm : Norm} (hnorm : norm ∈ Norm.all) :
    (setNorm regs norm).read8 Register.standard &&& 0x07 = norm.code ∧
      (setNorm regs norm).read8 Register.standardCopy &&& 0x07 = norm.code := by
  have hcode : norm.code &&& 0x07 = norm.code :=
    (show ∀ n ∈ Norm.all, n.code &&& 0x07 = n.code by decide) norm hnorm
  constructor
  · refine (congrArg (· &&& _) (RegisterFile.read8_write8_ne _ _ (by decide))).trans ?_
    exact (regs.read8_merge8 _ _ (by decide)).trans hcode
  · exact (RegisterFile.read8_merge8 _ _ _ (by decide)).trans hcode

/-- An input that can be routed is in the bits of the multiplexer then, and other registers stay. -/
lemma selectInput_eq_ok (h : selectInput regs input = .ok regs') :
    input < inputCount ∧
      regs'.read8 Register.inputForm &&& 0x0c = UInt8.ofNat (4 * input) ∧
      ∀ offset, Register.inputForm / 4 ≠ offset / 4 → regs'.read8 offset = regs.read8 offset := by
  unfold selectInput at h
  split at h
  · next hinput =>
    obtain rfl := Except.ok.inj h
    have hbits : ∀ mux < inputCount, UInt8.ofNat (4 * mux) &&& 0x0c = UInt8.ofNat (4 * mux) := by
      decide
    refine ⟨hinput, ?_, fun offset hoffset => RegisterFile.read8_write8_ne _ _ hoffset⟩
    exact (regs.read8_merge8 _ _ (by decide)).trans (hbits input hinput)
  · cases h

/-- **A reset leaves the power-on values in the registers of the decoder.** -/
theorem read8_reset (regs : RegisterFile) :
    ∀ write ∈ powerOn, (reset regs).read8 write.1 = write.2 := by
  have hapart : ∀ write ∈ powerOn, ∀ offset ∈
      [Register.blankingControl, Register.dmaControl, Register.test],
      offset / 4 ≠ write.1 / 4 := by decide
  intro write hwrite
  -- the words that are written afterwards are elsewhere
  have hafter : ∀ (regs : RegisterFile) (value : UInt32), ∀ offset ∈
      [Register.blankingControl, Register.dmaControl, Register.test],
      (regs.write32 offset value).read8 write.1 = regs.read8 write.1 :=
    fun regs value offset hoffset => RegisterFile.read8_congr
      (RegisterFile.slot_setSlot_ne regs _ (hapart write hwrite offset hoffset))
  refine (hafter _ 0 Register.test (by decide)).trans <|
    (hafter _ 0x2000 Register.dmaControl (by decide)).trans <|
    (hafter _ 0x03 Register.blankingControl (by decide)).trans ?_
  exact RegisterFile.read8_foldl_write8 _ (by decide) (by decide) write hwrite

/-- In particular the gain is off. -/
lemma gain_reset (regs : RegisterFile) :
    (reset regs).read8 Register.analogControl &&& 0x10 = 0 := by
  rw [read8_reset regs (Register.analogControl, 0x42) (by decide)]
  decide

end Decoder

end VideoCapture
