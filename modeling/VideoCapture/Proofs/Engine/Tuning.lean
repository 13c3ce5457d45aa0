import VideoCapture.Proofs.Engine.Sequencer
import Mathlib.Data.List.Nodup

/-!
# What the registers are tuned to

Starting the engine for a geometry under a norm programs the eight registers of the scaler and the
colour format. Nothing programs them again while the engine goes on from program to program, so
every frame of a run is captured as the first of it asks.

The registers keep ten bits of each crop value, twelve of each scale, and the bits of the colour
format, and nothing else matters to what they hold. Two frames that can follow each other have the
same size and the same code of their format. Among the norms of the decoder that leaves two things
to tell them apart: the timing of their norms, and whether they hold both fields, because a single
field has half of the lines and is scaled down by half as much.

## Main definitions

* `VideoCapture.RegisterFile.Tuned` — the registers hold what capturing a geometry under a norm
  takes.
* `VideoCapture.RegisterFile.SameTuning` — registers that hold the same in this respect.
* `VideoCapture.Scaling.Matches` — values that the registers of the scaler cannot tell apart.
* `VideoCapture.Geometry.TunesLike` — what two geometries under two norms take is the same.

## Main results

* `VideoCapture.Engine.tuned_of_start` — starting the engine tunes the registers.
* `VideoCapture.RegisterFile.Tuned.tuned_iff` — what else registers are tuned to.
* `VideoCapture.Geometry.tunesLike_iff` — the same, among frames that can follow each other.
-/

set_option autoImplicit false

namespace VideoCapture

/-! ## Bytes -/

namespace RegisterFile

variable (regs : RegisterFile)

/-- A byte lane begins at eight bits for each byte before it in its word. -/
lemma toNat_lane (offset : Nat) : (lane offset).toNat = 8 * (offset % 4) := by
  rw [lane, UInt32.toNat_mul, UInt32.toNat_ofNat', show (8 : UInt32).toNat = 8 from rfl]
  omega

/-- A byte that is written is read back. -/
lemma read8_write8 {offset : Nat} (value : UInt8) (h : offset < Register.space) :
    (regs.write8 offset value).read8 offset = value := by
  have hslot : (regs.write8 offset value).slot (offset / 4) =
      (regs.slot (offset / 4) &&& ~~~((0xff : UInt32) <<< lane offset)) |||
        (value.toUInt32 <<< lane offset) := by
    refine slot_setSlot regs _ ?_
    simp only [Register.space] at h ⊢
    omega
  have hlow : ∀ i < 8, (255#32).getLsbD i = true := by decide
  have hfits : offset % 4 < 4 := Nat.mod_lt offset (by decide)
  rw [read8, hslot, ← UInt8.toBitVec_inj]
  ext i hi
  simp [toNat_lane, hlow i hi]
  grind

/-- A byte shows in its slot only. -/
lemma slot_write8_ne {offset i : Nat} (value : UInt8) (h : offset / 4 ≠ i) :
    (regs.write8 offset value).slot i = regs.slot i :=
  slot_setSlot_ne regs _ h

/-- What is read depends on the slot that it is read from. -/
lemma read8_congr {regs regs' : RegisterFile} {offset : Nat}
    (h : regs'.slot (offset / 4) = regs.slot (offset / 4)) :
    regs'.read8 offset = regs.read8 offset := by
  rw [read8, h, read8]

/-- Bytes show in their slots only.

**Proof sketch.** Induction on what is written. -/
lemma slot_foldl_write8 {i : Nat} {writes : List (Nat × UInt8)}
    (h : ∀ write ∈ writes, write.1 / 4 ≠ i) :
    (writes.foldl (fun regs (offset, value) => regs.write8 offset value) regs).slot i =
      regs.slot i := by
  induction writes generalizing regs with
  | nil => rfl
  | cons write writes ih =>
    rw [List.foldl_cons, ih _ fun w hw => h w (List.mem_cons_of_mem write hw)]
    exact slot_write8_ne regs _ (h write List.mem_cons_self)

/-- Bytes that are written to different slots are read back.

**Proof sketch.** Induction on what is written: what comes later leaves the first slot alone. -/
lemma read8_foldl_write8 {writes : List (Nat × UInt8)}
    (hapart : (writes.map fun write => write.1 / 4).Nodup)
    (hspace : ∀ write ∈ writes, write.1 < Register.space) :
    ∀ write ∈ writes, (writes.foldl (fun regs (offset, value) => regs.write8 offset value)
      regs).read8 write.1 = write.2 := by
  induction writes generalizing regs with
  | nil => exact fun _ hnone => absurd hnone List.not_mem_nil
  | cons first writes ih =>
    obtain ⟨hfirst, hrest⟩ := List.nodup_cons.mp hapart
    intro write hwrite
    rw [List.foldl_cons]
    obtain rfl | hwrite := List.mem_cons.mp hwrite
    · refine (read8_congr (slot_foldl_write8 _ fun w hw heq => hfirst ?_)).trans
        (read8_write8 regs _ (hspace _ List.mem_cons_self))
      exact List.mem_map.mpr ⟨w, hw, heq⟩
    · exact ih _ hrest (fun w hw => hspace w (List.mem_cons_of_mem first hw)) write hwrite

end RegisterFile

/-! ## Tuning -/

/-- The bits of the DMA control register that belong to the colour format. -/
def DmaControl.color : UInt32 :=
  DmaControl.capture &&& ~~~DmaControl.enables

/-- The registers of the scaler. -/
def Scaling.offsets : List Nat :=
  [Register.cropHigh, Register.verticalDelay, Register.verticalActive, Register.horizontalDelay,
    Register.horizontalActive, Register.scaleHigh, Register.verticalScale, Register.horizontalScale]

namespace RegisterFile

/-- What the registers of the scaler hold. -/
def scaler (regs : RegisterFile) : List (Nat × UInt8) :=
  Scaling.offsets.map fun offset => (offset, regs.read8 offset)

/-- What the bits of the colour format are. -/
def color (regs : RegisterFile) : UInt32 :=
  regs.read32 Register.dmaControl &&& DmaControl.color

/-- The registers hold what capturing a geometry under a norm takes: the values that capture its
size, and the colour bits of its format. -/
structure Tuned (regs : RegisterFile) (g : Geometry) (n : Norm) : Prop where
  /-- The scaler has the values for the size. -/
  scaler : ∃ scaling, Scaling.compute n g.width g.height g.field = .ok scaling ∧
    regs.scaler = scaling.registers
  /-- The colour bits are those of the format. -/
  color : regs.color = g.format.color &&& DmaControl.color

instance (regs : RegisterFile) (g : Geometry) (n : Norm) : Decidable (regs.Tuned g n) :=
  match hcompute : Scaling.compute n g.width g.height g.field with
  | .ok scaling =>
    decidable_of_iff (regs.scaler = scaling.registers ∧
      regs.color = g.format.color &&& DmaControl.color)
      ⟨fun h => ⟨⟨scaling, hcompute, h.1⟩, h.2⟩, fun h => by
        obtain ⟨s, hs, hscaler⟩ := h.scaler
        obtain rfl := Except.ok.inj (hcompute.symm.trans hs)
        exact ⟨hscaler, h.color⟩⟩
  | .error _ => .isFalse fun h => by
    obtain ⟨s, hs, -⟩ := h.scaler
    cases hcompute.symm.trans hs

/-- Registers that hold the same as far as capturing frames is concerned. -/
structure SameTuning (regs regs' : RegisterFile) : Prop where
  /-- The scaler has the same values. -/
  scaler : regs'.scaler = regs.scaler
  /-- The colour bits are the same. -/
  color : regs'.color = regs.color

variable {regs regs' : RegisterFile} {g : Geometry} {n : Norm}

/-- What is not written stays the same. -/
lemma SameTuning.refl (regs : RegisterFile) : regs.SameTuning regs :=
  ⟨rfl, rfl⟩

/-- What registers are tuned to depends on what they hold in this respect. -/
lemma Tuned.congr (ht : regs.Tuned g n) (h : regs.SameTuning regs') : regs'.Tuned g n := by
  obtain ⟨scaling, hcompute, hscaler⟩ := ht.scaler
  exact ⟨⟨scaling, hcompute, h.scaler.trans hscaler⟩, h.color.trans ht.color⟩

/-- The slots of the scaler's registers show what the scaler has. -/
lemma scaler_congr (h : ∀ offset ∈ Scaling.offsets, regs'.slot (offset / 4) =
    regs.slot (offset / 4)) : regs'.scaler = regs.scaler := by
  refine List.map_congr_left fun offset hoffset => ?_
  rw [read8_congr (h offset hoffset)]

/-- A word that is written elsewhere leaves the scaler alone. -/
lemma scaler_write32 {offset : Nat} (value : UInt32)
    (h : ∀ other ∈ Scaling.offsets, offset / 4 ≠ other / 4) :
    (regs.write32 offset value).scaler = regs.scaler :=
  scaler_congr fun other hother => slot_setSlot_ne regs _ (h other hother)

/-- A word that is written elsewhere leaves the tuning alone. -/
lemma sameTuning_write32 {offset : Nat} (value : UInt32) (hcontrol : offset / 4 ≠ 0)
    (h : ∀ other ∈ Scaling.offsets, offset / 4 ≠ other / 4) :
    regs.SameTuning (regs.write32 offset value) := by
  refine ⟨scaler_write32 value h, ?_⟩
  exact congrArg (· &&& DmaControl.color) (slot_setSlot_ne regs _ hcontrol)

/-- A merge into the control register sets the colour bits if the mask has them. -/
lemma color_merge32 {mask : UInt32} (value : UInt32)
    (hmask : DmaControl.color &&& mask = DmaControl.color) :
    RegisterFile.color (RegisterAccess.merge32 regs Register.dmaControl mask value) =
      value &&& DmaControl.color := by
  rw [color, read32_merge32 regs _ _ (by decide) (by decide), merge_and_eq hmask]

end RegisterFile

namespace Scaling

/-- **Values that are written to the scaler are what it has.** -/
theorem scaler_program (s : Scaling) (regs : RegisterFile) :
    (s.program regs).scaler = s.registers := by
  have hapart : (s.registers.map fun write => write.1 / 4).Nodup := by
    show (offsets.map fun offset => offset / 4).Nodup
    decide
  have hspace : ∀ write ∈ s.registers, write.1 < Register.space := by
    have hoffsets : ∀ offset ∈ offsets, offset < Register.space := by decide
    exact fun write hwrite => hoffsets write.1 (List.mem_map_of_mem (f := Prod.fst) hwrite)
  have hback := RegisterFile.read8_foldl_write8 regs hapart hspace
  calc (s.program regs).scaler
      = s.registers.map fun write => (write.1, (s.program regs).read8 write.1) := rfl
    _ = s.registers.map id := List.map_congr_left fun write hwrite =>
        congrArg (Prod.mk write.1) (hback write hwrite)
    _ = s.registers := List.map_id _

end Scaling

namespace Engine

variable {engine engine' : Engine} {regs regs' : RegisterFile} {address : UInt32} {g : Geometry}
  {n : Norm}

/-- **Starting the engine tunes the registers.** -/
theorem tuned_of_start (h : engine.start regs address g n = .ok (engine', regs')) :
    regs'.Tuned g n := by
  obtain ⟨scaling, hcompute, -, rfl⟩ := start_eq_ok h
  refine RegisterFile.Tuned.congr ⟨⟨scaling, hcompute, ?_⟩, ?_⟩
    (RegisterFile.sameTuning_write32 _ (by decide) (by decide))
  · calc RegisterFile.scaler _
        = ((scaling.program regs).write32 Register.programStart address).scaler :=
          RegisterFile.scaler_write32 _ (by decide)
      _ = (scaling.program regs).scaler := RegisterFile.scaler_write32 _ (by decide)
      _ = scaling.registers := scaling.scaler_program regs
  · rw [RegisterFile.color_merge32 _ (by decide), or_and_of_apart (by decide)]

end Engine

/-! ## Telling tunings apart -/

namespace Scaling

/-- Values that the registers of the scaler cannot tell apart: they agree in ten bits of the crop
values and in twelve of the scales. -/
structure Matches (s t : Scaling) : Prop where
  /-- The active pixels do. -/
  horizontalActive : s.horizontalActive % 1024 = t.horizontalActive % 1024
  /-- The horizontal delays do. -/
  horizontalDelay : s.horizontalDelay % 1024 = t.horizontalDelay % 1024
  /-- The horizontal scales do. -/
  horizontalScale : s.horizontalScale % 4096 = t.horizontalScale % 4096
  /-- The active lines do. -/
  verticalActive : s.verticalActive % 1024 = t.verticalActive % 1024
  /-- The vertical delays do. -/
  verticalDelay : s.verticalDelay % 1024 = t.verticalDelay % 1024
  /-- The vertical scales do. -/
  verticalScale : s.verticalScale % 4096 = t.verticalScale % 4096

/-- A byte keeps the low eight bits of a number. -/
lemma ofNat_eq_iff {a b : Nat} : UInt8.ofNat a = UInt8.ofNat b ↔ a % 256 = b % 256 := by
  rw [← UInt8.toNat_inj, UInt8.toNat_ofNat', UInt8.toNat_ofNat']

/-- **What the registers keep of the values** is ten bits of each crop value and twelve of each
scale. -/
theorem registers_eq_iff {s t : Scaling} : s.registers = t.registers ↔ s.Matches t := by
  simp only [registers, List.cons.injEq, Prod.mk.injEq, true_and, and_true, cropHigh, scaleHigh,
    ofNat_eq_iff]
  constructor
  · rintro ⟨hcrop, hvdelay, hvactive, hhdelay, hhactive, hscale, hvscale, hhscale⟩
    constructor <;> omega
  · rintro ⟨hhactive, hhdelay, hhscale, hvactive, hvdelay, hvscale⟩
    omega

/-- The values for a size, which must not be empty. -/
lemma compute_eq_ok {n : Norm} {width height : Nat} {field : FieldMode} {s : Scaling} :
    compute n width height field = .ok s ↔ width ≠ 0 ∧ frameLines height field ≠ 0 ∧
      s = {
        horizontalActive := n.width
        horizontalDelay := n.horizontalDelay
        horizontalScale := n.width * 256 / width
        verticalActive := n.height
        verticalDelay := n.verticalDelay
        verticalScale := n.height * 256 / frameLines height field } := by
  have hquotient : ∀ a b q : Nat, quotient a b = .ok q ↔ b ≠ 0 ∧ q = a / b := by
    intro a b q
    unfold quotient
    split <;> simp [*, eq_comm]
  simp only [compute, bind_eq_ok, pure_eq_ok, hquotient]
  constructor
  · rintro ⟨_, ⟨hwidth, rfl⟩, _, ⟨hlines, rfl⟩, rfl⟩
    exact ⟨hwidth, hlines, rfl⟩
  · rintro ⟨hwidth, hlines, rfl⟩
    exact ⟨_, ⟨hwidth, rfl⟩, _, ⟨hlines, rfl⟩, rfl⟩

end Scaling

/-- Capturing two geometries under two norms takes the same of the registers. -/
def Geometry.TunesLike (g : Geometry) (n : Norm) (h : Geometry) (m : Norm) : Prop :=
  (∃ s t, Scaling.compute n g.width g.height g.field = .ok s ∧
      Scaling.compute m h.width h.height h.field = .ok t ∧ s.Matches t) ∧
    g.format.color &&& DmaControl.color = h.format.color &&& DmaControl.color

/-- **Registers that are tuned are tuned to what takes the same of them**, and to nothing else. -/
theorem RegisterFile.Tuned.tuned_iff {regs : RegisterFile} {g h : Geometry} {n m : Norm}
    (ht : regs.Tuned g n) : regs.Tuned h m ↔ g.TunesLike n h m := by
  obtain ⟨s, hs, hscaler⟩ := ht.scaler
  constructor
  · intro htuned
    obtain ⟨t, ht', hscaler'⟩ := htuned.scaler
    refine ⟨⟨s, t, hs, ht', Scaling.registers_eq_iff.mp ?_⟩, ?_⟩
    · exact hscaler.symm.trans hscaler'
    · exact ht.color.symm.trans htuned.color
  · rintro ⟨⟨s', t, hs', ht', hmatches⟩, hcolor⟩
    obtain rfl := Except.ok.inj (hs.symm.trans hs')
    refine ⟨⟨t, ht', ?_⟩, ht.color.trans hcolor⟩
    exact hscaler.trans (Scaling.registers_eq_iff.mpr hmatches)

/-! ## The norms of the decoder -/

/-- The norm is one of the decoder's, and the format of the geometry one of the chip's. -/
def Geometry.Known (g : Geometry) (n : Norm) : Prop :=
  n ∈ Norm.all ∧ g.format ∈ PixelFormat.all

instance (g : Geometry) (n : Norm) : Decidable (g.Known n) :=
  inferInstanceAs (Decidable (_ ∧ _))

/-- Norms that crop alike: the active picture of both has the same size and the same place. -/
structure Norm.SameTiming (n m : Norm) : Prop where
  /-- The widths are the same. -/
  width : n.width = m.width
  /-- The heights are the same. -/
  height : n.height = m.height
  /-- The horizontal delays are the same. -/
  horizontalDelay : n.horizontalDelay = m.horizontalDelay
  /-- The vertical delays are the same. -/
  verticalDelay : n.verticalDelay = m.verticalDelay

/-- The crop values of the decoder's norms fit into ten bits. -/
lemma Norm.fits_of_mem_all : ∀ n ∈ Norm.all, n.width < 1024 ∧ n.horizontalDelay < 1024 ∧
    n.height ≤ 576 ∧ n.verticalDelay < 1024 := by
  decide

/-- The formats of the chip have codes of their own. -/
lemma PixelFormat.color_eq_of_code : ∀ f ∈ PixelFormat.all, ∀ f' ∈ PixelFormat.all,
    f.code = f'.code → f.color = f'.color := by
  decide

/-- A single field is not scaled down like a whole frame of as many lines. -/
lemma Scaling.scale_ne {height lines : Nat} (hlines : 32 ≤ lines) (hheight : lines ≤ height)
    (hmax : height ≤ 576) :
    height * 256 / lines % 4096 ≠ height * 256 / (lines * 2) % 4096 := by
  have hlow : 256 ≤ height * 256 / lines := by
    rw [Nat.le_div_iff_mul_le (by omega)]
    omega
  have hhigh : height * 256 / lines ≤ 4608 := by
    refine Nat.div_le_of_le_mul ?_
    omega
  rw [← Nat.div_div_eq_div_mul]
  omega

/-- **Frames that can follow each other take the same of the registers** exactly if their norms have
the same timing, and both hold both fields or neither does.

**Proof sketch.** The two frames have the same size, so the values are equal just if the norms'
timings are and the lines of a field are as many. These differ by a factor of two if only one holds
both fields, and then the vertical scales are different. -/
theorem Geometry.tunesLike_iff {g h : Geometry} {n m : Norm} (hg : g.Known n) (hh : h.Known m)
    (haccepts : n.accepts g.width g.height = true) (hchains : g.chains h = true) :
    g.TunesLike n h m ↔ n.SameTiming m ∧ g.field.hasBoth = h.field.hasBoth := by
  simp only [chains, Bool.and_eq_true, beq_iff_eq] at hchains
  obtain ⟨⟨hwidth, hheight⟩, hcode⟩ := hchains
  simp only [Norm.accepts, minWidth, minHeight, Bool.and_eq_true, decide_eq_true_eq] at haccepts
  obtain ⟨⟨⟨hminWidth, -⟩, hminHeight⟩, hmaxHeight⟩ := haccepts
  obtain ⟨hnw, hnhd, hnh, hnvd⟩ := Norm.fits_of_mem_all n hg.1
  obtain ⟨hmw, hmhd, hmh, hmvd⟩ := Norm.fits_of_mem_all m hh.1
  have hcolor := PixelFormat.color_eq_of_code _ hg.2 _ hh.2 hcode
  have hne := Scaling.scale_ne hminHeight hmaxHeight hnh
  simp only [TunesLike, Scaling.compute_eq_ok, hcolor, and_true, ← hwidth, ← hheight]
  constructor
  · rintro ⟨s, t, ⟨-, -, rfl⟩, ⟨-, -, rfl⟩, hmatches⟩
    obtain ⟨hw, hhd, -, hh', hvd, hscale⟩ := hmatches
    dsimp only at hw hhd hh' hvd hscale
    have htiming : n.SameTiming m := ⟨by omega, by omega, by omega, by omega⟩
    refine ⟨htiming, ?_⟩
    rw [← htiming.height, Scaling.frameLines, Scaling.frameLines] at hscale
    cases hgboth : g.field.hasBoth <;> cases hhboth : h.field.hasBoth
    · rfl
    · rw [hgboth, hhboth] at hscale
      exact absurd hscale.symm hne
    · rw [hgboth, hhboth] at hscale
      exact absurd hscale hne
    · rfl
  · rintro ⟨htiming, hboth⟩
    have hlines : Scaling.frameLines g.height h.field = Scaling.frameLines g.height g.field := by
      rw [Scaling.frameLines, ← hboth, Scaling.frameLines]
    have hpos : Scaling.frameLines g.height g.field ≠ 0 := by
      unfold Scaling.frameLines
      split <;> omega
    refine ⟨_, _, ⟨by omega, hpos, rfl⟩, ⟨by omega, hlines ▸ hpos, rfl⟩, ?_⟩
    rw [hlines, ← htiming.width, ← htiming.height, ← htiming.horizontalDelay,
      ← htiming.verticalDelay]
    exact ⟨rfl, rfl, rfl, rfl, rfl, rfl⟩

end VideoCapture
