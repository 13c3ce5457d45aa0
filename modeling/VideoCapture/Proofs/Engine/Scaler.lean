import VideoCapture.Proofs.Engine.Tuning
import VideoCapture.Proofs.Format.Negotiation

/-!
# What the scaler is left with

Six values are spread over eight byte registers when the decoder is made to scale: the low byte of
each has a register of its own, two bits of each crop value share one more, and four bits of each
scale the last. What is put together from the registers again has ten bits of each crop value and
twelve of each scale.

The norms of the decoder need no more for the crop values. A scale is the ratio of the norm's size
to that of the picture, with eight binary places, and twelve bits are enough for it only if the
picture is more than a sixteenth as wide and as high as the norm. Negotiation looks at nothing of
the kind. It grants pictures of 48 pixels under norms of 768 or more, and whole frames of 32 lines
under norms of 576: there the highest bit of a scale gets lost.

## Main definitions

* `VideoCapture.RegisterFile.scaling` — the values that the registers of the scaler make together.

## Main results

* `VideoCapture.Scaling.scaling_program` — what is left of the values that are written.
* `VideoCapture.Decoder.setScale_of_negotiate` — for geometries that are granted, the crop values
  are left whole, and the scales exactly if the picture is large enough.
-/

set_option autoImplicit false

namespace VideoCapture

/-- The values that the registers of the scaler make together: the low bytes, with two bits of each
crop value and four of each scale in front. -/
def RegisterFile.scaling (regs : RegisterFile) : Scaling :=
  let byte (offset : Nat) := (regs.read8 offset).toNat
  let crop := byte Register.cropHigh
  let scale := byte Register.scaleHigh
  { horizontalActive := crop % 4 * 256 + byte Register.horizontalActive
    horizontalDelay := crop / 4 % 4 * 256 + byte Register.horizontalDelay
    horizontalScale := scale % 16 * 256 + byte Register.horizontalScale
    verticalActive := crop / 16 % 4 * 256 + byte Register.verticalActive
    verticalDelay := crop / 64 % 4 * 256 + byte Register.verticalDelay
    verticalScale := scale / 16 % 16 * 256 + byte Register.verticalScale }

namespace Scaling

variable {s : Scaling} {regs : RegisterFile} {n : Norm} {g : Geometry}

/-- What the registers have room for: ten bits of each crop value and twelve of each scale. -/
def kept (s : Scaling) : Scaling where
  horizontalActive := s.horizontalActive % 1024
  horizontalDelay := s.horizontalDelay % 1024
  horizontalScale := s.horizontalScale % 4096
  verticalActive := s.verticalActive % 1024
  verticalDelay := s.verticalDelay % 1024
  verticalScale := s.verticalScale % 4096

/-- Registers that hold what belongs to some values make together what there is room for. -/
lemma scaling_of_scaler (h : regs.scaler = s.registers) : regs.scaling = s.kept := by
  simp only [RegisterFile.scaler, offsets, registers, List.map_cons, List.map_nil, List.cons.injEq,
    Prod.mk.injEq, true_and, and_true] at h
  obtain ⟨hcrop, hvdelay, hvactive, hhdelay, hhactive, hscale, hvscale, hhscale⟩ := h
  simp only [RegisterFile.scaling, kept, hcrop, hvdelay, hvactive, hhdelay, hhactive, hscale,
    hvscale, hhscale, cropHigh, scaleHigh, UInt8.toNat_ofNat', mk.injEq]
  omega

/-- **What is left of the values that are written** is what there is room for. -/
theorem scaling_program (s : Scaling) (regs : RegisterFile) :
    (s.program regs).scaling = s.kept :=
  scaling_of_scaler (s.scaler_program regs)

/-- A ratio with eight binary places takes twelve bits exactly if it is less than sixteen. -/
lemma ratio_lt_iff {whole part : Nat} (h : 0 < part) :
    whole * 256 / part < 4096 ↔ whole < 16 * part := by
  rw [Nat.div_lt_iff_lt_mul h]
  omega

/-- **There is room for the values exactly if the picture is large enough**, under a norm of the
decoder. The crop values are left whole in any case. -/
theorem kept_of_compute (hn : n ∈ Norm.all)
    (h : compute n g.width g.height g.field = .ok s) :
    s.kept = { s with
      horizontalScale := s.horizontalScale % 4096
      verticalScale := s.verticalScale % 4096 } ∧
    (s.kept = s ↔ n.width < 16 * g.width ∧ n.height < 16 * frameLines g.height g.field) := by
  obtain ⟨hwidth, hlines, rfl⟩ := compute_eq_ok.mp h
  obtain ⟨hactive, hdelay, hheight, hvdelay⟩ := n.fits_of_mem_all hn
  have hcrop : ∀ {k : Nat}, k < 1024 → k % 1024 = k := Nat.mod_eq_of_lt
  have hscale : ∀ {k : Nat}, k % 4096 = k ↔ k < 4096 := Nat.mod_eq_iff_lt (by decide)
  simp only [kept, mk.injEq, hcrop hactive, hcrop hdelay, hcrop hvdelay,
    hcrop (show n.height < 1024 by omega), hscale, true_and, and_self,
    ratio_lt_iff (Nat.pos_of_ne_zero hwidth), ratio_lt_iff (Nat.pos_of_ne_zero hlines)]

end Scaling

namespace Decoder

variable {n : Norm} {g : Geometry} {request : FormatRequest}

/-- **What the scaler is left with for a geometry that was granted**, under each norm of the decoder
and whatever the registers held before: the values are computed and written, and what the registers
make together has the crop values whole and twelve bits of each scale. Nothing is lost if and only
if the picture is more than a sixteenth as wide and as high as the norm.

**Proof sketch.** A geometry that was granted has a width and lines, so that the values can be
computed. What twelve bits keep of them is known for each norm. -/
theorem setScale_of_negotiate (hn : n ∈ Norm.all)
    (h : request.negotiate n = .ok (.ok g)) (regs : RegisterFile) :
    ∃ s regs', Scaling.compute n g.width g.height g.field = .ok s ∧
      setScale regs n g.width g.height g.field = .ok (s, regs') ∧
      regs'.scaling = { s with
        horizontalScale := s.horizontalScale % 4096
        verticalScale := s.verticalScale % 4096 } ∧
      (regs'.scaling = s ↔
        n.width < 16 * g.width ∧ n.height < 16 * Scaling.frameLines g.height g.field) := by
  obtain ⟨-, hdeliverable⟩ := FormatRequest.deliverable_of_negotiate hn h
  have haccepts := hdeliverable.accepts
  simp only [Norm.accepts, minWidth, minHeight, Bool.and_eq_true, decide_eq_true_eq] at haccepts
  obtain ⟨⟨⟨hwidth, -⟩, hheight⟩, -⟩ := haccepts
  have hlines : Scaling.frameLines g.height g.field ≠ 0 := by
    unfold Scaling.frameLines
    split <;> omega
  obtain ⟨s, hcompute⟩ : ∃ s, Scaling.compute n g.width g.height g.field = .ok s :=
    ⟨_, Scaling.compute_eq_ok.mpr ⟨by omega, hlines, rfl⟩⟩
  obtain ⟨hcut, hwhole⟩ := Scaling.kept_of_compute hn hcompute
  refine ⟨s, s.program regs, hcompute, bind_eq_ok.mpr ⟨s, hcompute, rfl⟩, ?_, ?_⟩
  · rw [s.scaling_program regs, hcut]
  · rw [s.scaling_program regs, hwhole]

/-- The smallest whole frame that is granted under the norm with the largest picture: both scales
lose their highest bit. -/
theorem setScale_of_negotiate_cut :
    ∃ n ∈ Norm.all, ∃ g s regs',
      FormatRequest.negotiate ⟨48, 32, fourcc 'Y' 'U' 'Y' 'V', .interlaced⟩ n = .ok (.ok g) ∧
      setScale {} n g.width g.height g.field = .ok (s, regs') ∧
      s.horizontalScale = 4928 ∧ regs'.scaling.horizontalScale = 832 ∧
      s.verticalScale = 4608 ∧ regs'.scaling.verticalScale = 512 ∧ regs'.scaling ≠ s := by
  obtain ⟨n, hn, answer, hanswer, g, hg, ⟨hwidth, hheight, hfield⟩, hnwidth, hnheight⟩ :
      ∃ n ∈ Norm.all, ∃ answer ∈
        (FormatRequest.negotiate ⟨48, 32, fourcc 'Y' 'U' 'Y' 'V', .interlaced⟩ n).toOption,
      ∃ g ∈ answer.toOption, (g.width = 48 ∧ g.height = 32 ∧ g.field = .interlaced) ∧
        n.width = 924 ∧ n.height = 576 := by decide
  have hnegotiate :
      FormatRequest.negotiate ⟨48, 32, fourcc 'Y' 'U' 'Y' 'V', .interlaced⟩ n = .ok (.ok g) :=
    (toOption_eq_some.mp hanswer).trans (congrArg Except.ok (toOption_eq_some.mp hg))
  obtain ⟨s, regs', hcompute, hset, hleft, hwhole⟩ := setScale_of_negotiate hn hnegotiate {}
  obtain ⟨-, -, hs⟩ := Scaling.compute_eq_ok.mp hcompute
  have hhorizontal : s.horizontalScale = 4928 := by rw [hs, hnwidth, hwidth]
  have hvertical : s.verticalScale = 4608 := by
    rw [hs, hnheight, hheight, hfield]
    rfl
  refine ⟨n, hn, g, s, regs', hnegotiate, hset, hhorizontal, ?_, hvertical, ?_, fun hsame => ?_⟩
  · rw [hleft, hhorizontal]
  · rw [hleft, hvertical]
  · obtain ⟨hlarge, -⟩ := hwhole.mp hsame
    rw [hnwidth, hwidth] at hlarge
    exact absurd hlarge (by decide)

end Decoder

end VideoCapture
