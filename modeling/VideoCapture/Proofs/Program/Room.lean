import Mathlib.Algebra.GroupWithZero.Nat
import VideoCapture.Proofs.Dma.Host
import VideoCapture.Proofs.Field.Paging
import VideoCapture.Proofs.Program.Coverage

/-!
# Programs have room

The memory of a program is allocated before it is written, from an estimate that looks at nothing
but the shape of the frame. Over the chunks of a mapped buffer, which are pages, the estimate is
enough: it allows each field the instructions that it can take, and room for the tail. The fields of
a frame lie inside of its image, and the image inside of the chunks, since otherwise no program is
asked for. So for a frame that the chip can capture there is a program, unless memory runs out.

## Main definitions

* `VideoCapture.Capturable` — what the chip can capture.
* `VideoCapture.HostDma.Astray` — the tail of a program has no address.

## Main results

* `VideoCapture.HostDma.paged_chunksAt` — mapped buffers are paged.
* `VideoCapture.Geometry.inside_of_layout` — the fields of a frame lie inside of its image.
* `VideoCapture.Program.exists_write` — a program for fields inside of a paged buffer has room.
* `VideoCapture.CaptureBuffer.failsOnly_buildProgram` — building a program never breaks off, if the
  backend hands out memory in reach of the bus.
-/

set_option autoImplicit false

namespace VideoCapture

/-- What the chip can capture: fields that are resolved, in one of its formats, under one of its
norms. -/
def Capturable (g : Geometry) (n : Norm) : Prop :=
  g.field ≠ .any ∧ g.format ∈ PixelFormat.all ∧ n ∈ Norm.all

instance (g : Geometry) (n : Norm) : Decidable (Capturable g n) :=
  inferInstanceAs (Decidable (_ ∧ _))

/-- The chunks of a mapped buffer are pages.

**Proof sketch.** Along the addresses. A chunk has a whole page as long as the buffer does, and the
chunk that has less is the end of the buffer, so nothing is left for those behind it. -/
lemma HostDma.paged_chunksAt (size : Nat) (addresses : List Nat) :
    ScatterList.Paged (chunksAt size addresses) := by
  induction addresses generalizing size with
  | nil => exact trivial
  | cons address rest ih =>
    refine ⟨?_, ih _⟩
    obtain hwhole | hlast := Nat.le_total pageSize size
    · exact .inl (Nat.min_eq_right hwhole)
    · refine .inr ⟨Nat.min_le_right _ _, ?_⟩
      rw [size_chunksAt, Nat.sub_eq_zero_of_le hlast, Nat.zero_min]

/-! ## Frames -/

namespace Geometry

variable {g : Geometry} {n : Norm} {layout : ProgramLayout}

/-- A frame that can be captured has a layout. -/
lemma exists_layout (h : Capturable g n) : ∃ layout, g.layout = .ok layout := by
  unfold Geometry.layout FieldMode.layout
  cases hfield : g.field with
  | any => exact absurd hfield h.1
  | top | bottom | interlaced | topThenBottom | bottomThenTop => exact ⟨_, rfl⟩

/-- A line of such a frame has bytes, and fewer than a page, if the norm accepts the size. -/
lemma lineBytes_bounds (h : Capturable g n) (haccepts : n.accepts g.width g.height = true) :
    0 < g.lineBytes ∧ g.lineBytes < pageSize := by
  have hdepth : 16 ≤ g.format.depth ∧ g.format.depth ≤ 32 :=
    (by decide : ∀ format ∈ PixelFormat.all, 16 ≤ format.depth ∧ format.depth ≤ 32) _ h.2.1
  have hwidest : n.width ≤ 924 := (by decide : ∀ norm ∈ Norm.all, norm.width ≤ 924) _ h.2.2
  simp only [Norm.accepts, minWidth, Bool.and_eq_true, decide_eq_true_eq] at haccepts
  obtain ⟨⟨⟨hmin, hmax⟩, -⟩, -⟩ := haccepts
  have hleast : 48 * 16 ≤ g.width * g.format.depth := Nat.mul_le_mul hmin hdepth.1
  have hmost : g.width * g.format.depth ≤ 924 * 32 :=
    Nat.mul_le_mul (Nat.le_trans hmax hwidest) hdepth.2
  simp only [lineBytes, pageSize]
  omega

/-- The lines that the fields have together are lines of the frame. -/
lemma capturedLines_le (g : Geometry) : g.capturedLines ≤ g.height := by
  unfold capturedLines
  split <;> omega

/-- A frame that a norm accepts has no more lines than the largest norm. -/
lemma height_le (h : Capturable g n) (haccepts : n.accepts g.width g.height = true) :
    g.height ≤ 576 := by
  have hmost : n.height ≤ 576 := (by decide : ∀ norm ∈ Norm.all, norm.height ≤ 576) _ h.2.2
  simp only [Norm.accepts, Bool.and_eq_true, decide_eq_true_eq] at haccepts
  exact Nat.le_trans haccepts.2 hmost

/-- The bytes of such a frame can be counted in 32 bits, up to the end of each field. -/
lemma narrow_of_layout (h : g.layout = .ok layout) (hless : g.lineBytes < pageSize)
    (hheight : g.height ≤ 576) : ∀ part ∈ layout.parts,
      part.offset + part.lines * (part.lineBytes + part.padding) < bound32 := by
  have hall : g.height * g.lineBytes ≤ 576 * 4096 :=
    Nat.mul_le_mul hheight (Nat.le_of_lt hless)
  have hhalf : g.height / 2 * g.lineBytes ≤ 576 * 4096 :=
    Nat.le_trans (Nat.mul_le_mul_right _ (Nat.div_le_self _ 2)) hall
  have hstart : g.lineBytes * (g.height / 2) ≤ 576 * 4096 := Nat.mul_comm _ _ ▸ hhalf
  unfold Geometry.layout FieldMode.layout at h
  cases hfield : g.field with
  | any => rw [hfield] at h; cases h
  | top | bottom | interlaced | topThenBottom | bottomThenTop =>
    rw [hfield] at h
    obtain rfl := Except.ok.inj h
    simp [ProgramLayout.parts, ProgramLayout.part, pageSize, bound32, Nat.mul_add] at hless ⊢
    omega

/-- **The fields of a frame that can be captured lie inside of its image**, because together they
tile lines of it.

**Proof sketch.** The last byte of each line is one of those that the fields tile, so it lies within
the captured lines of the image. -/
theorem inside_of_layout (hcan : Capturable g n) (haccepts : n.accepts g.width g.height = true)
    (h : g.layout = .ok layout) : ∀ part ∈ layout.parts, part.Inside g.imageBytes := by
  obtain ⟨hpos, hless⟩ := lineBytes_bounds hcan haccepts
  have hnarrow := narrow_of_layout h hless (height_le hcan haccepts)
  intro part hpart
  have hbytes : part.lineBytes = g.lineBytes := (parts_of_layout h).2 part hpart
  refine ⟨hbytes ▸ hpos, hbytes ▸ hless, fun k hk => ?_, hnarrow part hpart⟩
  -- the last byte of the line is one of those tiled
  let last := part.offset + k * (part.lineBytes + part.padding) + (part.lineBytes - 1)
  have hlast : last ∈ part.offsets := by
    refine List.mem_flatMap.mpr ⟨k, List.mem_range.mpr hk, List.mem_range'_1.mpr ?_⟩
    omega
  have htiled : last ∈ List.range (g.lineBytes * g.capturedLines) :=
    (offsets_perm_range h).mem_iff.mp (List.mem_flatMap.mpr ⟨part, hpart, hlast⟩)
  have hcaptured : last < g.lineBytes * g.capturedLines := List.mem_range.mp htiled
  have himage : g.lineBytes * g.capturedLines ≤ g.imageBytes :=
    Nat.mul_le_mul_left _ g.capturedLines_le
  omega

end Geometry

/-! ## Fields in memory -/

/-- A program is allowed what its fields are allowed, and room for the tail. -/
lemma ProgramLayout.allowance_eq (layout : ProgramLayout) :
    layout.allowance = (layout.parts.map FieldLayout.allowance).sum + 2 := by
  obtain ⟨top, bottom, lineBytes, padding, lines⟩ := layout
  cases top <;> cases bottom <;>
    simp [allowance, estimateInstructions, parts, part, FieldLayout.allowance]
  omega

/-- That is some memory at least. -/
lemma ProgramLayout.allowance_pos (layout : ProgramLayout) :
    0 < Instruction.bytes * layout.allowance := by
  rw [layout.allowance_eq, Instruction.bytes]
  omega

/-- A field inside of a paged buffer is written to a region that has room for what the field is
allowed. -/
lemma Region.exists_field {region : Region} {layout : FieldLayout} {chunks : ScatterList}
    (hpaged : ScatterList.Paged chunks) (hreach : ScatterList.InReach chunks)
    (h : layout.Inside (ScatterList.size chunks)) (mode : LineOffset)
    (hroom : region.position + 2 * layout.allowance ≤ region.capacity) :
    ∃ next, region.field layout chunks mode = .ok next ∧ next.capacity = region.capacity ∧
      next.position ≤ region.position + 2 * layout.allowance := by
  obtain ⟨l, cursor, hemission, hlength⟩ := FieldLayout.exists_emission hpaged hreach h mode
  have hwords : (Instruction.encodeAll l).length = 2 * l.length := Instruction.length_encodeAll l
  have hfits : region.position + (Instruction.encodeAll l).length ≤ region.capacity := by omega
  refine ⟨{ region with words := region.words ++ Instruction.encodeAll l }, ?_, rfl, ?_⟩
  · rw [field_eq_append, hemission, append]
    exact if_pos hfits
  · rw [position, List.length_append, hwords]
    exact Nat.add_le_add_left (Nat.mul_le_mul_left 2 hlength) _

namespace Program

variable {chunks : ScatterList}

/-- Fields inside of a paged buffer are written to a region that has room for what they are allowed.

**Proof sketch.** Induction on the fields. -/
lemma exists_writeFields {region : Region} {parts : List FieldLayout}
    (hpaged : ScatterList.Paged chunks) (hreach : ScatterList.InReach chunks)
    (h : ∀ part ∈ parts, part.Inside (ScatterList.size chunks)) (mode : LineOffset)
    (hroom : region.position + 2 * (parts.map FieldLayout.allowance).sum ≤ region.capacity) :
    ∃ next, writeFields region chunks mode parts = .ok next ∧
      next.position ≤ region.position + 2 * (parts.map FieldLayout.allowance).sum := by
  induction parts generalizing region with
  | nil => exact ⟨region, rfl, Nat.le_refl _⟩
  | cons part parts ih =>
    obtain ⟨hfirst, hothers⟩ := List.forall_mem_cons.mp h
    rw [List.map_cons, List.sum_cons] at hroom ⊢
    have hone : region.position + 2 * part.allowance ≤ region.capacity := by omega
    obtain ⟨middle, hfield, hcapacity, hmiddle⟩ :=
      Region.exists_field hpaged hreach hfirst mode hone
    have hleft : middle.position + 2 * (parts.map FieldLayout.allowance).sum ≤
        middle.capacity := by omega
    obtain ⟨next, hrest, hnext⟩ := ih hothers hleft
    exact ⟨next, bind_eq_ok.mpr ⟨middle, hfield, hrest⟩, by omega⟩

/-- A tail that ends within memory begins at an address, if the memory lies in reach of the bus. -/
lemma tailInReach_of_le {memory : CoherentMemory} {tail : Nat}
    (hroom : 4 * (tail + 2) ≤ memory.size)
    (hbus : memory.bus.toNat + memory.size ≤ 0x100000000) : TailInReach memory tail := by
  have hcut : (UInt32.ofNat (4 * tail)).toNat ≤ 4 * tail := Nat.mod_le _ _
  unfold TailInReach bound32
  omega

/-- **A program for fields inside of a paged buffer has room** in the memory that is asked for, and
its tail has an address if the memory lies in reach of the bus. -/
theorem exists_write {memory : CoherentMemory} {layout : ProgramLayout}
    (hpaged : ScatterList.Paged chunks) (hreach : ScatterList.InReach chunks)
    (h : ∀ part ∈ layout.parts, part.Inside (ScatterList.size chunks)) (mode : LineOffset)
    (hmemory : Instruction.bytes * layout.allowance ≤ memory.size) :
    ∃ region, (memory.bus.toNat + memory.size ≤ 0x100000000 → TailInReach memory region.position) ∧
      write memory chunks layout mode = if TailInReach memory region.position then
        .ok ((filled memory region).retarget (filled memory region).tailAddress false)
      else .error .numberTooWide := by
  have hwords : memory.size = 4 * memory.words.length := rfl
  rw [layout.allowance_eq, Instruction.bytes] at hmemory
  have hroom : (Region.blank memory.words.length).position +
      2 * (layout.parts.map FieldLayout.allowance).sum ≤ memory.words.length := by
    show 0 + _ ≤ _
    omega
  obtain ⟨region, hregion, hposition⟩ := exists_writeFields hpaged hreach h mode hroom
  have htail : 4 * (region.position + 2) ≤ memory.size := by
    have hstart : (Region.blank memory.words.length).position = 0 := rfl
    omega
  refine ⟨region, tailInReach_of_le htail, ?_⟩
  rw [write_of_writeFields hregion, if_neg (Nat.not_lt_of_le htail)]

end Program

/-! ## Programs over a window -/

/-- A fault that shows that a backend without hardware does not keep to its window, or has one that
the bus does not reach: the tail of a program has no address. -/
def HostDma.Astray (dma : HostDma) (fault : Fault) : Prop :=
  fault = .numberTooWide ∧ ∀ live, ¬dma.Accounts live

/-- Building a program for fields inside of a paged buffer succeeds or runs out of memory, unless
the backend has gone astray. -/
lemma Program.failsOnly_build {layout : ProgramLayout} {chunks : ScatterList}
    (hpaged : ScatterList.Paged chunks) (hreach : ScatterList.InReach chunks)
    (hparts : layout.parts ≠ []) (h : ∀ part ∈ layout.parts, part.Inside (ScatterList.size chunks))
    (mode : LineOffset) (dma : HostDma) :
    FailsOnly dma.Astray (build dma chunks layout mode) := by
  have hfields : ¬layout.parts.isEmpty = true := fun hnil => hparts (List.isEmpty_iff.mp hnil)
  simp only [build, if_neg hfields]
  rcases hallocate : DmaBackend.allocate dma (Instruction.bytes * layout.allowance) with
    ⟨error | memory, dma₁⟩
  · exact failsOnly_ok _
  · refine FailsOnly.bind ?_ fun _ _ => failsOnly_ok _
    obtain ⟨region, hbus, hwrite⟩ := exists_write hpaged hreach h mode
      (HostDma.size_le_of_allocate hallocate)
    rw [hwrite]
    split
    · exact failsOnly_ok _
    · next htail =>
      rintro fault ⟨⟩
      refine ⟨rfl, fun live haccounts => htail (hbus ?_)⟩
      exact haccounts.limit_le_of_allocate (layout.allowance_pos) hallocate

/-! ## Programs of buffers -/

/-- **Building a program never breaks off** for a frame that can be captured, in a buffer that is
mapped in any way, unless the backend has gone astray: there is a program, or an error tells why
there is none.

**Proof sketch.** Chunks beyond the bus and mappings that are too short are refused. Otherwise the
fields lie inside of the mapping, and what is written for pages takes no more than was estimated. -/
theorem CaptureBuffer.failsOnly_buildProgram {g : Geometry} {n : Norm} (h : Capturable g n)
    (haccepts : n.accepts g.width g.height = true) (dma : HostDma) (capacity : Nat)
    (addresses : List Nat) (mode : LineOffset) :
    FailsOnly dma.Astray (buildProgram dma (HostDma.chunksAt capacity addresses) g mode) := by
  have hpaged := HostDma.paged_chunksAt capacity addresses
  generalize HostDma.chunksAt capacity addresses = chunks at hpaged ⊢
  unfold buildProgram
  split
  · exact failsOnly_ok _
  · next hbeyond =>
    split
    · exact failsOnly_ok _
    · next hshort =>
      have hreach : ScatterList.InReach chunks := by
        intro chunk hchunk
        refine Nat.le_of_not_lt fun hlimit => hbeyond (List.any_eq_true.mpr ⟨chunk, hchunk, ?_⟩)
        exact decide_eq_true hlimit
      obtain ⟨layout, hlayout⟩ := Geometry.exists_layout h
      have hparts : ∀ part ∈ layout.parts, part.Inside (ScatterList.size chunks) :=
        fun part hpart => (Geometry.inside_of_layout h haccepts hlayout part hpart).mono
          (Nat.le_of_not_lt hshort)
      exact FailsOnly.bind_of_ok hlayout (Program.failsOnly_build hpaged hreach
        (Geometry.parts_of_layout hlayout).1 hparts mode dma)

end VideoCapture
