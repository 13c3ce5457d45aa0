import VideoCapture.Buffer
import VideoCapture.Dma.Host
import VideoCapture.Proofs.Field.Transfer
import VideoCapture.Proofs.Program.Tail
import Mathlib.Data.List.Perm.Basic

/-!
# What a program writes

The instructions of a program stand in its memory as they were emitted, so that a program writes
what its fields write. The fields of a frame share no byte, and together they are as many whole
lines as the frame has, except that a frame of both fields loses its last line if its height is odd:
each field has half of the lines, rounded down.

## Main definitions

* `VideoCapture.Program.body` — the instructions that the fields of a frame emit.
* `VideoCapture.Program.writes` — the bus addresses that a program writes.
* `VideoCapture.Program.Covers` — a program writes each of the first bytes of a buffer once.
* `VideoCapture.Geometry.capturedLines` — the lines of a frame that its fields have together.

## Main results

* `VideoCapture.Program.words_of_writeFields` — what stands in memory once fields are written.
* `VideoCapture.Program.instructions_of_write` — the instructions in the memory of a program.
* `VideoCapture.Geometry.offsets_perm_range` — the fields of a frame tile the lines they have.
* `VideoCapture.Program.covers_of_build` — what programs cover, and which cover the whole image.
-/

set_option autoImplicit false

namespace VideoCapture

/-! ## Tiles -/

/-- Runs that begin where the one before ends are a single run.

**Proof sketch.** On the number of runs: the last begins where the others end. -/
lemma flatMap_range'_tiles (start length count : Nat) :
    (List.range count).flatMap (fun k => List.range' (start + k * length) length) =
      List.range' start (count * length) := by
  induction count with
  | zero => rw [Nat.zero_mul]; rfl
  | succ count ih =>
    rw [List.range_succ, List.flatMap_append, List.flatMap_singleton, ih, List.range'_append_1,
      Nat.succ_mul]

/-- Two combs of runs, each as far apart as it is long, fill each other's gaps. -/
lemma combs_perm_range (length count : Nat) :
    List.Perm
      ((List.range count).flatMap (fun k => List.range' (0 + k * (length + length)) length) ++
        (List.range count).flatMap (fun k => List.range' (length + k * (length + length)) length))
      (List.range (count * (length + length))) := by
  refine (List.flatMap_append_perm _ _ _).trans (List.Perm.of_eq ?_)
  have htiles := flatMap_range'_tiles 0 (length + length) count
  rw [← List.range_eq_range'] at htiles
  rw [← htiles]
  refine List.flatMap_congr fun k _ => ?_
  rw [Nat.zero_add, Nat.add_comm length (k * (length + length)), List.range'_append_1]

/-! ## The fields of a frame -/

namespace Geometry

variable {g : Geometry} {layout : ProgramLayout}

/-- The lines that the fields of a frame have together: if it holds both, each has half of them,
rounded down. -/
def capturedLines (g : Geometry) : Nat :=
  if g.field.hasBoth then g.height / 2 * 2 else g.height

/-- No line is lost unless the frame has both fields and an odd height. -/
lemma capturedLines_eq_height :
    g.capturedLines = g.height ↔ (g.field.hasBoth = true → g.height % 2 = 0) := by
  unfold capturedLines
  split
  · next hboth =>
    constructor
    · intro h _
      omega
    · intro h
      have heven := h hboth
      omega
  · next hone => exact ⟨fun _ hboth => absurd hboth hone, fun _ => rfl⟩

/-- There is a field at least, and all have the line length of the frame. -/
lemma parts_of_layout (h : g.layout = .ok layout) :
    layout.parts ≠ [] ∧ ∀ part ∈ layout.parts, part.lineBytes = g.lineBytes := by
  unfold Geometry.layout FieldMode.layout at h
  cases hfield : g.field with
  | any => rw [hfield] at h; cases h
  | top | bottom | interlaced | topThenBottom | bottomThenTop =>
    rw [hfield] at h
    obtain rfl := Except.ok.inj h
    simp [ProgramLayout.parts, ProgramLayout.part]

/-- The bytes of the fields of a frame, field by field. -/
lemma flatMap_offsets_parts (layout : ProgramLayout) :
    layout.parts.flatMap FieldLayout.offsets =
      (layout.top.map fun offset => (layout.part .odd offset).offsets).getD [] ++
        (layout.bottom.map fun offset => (layout.part .even offset).offsets).getD [] := by
  unfold ProgramLayout.parts
  cases layout.top <;> cases layout.bottom <;> simp

/-- A field without padding is a single run of bytes. -/
lemma offsets_part (h : layout.padding = 0) (parity : Parity) (offset : Nat) :
    (layout.part parity offset).offsets =
      List.range' offset (layout.lineBytes * layout.lines) := by
  simp only [FieldLayout.offsets, ProgramLayout.part, h]
  rw [Nat.add_zero, flatMap_range'_tiles, Nat.mul_comm]

/-- **The fields of a frame tile the lines they have together**, without gap or overlap.

**Proof sketch.** Case analysis on the arrangement of the fields. A single field has all lines; of
two that lie one behind the other each has half of them; and two that are interlaced have every
other line each, as the teeth of two combs. -/
theorem offsets_perm_range (h : g.layout = .ok layout) :
    (layout.parts.flatMap FieldLayout.offsets).Perm
      (List.range (g.lineBytes * g.capturedLines)) := by
  have hhalves : List.range' 0 (g.lineBytes * (g.height / 2)) ++
      List.range' (g.lineBytes * (g.height / 2)) (g.lineBytes * (g.height / 2)) =
        List.range (g.lineBytes * (g.height / 2 * 2)) := by
    rw [List.range_eq_range', ← Nat.mul_assoc, Nat.mul_two, ← List.range'_append_1, Nat.zero_add]
  rw [flatMap_offsets_parts]
  unfold Geometry.layout FieldMode.layout at h
  cases hfield : g.field with
  | any => rw [hfield] at h; cases h
  | top =>
    rw [hfield] at h
    obtain rfl := Except.ok.inj h
    have hlines : g.capturedLines = g.height := by rw [capturedLines, hfield]; rfl
    simp only [Option.map_some, Option.map_none, Option.getD_some, Option.getD_none]
    rw [offsets_part rfl, List.append_nil, hlines, List.range_eq_range']
  | bottom =>
    rw [hfield] at h
    obtain rfl := Except.ok.inj h
    have hlines : g.capturedLines = g.height := by rw [capturedLines, hfield]; rfl
    simp only [Option.map_some, Option.map_none, Option.getD_some, Option.getD_none]
    rw [offsets_part rfl, List.nil_append, hlines, List.range_eq_range']
  | interlaced =>
    rw [hfield] at h
    obtain rfl := Except.ok.inj h
    have hlines : g.capturedLines = g.height / 2 * 2 := by rw [capturedLines, hfield]; rfl
    have hbytes :
        g.lineBytes * (g.height / 2 * 2) = g.height / 2 * (g.lineBytes + g.lineBytes) := by
      rw [← Nat.mul_two, Nat.mul_left_comm]
    rw [hlines, hbytes]
    exact combs_perm_range g.lineBytes (g.height / 2)
  | topThenBottom =>
    rw [hfield] at h
    obtain rfl := Except.ok.inj h
    have hlines : g.capturedLines = g.height / 2 * 2 := by rw [capturedLines, hfield]; rfl
    simp only [Option.map_some, Option.getD_some]
    rw [offsets_part rfl, offsets_part rfl, hlines, hhalves]
  | bottomThenTop =>
    rw [hfield] at h
    obtain rfl := Except.ok.inj h
    have hlines : g.capturedLines = g.height / 2 * 2 := by rw [capturedLines, hfield]; rfl
    simp only [Option.map_some, Option.getD_some]
    rw [offsets_part rfl, offsets_part rfl, hlines, ← hhalves]
    exact List.perm_append_comm

end Geometry

/-! ## Fields in memory -/

namespace Region

variable {region next : Region}

/-- What was emitted stands in the region behind what was there, once the emission ends well. -/
lemma append_eq_ok {α : Type} {m : Emission α} (h : region.append m = .ok next) :
    (∃ a, m = ⟨m.instructions, .ok a⟩) ∧
      next.words = region.words ++ Instruction.encodeAll m.instructions := by
  simp only [append] at h
  split at h
  · obtain ⟨a, hout, hnext⟩ := bind_eq_ok.mp h
    obtain rfl := pure_eq_ok.mp hnext
    exact ⟨⟨a, by rw [← hout]⟩, rfl⟩
  · cases h

end Region

namespace Program

variable {chunks : ScatterList} {mode : LineOffset}

/-- The bus addresses that a program writes, in order. -/
def writes (program : Program) : List Nat :=
  program.instructions.flatMap Instruction.writes

/-- A program writes each of the first `size` bytes of a buffer exactly once, and nothing else. -/
def Covers (program : Program) (chunks : ScatterList) (size : Nat) : Prop :=
  ∃ offsets : List Nat, offsets.Perm (List.range size) ∧
    program.writes.map some = offsets.map ((ScatterList.addresses chunks)[·]?)

/-- The instructions that fields emit, one field behind the other. -/
def body (chunks : ScatterList) (mode : LineOffset) (parts : List FieldLayout) :
    List Instruction :=
  parts.flatMap fun part => (part.emission chunks mode).instructions

/-- **Fields that were written to a region stand there one behind the other**, and none of them was
broken off.

**Proof sketch.** Induction on the fields, each of which leaves its instructions behind those
written before. -/
theorem words_of_writeFields {region next : Region} {parts : List FieldLayout}
    (h : writeFields region chunks mode parts = .ok next) :
    next.words = region.words ++ Instruction.encodeAll (body chunks mode parts) ∧
      ∀ part ∈ parts, ∃ last,
        part.emission chunks mode = ⟨(part.emission chunks mode).instructions, .ok last⟩ := by
  induction parts generalizing region with
  | nil =>
    obtain rfl := Except.ok.inj h
    exact ⟨by simp [body, Instruction.encodeAll], nofun⟩
  | cons part parts ih =>
    obtain ⟨middle, hfield, hrest⟩ := bind_eq_ok.mp h
    rw [Region.field_eq_append] at hfield
    obtain ⟨hfirst, hmiddle⟩ := Region.append_eq_ok hfield
    obtain ⟨hwords, hothers⟩ := ih hrest
    refine ⟨?_, List.forall_mem_cons.mpr ⟨hfirst, hothers⟩⟩
    rw [hwords, hmiddle, List.append_assoc, body, body, List.flatMap_cons,
      Instruction.encodeAll_append]

/-- The words of fields that were written stand for their instructions. -/
lemma fits_of_writeFields {region next : Region} {parts : List FieldLayout}
    (h : writeFields region chunks mode parts = .ok next) :
    ∀ i ∈ body chunks mode parts, i.Fits := by
  intro i hi
  obtain ⟨part, hpart, hi⟩ := List.mem_flatMap.mp hi
  obtain ⟨last, hemission⟩ := (words_of_writeFields h).2 part hpart
  exact (FieldLayout.writes_of_emission hemission).2.2 i hi

/-- Fields that were written to a region cover their bytes of the buffer, field by field. -/
lemma writes_of_writeFields {region next : Region} {parts : List FieldLayout}
    (h : writeFields region chunks mode parts = .ok next) :
    (∀ part ∈ parts, 0 < part.lineBytes) ∧
      ((body chunks mode parts).flatMap Instruction.writes).map some =
        (parts.flatMap FieldLayout.offsets).map ((ScatterList.addresses chunks)[·]?) := by
  have hends := (words_of_writeFields h).2
  constructor
  · intro part hpart
    obtain ⟨last, hemission⟩ := hends part hpart
    exact (FieldLayout.writes_of_emission hemission).1
  · rw [body, List.flatMap_assoc, List.map_flatMap, List.map_flatMap]
    refine List.flatMap_congr fun part hpart => ?_
    obtain ⟨last, hemission⟩ := hends part hpart
    exact (FieldLayout.writes_of_emission hemission).2.1

/-- Behind the instructions in front of a tail stands the jump to where the tail was pointed. -/
lemma snapshot_retarget {program : Program} {l : List Instruction}
    (hfront : program.memory.words.take program.tail = Instruction.encodeAll l)
    (htail : program.HasTail) (target : UInt32) (irq : Bool) :
    (program.retarget target irq).snapshot =
      Instruction.encodeAll (l ++ [Instruction.jumpTo target irq]) := by
  obtain ⟨hcontrol, haddress⟩ := words_tail_retarget htail target irq
  rw [snapshot, tail_retarget, List.take_add_one, List.take_add_one, take_words_retarget, hfront,
    hcontrol, haddress, Instruction.encodeAll_append, List.append_assoc]
  rfl

/-- Instructions in front of the tail are read back, and then the tail. -/
lemma instructions_retarget {program : Program} {l : List Instruction} (hfits : ∀ i ∈ l, i.Fits)
    (hfront : program.memory.words.take program.tail = Instruction.encodeAll l)
    (htail : program.HasTail) (target : UInt32) (irq : Bool) :
    (program.retarget target irq).instructions = l ++ [Instruction.jumpTo target irq] := by
  have hall : ∀ i ∈ l ++ [Instruction.jumpTo target irq], i.Fits :=
    List.forall_mem_append.mpr
      ⟨hfits, List.forall_mem_singleton.mpr (Instruction.fits_jumpTo target irq)⟩
  have hread := Instruction.decodeAll_encodeAll hall []
  rw [List.append_nil] at hread
  rw [instructions, snapshot_retarget hfront htail, hread]
  exact List.append_nil _

/-- In front of the tail of a program that was written stand the words of its fields. -/
lemma front_of_write {memory : CoherentMemory} {layout : ProgramLayout} {program : Program}
    (h : write memory chunks layout mode = .ok program) :
    program.memory.words.take program.tail =
        Instruction.encodeAll (body chunks mode layout.parts) ∧
      ∀ i ∈ body chunks mode layout.parts, i.Fits := by
  obtain ⟨region, hregion, -, -, rfl⟩ := write_eq_ok.mp h
  refine ⟨?_, fits_of_writeFields hregion⟩
  rw [tail_retarget, take_words_retarget, filled, Region.position, List.take_left,
    (words_of_writeFields hregion).1]
  rfl

/-- **The instructions of a program are those of its fields and then the tail.** -/
theorem instructions_of_write {memory : CoherentMemory} {layout : ProgramLayout} {program : Program}
    (h : write memory chunks layout mode = .ok program) :
    ∃ l, program.instructions = l ++ [Instruction.jumpTo program.tailAddress false] ∧
      (∀ part ∈ layout.parts, 0 < part.lineBytes) ∧
      (l.flatMap Instruction.writes).map some =
        (layout.parts.flatMap FieldLayout.offsets).map ((ScatterList.addresses chunks)[·]?) := by
  obtain ⟨hfront, hfits⟩ := front_of_write h
  have htail := hasTail_of_write h
  obtain ⟨region, hregion, -, -, rfl⟩ := write_eq_ok.mp h
  obtain ⟨hpos, hwrites⟩ := writes_of_writeFields hregion
  rw [tail_retarget, take_words_retarget] at hfront
  exact ⟨_, instructions_retarget hfits hfront (hasTail_retarget.mp htail) _ _, hpos, hwrites⟩

/-! ## The frame -/

variable {δ : Type} [DmaBackend δ]

/-- A program covers as many bytes as it writes. -/
lemma Covers.length_writes {program : Program} {size : Nat} (h : program.Covers chunks size) :
    program.writes.length = size := by
  obtain ⟨offsets, hperm, hwrites⟩ := h
  have hlength := congrArg List.length hwrites
  rw [List.length_map, List.length_map, hperm.length_eq, List.length_range] at hlength
  exact hlength

/-- **A program covers the lines that the fields of its frame have together.** It covers the whole
image of the frame unless this holds both fields and has an odd height; the last line is then never
written, although it counts as captured.

This holds of every geometry that has a layout, so of all those that negotiation arrives at, and of
every scatter list for which there is a program.

**Proof sketch.** The program writes the bytes of its fields, and its tail none. Fields of both
kinds have twice half of the height in lines, which is the height just if it is even. -/
theorem covers_of_build {dma dma' : δ} {g : Geometry} {layout : ProgramLayout} {program : Program}
    (hlayout : g.layout = .ok layout)
    (h : build dma chunks layout mode = .ok (.ok program, dma')) :
    program.Covers chunks (g.lineBytes * g.capturedLines) ∧
      (program.Covers chunks g.imageBytes ↔ (g.field.hasBoth = true → g.height % 2 = 0)) := by
  obtain ⟨hparts, hlineBytes⟩ := Geometry.parts_of_layout hlayout
  obtain ⟨memory, hwrite⟩ := exists_write_of_build h
  obtain ⟨l, hinstructions, hpos, hwrites⟩ := instructions_of_write hwrite
  have hpos : 0 < g.lineBytes := by
    obtain ⟨part, hpart⟩ := List.exists_mem_of_ne_nil _ hparts
    rw [← hlineBytes part hpart]
    exact hpos part hpart
  have hcovers : program.Covers chunks (g.lineBytes * g.capturedLines) := by
    refine ⟨_, Geometry.offsets_perm_range hlayout, ?_⟩
    rw [writes, hinstructions, List.flatMap_append, ← hwrites, List.flatMap_singleton]
    show (l.flatMap Instruction.writes ++ []).map some = _
    rw [List.append_nil]
  refine ⟨hcovers, ?_⟩
  rw [← Geometry.capturedLines_eq_height]
  constructor
  · intro himage
    have hsizes : g.lineBytes * g.capturedLines = g.lineBytes * g.height :=
      hcovers.length_writes.symm.trans himage.length_writes
    exact Nat.eq_of_mul_eq_mul_left hpos hsizes
  · intro hlines
    rw [Geometry.imageBytes, ← hlines]
    exact hcovers

/-- Negotiation leaves a frame of both fields at 33 lines, of which a program writes 32. -/
theorem covers_of_build_interlaced :
    ∃ norm ∈ Norm.all, ∃ g layout program dma,
      FormatRequest.negotiate ⟨48, 33, fourcc 'Y' 'U' 'Y' 'V', .interlaced⟩ norm = .ok (.ok g) ∧
      g.layout = .ok layout ∧
      build HostDma.create [⟨0x10001000, 3168⟩] layout .omit = .ok (.ok program, dma) ∧
      (g.imageBytes, g.lineBytes * g.capturedLines) = (3168, 3072) ∧
      program.Covers [⟨0x10001000, 3168⟩] 3072 ∧ ¬program.Covers [⟨0x10001000, 3168⟩] 3168 := by
  let format : PixelFormat :=
    ⟨"4:2:2, packed, YUYV", fourcc 'Y' 'U' 'Y' 'V', PixelFormat.yuy2, 16⟩
  let g : Geometry := ⟨48, 33, format, .interlaced⟩
  let layout : ProgramLayout := ⟨some 0, some 96, 96, 96, 16⟩
  have hlayout : g.layout = .ok layout := by decide +kernel
  have hbuilt : (build HostDma.create [⟨0x10001000, 3168⟩] layout .omit).toOption.any
      (fun answer => answer.1.toOption.isSome) = true := by decide +kernel
  obtain ⟨answer, hanswer, hmade⟩ := (Option.any_eq_true _ _).mp hbuilt
  obtain ⟨program, hprogram⟩ := Option.isSome_iff_exists.mp hmade
  have hbuild : build HostDma.create [⟨0x10001000, 3168⟩] layout .omit =
      .ok (.ok program, answer.2) := by
    rw [toOption_eq_some.mp hanswer, ← toOption_eq_some.mp hprogram]
  have hnorm : Norm.initial ∈ Norm.all :=
    List.mem_cons_of_mem _ (List.mem_cons_of_mem _ List.mem_cons_self)
  have hnegotiate : FormatRequest.negotiate ⟨48, 33, fourcc 'Y' 'U' 'Y' 'V', .interlaced⟩
      Norm.initial = .ok (.ok g) := by decide +kernel
  have hlines : g.lineBytes * g.capturedLines = 3072 := by decide +kernel
  have himage : g.imageBytes = 3168 := by decide +kernel
  obtain ⟨hcovers, hwhole⟩ := covers_of_build hlayout hbuild
  rw [hlines] at hcovers
  rw [himage] at hwhole
  have hodd : ¬(g.field.hasBoth = true → g.height % 2 = 0) := by decide +kernel
  exact ⟨Norm.initial, hnorm, g, layout, program, answer.2, hnegotiate, hlayout, hbuild,
    by rw [himage, hlines], hcovers, fun h => hodd (hwhole.mp h)⟩

end Program

end VideoCapture
