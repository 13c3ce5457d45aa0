import VideoCapture.Proofs.Buffer.Contents
import VideoCapture.Proofs.Program.Coverage

/-!
# Programs that are kept

A buffer that is prepared again for the geometry it is prepared for already keeps its program. The
program was written for the chunks the buffer still has, so its words could only be stale if they
depended on more than the chunks, the layout of the geometry and whether lines report their offset.
They do not: neither the memory nor where the tail points shows in front of the tail, and more
memory than there was is memory enough. So a program that is kept is as good as a new one.

## Main definitions

* `VideoCapture.Program.Fresh` — a program is as good as one that is built anew.
* `VideoCapture.Setup.Written` — a program was written for what it is held with.

## Main results

* `VideoCapture.Program.exists_write_of_length_le` — what can be written can be written to more
  memory.
* `VideoCapture.Setup.Written.fresh` — programs stay as good as new.
* `VideoCapture.CaptureBuffer.prepare_of_same` — what is kept when a buffer is prepared again.
-/

set_option autoImplicit false

namespace VideoCapture

variable {chunks : ScatterList} {mode : LineOffset}

/-! ## More memory -/

/-- A field that can be written to a region can be written to one with more room. -/
lemma Region.field_of_capacity_le {region next : Region} {layout : FieldLayout} {capacity : Nat}
    (h : region.field layout chunks mode = .ok next) (hroom : region.capacity ≤ capacity) :
    Region.field { region with capacity } layout chunks mode = .ok { next with capacity } ∧
      next.capacity = region.capacity := by
  rw [field_eq_append, append] at h ⊢
  split at h
  · next hfits =>
    obtain ⟨cursor, houtcome, hnext⟩ := bind_eq_ok.mp h
    obtain rfl := pure_eq_ok.mp hnext
    refine ⟨(if_pos (Nat.le_trans hfits hroom)).trans ?_, rfl⟩
    rw [houtcome]
    rfl
  · cases h

namespace Program

variable {program : Program} {l : List Instruction}

/-- So can all fields of a frame.

**Proof sketch.** Induction on the fields. -/
lemma writeFields_of_capacity_le {region next : Region} {parts : List FieldLayout} {capacity : Nat}
    (h : writeFields region chunks mode parts = .ok next) (hroom : region.capacity ≤ capacity) :
    writeFields { region with capacity } chunks mode parts = .ok { next with capacity } := by
  induction parts generalizing region with
  | nil =>
    obtain rfl := Except.ok.inj h
    rfl
  | cons part parts ih =>
    obtain ⟨middle, hfield, hrest⟩ := bind_eq_ok.mp h
    obtain ⟨hwider, hcapacity⟩ := Region.field_of_capacity_le hfield hroom
    exact bind_eq_ok.mpr ⟨_, hwider, ih hrest (hcapacity ▸ hroom)⟩

/-- **A program that can be written can be written to more memory**, if its tail has an address
there. -/
theorem exists_write_of_length_le {memory memory' : CoherentMemory} {layout : ProgramLayout}
    (h : write memory chunks layout mode = .ok program)
    (hroom : memory.words.length ≤ memory'.words.length)
    (hreach : TailInReach memory' program.tail) :
    ∃ program', write memory' chunks layout mode = .ok program' := by
  obtain ⟨region, hregion, htail, -, rfl⟩ := write_eq_ok.mp h
  have hwider := writeFields_of_capacity_le hregion hroom
  have hmore : memory.size ≤ memory'.size := Nat.mul_le_mul_left 4 hroom
  exact ⟨_, write_eq_ok.mpr ⟨_, hwider, Nat.le_trans htail hmore, hreach, rfl⟩⟩

/-- A program has all the memory that it was written to. -/
lemma length_words_of_write {memory : CoherentMemory} {layout : ProgramLayout}
    (h : write memory chunks layout mode = .ok program) :
    program.memory.words.length = memory.words.length := by
  obtain ⟨region, -, hroom, -, rfl⟩ := write_eq_ok.mp h
  have hwords : memory.size = 4 * memory.words.length := rfl
  rw [length_words_retarget, length_words_filled (by omega)]

/-- It has it wherever its tail points. -/
lemma length_words_untied (program : Program) :
    program.untied.memory.words.length = program.memory.words.length :=
  length_words_retarget program _ _

/-! ## Programs as good as new -/

/-- A program is as good as one that is built anew for the same chunks and layout. -/
structure Fresh (program : Program) (chunks : ScatterList) (layout : ProgramLayout)
    (mode : LineOffset) : Prop where
  /-- Whatever is built has the same words in front of its tail. -/
  same : ∀ {ε : Type} [DmaBackend ε] {dma dma' : ε} {anew : Program},
    build dma chunks layout mode = .ok (.ok anew, dma') → anew.tail = program.tail ∧
      anew.memory.words.take anew.tail = program.memory.words.take program.tail
  /-- It is built if the memory handed out for it is not smaller and has an address for the tail. -/
  exists_build : ∀ {ε : Type} [DmaBackend ε] {dma dma' : ε} {memory : CoherentMemory},
    DmaBackend.allocate dma (Instruction.bytes * layout.allowance) = (.ok memory, dma') →
    program.memory.words.length ≤ memory.words.length →
    Program.TailInReach memory program.tail →
    ∃ anew, build dma chunks layout mode = .ok (.ok anew, dma')

/-- The tail stands behind the instructions. -/
lemma Contains.tail_eq (h : program.Contains l) (htail : program.HasTail) :
    program.tail = 2 * l.length := by
  have hlength := congrArg List.length h.front
  rw [List.length_take, Instruction.length_encodeAll] at hlength
  unfold HasTail at htail
  omega

/-- **A program that was written is as good as new**, wherever its tail is pointed.

**Proof sketch.** Both programs contain the same instructions in front of their tails, wherever
these point, so they agree on the tail and on all words before it. What is written does not depend
on the memory but for its room, so the new one is written where the old one was. -/
theorem fresh_of_write {memory : CoherentMemory} {layout : ProgramLayout} {written : Program}
    (hparts : layout.parts ≠ []) (h : write memory chunks layout mode = .ok written)
    (huntied : written.untied = program.untied) : program.Fresh chunks layout mode where
  same {ε _ dma dma' anew} hbuild := by
    obtain ⟨_, hanew⟩ := exists_write_of_build hbuild
    have hkept : program.Contains (body chunks mode layout.parts) := by
      have hwritten : written.untied.Contains (body chunks mode layout.parts) :=
        contains_retarget.mpr (contains_of_write h)
      exact contains_retarget.mp (huntied ▸ hwritten)
    have hroom : program.HasTail := by
      have hwritten : written.untied.HasTail := hasTail_untied.mpr (hasTail_of_write h)
      exact hasTail_untied.mp (huntied ▸ hwritten)
    have hnew := contains_of_write hanew
    exact ⟨(hnew.tail_eq (hasTail_of_write hanew)).trans (hkept.tail_eq hroom).symm,
      hnew.front.trans hkept.front.symm⟩
  exists_build {ε _ dma dma' memory'} hallocate hroom hreach := by
    have hlength : program.memory.words.length = memory.words.length := by
      rw [← length_words_of_write h, ← length_words_untied, ← huntied, length_words_untied]
    have htail : written.untied.tail = program.untied.tail := congrArg (fun p => p.tail) huntied
    obtain ⟨anew, hwrite⟩ := exists_write_of_length_le h (hlength ▸ hroom)
      (show TailInReach memory' written.untied.tail from htail ▸ hreach)
    have hfields : ¬layout.parts.isEmpty = true := fun hnil => hparts (List.isEmpty_iff.mp hnil)
    refine ⟨anew, ?_⟩
    rw [build, if_neg hfields, hallocate]
    exact bind_eq_ok.mpr ⟨anew, hwrite, rfl⟩

end Program

/-! ## Buffers -/

namespace Setup

variable {setup : Setup}

/-- The program of a setup was written for its geometry and its chunks, and its tail may have been
pointed elsewhere. -/
def Written (mode : LineOffset) (setup : Setup) : Prop :=
  ∃ layout memory program, setup.geometry.layout = .ok layout ∧
    Program.write memory setup.chunks layout mode = .ok program ∧
    program.untied = setup.program.untied

/-- Where the tail points does not matter. -/
lemma written_untied : setup.untied.Written mode ↔ setup.Written mode := by
  have htwice : setup.program.untied.untied = setup.program.untied :=
    Program.untied_retarget _ _ _
  simp only [Written, untied, htwice]

/-- **Such a program is as good as new** for the geometry and the chunks it is held with. -/
theorem Written.fresh (h : setup.Written mode) :
    ∃ layout, setup.geometry.layout = .ok layout ∧
      setup.program.Fresh setup.chunks layout mode := by
  obtain ⟨layout, memory, program, hlayout, hwrite, huntied⟩ := h
  exact ⟨layout, hlayout,
    Program.fresh_of_write (Geometry.parts_of_layout hlayout).1 hwrite huntied⟩

end Setup

namespace CaptureBuffer

variable {δ : Type} [DmaBackend δ] {dma dma' : δ} {index : Nat} {g : Geometry} {n : Norm}
  {buffer buffer' : CaptureBuffer}

/-- A program that is built is written for what it is asked for. -/
lemma written_of_buildProgram {program : Program}
    (h : buildProgram dma chunks g mode = .ok (.ok program, dma')) :
    Setup.Written mode { geometry := g, norm := n, chunks, program } := by
  obtain ⟨-, hbuilt, -⟩ | ⟨-, hbuilt, -⟩ | ⟨-, layout, hlayout, hbuild⟩ := buildProgram_cases h
  · cases hbuilt
  · cases hbuilt
  · obtain ⟨memory, hwrite⟩ := Program.exists_write_of_build hbuild
    exact ⟨layout, memory, program, hlayout, hwrite, rfl⟩

/-- **Preparing a buffer again for its geometry keeps everything** but the norm, and asks for
nothing. -/
theorem prepare_of_same {setup : Setup} (hsetup : buffer.setup = some setup)
    (hsame : setup.geometry = g)
    (h : buffer.prepare dma index g n mode = .ok (.ok (), buffer', dma')) :
    buffer' = { buffer with state := .prepared, setup := some { setup with norm := n } } ∧
      dma' = dma := by
  subst hsame
  unfold prepare at h
  by_cases hflight : buffer.state.inFlight = true
  · rw [if_pos hflight] at h
    cases h
  · rw [if_neg hflight] at h
    split at h
    · cases (Prod.mk.inj (pure_eq_ok.mp h)).1
    · simp only [hsetup, if_true, pure_eq_ok, Prod.mk.injEq, true_and] at h
      exact ⟨h.1.symm, h.2.symm⟩

end CaptureBuffer

end VideoCapture
