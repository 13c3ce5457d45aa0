import VideoCapture.Proofs.Buffer.Preparation

/-!
# What a program was written for

A program is written for a geometry and for chunks, and a buffer that holds it remembers both. Where
the tail of the program points changes while the buffer is scheduled, and the words in front of the
tail do not. So those words tell at any time which geometry the program captures: they are the
instructions that the fields of the geometry emit for the chunks, the same as if the program was
built anew.

## Main definitions

* `VideoCapture.Program.Contains` — the instructions that stand in front of a program's tail.
* `VideoCapture.Setup.Faithful` — a program is the one for the geometry that is remembered with it.

## Main results

* `VideoCapture.Program.contains_of_write` — what is written for the fields of a frame.
* `VideoCapture.CaptureBuffer.exists_contains_of_buildProgram` — a program is built for the geometry
  that it is asked for.
-/

set_option autoImplicit false

namespace VideoCapture

variable {chunks : ScatterList} {mode : LineOffset}

/-! ## Programs -/

namespace Program

variable {program : Program} {l : List Instruction}

/-- Some instructions stand in the memory of a program in front of its tail, and nothing else. -/
structure Contains (program : Program) (l : List Instruction) : Prop where
  /-- The words in front of the tail are theirs. -/
  front : program.memory.words.take program.tail = Instruction.encodeAll l
  /-- The words stand for them. -/
  fits : ∀ i ∈ l, i.Fits

/-- Where the tail points does not show in front of it. -/
lemma contains_retarget {target : UInt32} {irq : Bool} :
    (program.retarget target irq).Contains l ↔ program.Contains l := by
  have htake := program.take_words_retarget target irq
  constructor
  · rintro ⟨hfront, hfits⟩
    exact ⟨htake.symm.trans hfront, hfits⟩
  · rintro ⟨hfront, hfits⟩
    exact ⟨htake.trans hfront, hfits⟩

/-- **The instructions that the fields of a frame emit stand in its program.** -/
theorem contains_of_write {memory : CoherentMemory} {layout : ProgramLayout}
    (h : write memory chunks layout mode = .ok program) :
    program.Contains (body chunks mode layout.parts) :=
  ⟨(front_of_write h).1, (front_of_write h).2⟩

end Program

/-! ## Buffers -/

/-- The program of a setup is the one for its geometry and its chunks. -/
def Setup.Faithful (mode : LineOffset) (setup : Setup) : Prop :=
  ∃ layout, setup.geometry.layout = .ok layout ∧
    setup.program.Contains (Program.body setup.chunks mode layout.parts)

/-- Where the tail of its program points does not matter. -/
lemma Setup.faithful_untied {setup : Setup} : setup.untied.Faithful mode ↔ setup.Faithful mode :=
  exists_congr fun _ => and_congr_right fun _ => Program.contains_retarget

namespace CaptureBuffer

variable {δ : Type} [DmaBackend δ] {dma dma' : δ} {g : Geometry}

/-- The program that a buffer holds, if it does, is the one for its geometry. -/
def Faithful (mode : LineOffset) (buffer : CaptureBuffer) : Prop :=
  ∀ setup, buffer.setup = some setup → setup.Faithful mode

/-- **A program is built for the geometry and the chunks that it is asked for.** -/
lemma exists_contains_of_buildProgram {program : Program}
    (h : buildProgram dma chunks g mode = .ok (.ok program, dma')) :
    ∃ layout, g.layout = .ok layout ∧ program.Contains (Program.body chunks mode layout.parts) := by
  obtain ⟨-, hbuilt, -⟩ | ⟨-, hbuilt, -⟩ | ⟨-, layout, hlayout, hbuild⟩ := buildProgram_cases h
  · cases hbuilt
  · cases hbuilt
  · obtain ⟨memory, hwrite⟩ := Program.exists_write_of_build hbuild
    exact ⟨layout, hlayout, Program.contains_of_write hwrite⟩

end CaptureBuffer

end VideoCapture
