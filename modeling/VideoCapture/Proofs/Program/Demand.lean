import VideoCapture.Proofs.Field.Meetings
import VideoCapture.Proofs.Program.Room

/-!
# What a program demands

The memory of a program is allocated from an estimate that looks at nothing but the shape of the
frame, and for a buffer in pages the estimate is enough. Here the chunks are any, and the memory is
any. Whether the program is written depends on two things only. Its instructions have to fit: those
of the fields, one for each chunk that a line meets, and the tail. And each chunk met has to begin
at an address that the bus can carry. If one of the two fails, writing breaks off at the assertion
that guards it, and at no other.

## Main definitions

* `VideoCapture.Fault.Overrun` — the faults that guard the memory of a program and the bus.
* `VideoCapture.ProgramLayout.demand` — the instructions of a program.
* `VideoCapture.ProgramLayout.Fits` — a program can be written to memory.
* `VideoCapture.ProgramLayout.Outgrows` — it cannot, and the memory is there.

## Main results

* `VideoCapture.Program.writeFields_ends` — how writing the fields of a frame ends.
* `VideoCapture.Program.write_ends`, `VideoCapture.Program.build_ends` — how writing and building a
  program end.
-/

set_option autoImplicit false

namespace VideoCapture

/-- A program outgrew its memory, or an address the bus. -/
def Fault.Overrun : Fault → Prop
  | .instructionOverflow _ _ | .programOverflow _ _ | .addressTooWide _ | .numberTooWide => True
  | _ => False

/-- Every chunk that fields meet begins at an address that the bus can carry. -/
def FieldLayout.AllNear (parts : List FieldLayout) (chunks : ScatterList) : Prop :=
  ∀ part ∈ parts, ∀ chunk ∈ part.met chunks, chunk.Near

namespace ProgramLayout

/-- The instructions of the fields of a program. -/
def bodyDemand (layout : ProgramLayout) (chunks : ScatterList) : Nat :=
  (layout.parts.map fun part => part.demand chunks).sum

/-- The instructions of a program: those of its fields, and the tail. -/
def demand (layout : ProgramLayout) (chunks : ScatterList) : Nat :=
  layout.bodyDemand chunks + 1

/-- A program can be written to memory: what is met is near, the instructions are no more than there
is room for, and the tail behind those of the fields has an address. -/
structure Fits (layout : ProgramLayout) (chunks : ScatterList) (memory : CoherentMemory) :
    Prop where
  /-- All chunks met are near. -/
  near : FieldLayout.AllNear layout.parts chunks
  /-- There is room for all instructions. -/
  room : 2 * layout.demand chunks ≤ memory.words.length
  /-- The tail has an address. -/
  tail : Program.TailInReach memory (2 * layout.bodyDemand chunks)

variable {δ : Type} [DmaBackend δ]

/-- Memory is handed out for a program, and the program does not fit. -/
def Outgrows (layout : ProgramLayout) (dma : δ) (chunks : ScatterList) : Prop :=
  ∃ memory dma', DmaBackend.allocate dma (Instruction.bytes * layout.allowance) =
    (.ok memory, dma') ∧ ¬layout.Fits chunks memory

end ProgramLayout

variable {δ : Type} [DmaBackend δ] {chunks : ScatterList}

/-- How writing a field ends, in a buffer that is long enough.

**Proof sketch.** The instructions are emitted before they are written. Either all chunks that are
met are near and as many instructions come out as the layout demands, so it is down to the room
whether they are written; or a chunk is not, and the emission or the room ends the field in a fault.
-/
lemma Region.field_ends {layout : FieldLayout} (hreach : chunks.InReach)
    (h : layout.Inside chunks.size) (region : Region) (mode : LineOffset) :
    ((∀ chunk ∈ layout.met chunks, chunk.Near) ∧
        region.position + 2 * layout.demand chunks ≤ region.capacity ∧
        ∃ next, region.field layout chunks mode = .ok next ∧ next.capacity = region.capacity ∧
          next.position = region.position + 2 * layout.demand chunks) ∨
      ¬((∀ chunk ∈ layout.met chunks, chunk.Near) ∧
          region.position + 2 * layout.demand chunks ≤ region.capacity) ∧
        ∃ fault, region.field layout chunks mode = .error fault ∧ fault.Overrun := by
  rw [field_eq_append]
  obtain ⟨hnear, l, next, hemission, hlength⟩ | ⟨hfar, l, address, hemission⟩ :=
    FieldLayout.emission_cases hreach h mode
  · rw [hemission, append, ← hlength, Instruction.length_encodeAll]
    split
    · next hroom =>
      refine .inl ⟨hnear, hroom, _, rfl, rfl, ?_⟩
      rw [position, List.length_append, Instruction.length_encodeAll]
      rfl
    · next hfull => exact .inr ⟨fun hboth => hfull hboth.2, _, rfl, trivial⟩
  · refine .inr ⟨fun hboth => hfar hboth.1, ?_⟩
    rw [hemission, append]
    split <;> exact ⟨_, rfl, trivial⟩

namespace Program

/-- **How writing the fields of a frame ends**, in a buffer that is long enough.

**Proof sketch.** Induction on the fields. What one of them leaves of the region is left for the
others. -/
theorem writeFields_ends {parts : List FieldLayout} (hreach : chunks.InReach)
    (h : ∀ part ∈ parts, part.Inside chunks.size) (region : Region)
    (hregion : region.position ≤ region.capacity) (mode : LineOffset) :
    (FieldLayout.AllNear parts chunks ∧
        region.position + 2 * (parts.map fun part => part.demand chunks).sum ≤ region.capacity ∧
        ∃ next, writeFields region chunks mode parts = .ok next ∧
          next.position = region.position + 2 * (parts.map fun part => part.demand chunks).sum) ∨
      ¬(FieldLayout.AllNear parts chunks ∧
          region.position + 2 * (parts.map fun part => part.demand chunks).sum ≤
            region.capacity) ∧
        ∃ fault, writeFields region chunks mode parts = .error fault ∧ fault.Overrun := by
  induction parts generalizing region with
  | nil => exact .inl ⟨nofun, hregion, region, rfl, rfl⟩
  | cons part parts ih =>
    obtain ⟨hfirst, hothers⟩ := List.forall_mem_cons.mp h
    rw [writeFields, FieldLayout.AllNear, List.forall_mem_cons, List.map_cons, List.sum_cons]
    obtain ⟨hnear, hroom, middle, hfield, hcapacity, hposition⟩ | ⟨hover, fault, hfield, hfault⟩ :=
      Region.field_ends hreach hfirst region mode
    · rw [hfield]
      obtain ⟨hnears, hrooms, next, hrest, hnext⟩ | ⟨hover, fault, hrest, hfault⟩ :=
        ih hothers middle (by omega)
      · exact .inl ⟨⟨hnear, hnears⟩, by omega, next, hrest, by omega⟩
      · refine .inr ⟨fun hall => hover ⟨hall.1.2, ?_⟩, fault, hrest, hfault⟩
        have hsum := hall.2
        omega
    · rw [hfield]
      refine .inr ⟨fun hall => hover ⟨hall.1.1, ?_⟩, fault, rfl, hfault⟩
      have hsum := hall.2
      omega

/-- **How writing a program ends**, in a buffer that is long enough: the program is written if it
fits, and otherwise it overruns its memory or the bus.

**Proof sketch.** The fields end with as many instructions as they demand, or overrun. Behind them
the tail has room or not, and an address or not, and each of these is a part of fitting. -/
theorem write_ends {layout : ProgramLayout} (hreach : chunks.InReach)
    (h : ∀ part ∈ layout.parts, part.Inside chunks.size) (memory : CoherentMemory)
    (mode : LineOffset) :
    (layout.Fits chunks memory ∧ ∃ program, write memory chunks layout mode = .ok program) ∨
      ¬layout.Fits chunks memory ∧
        ∃ fault, write memory chunks layout mode = .error fault ∧ fault.Overrun := by
  have hblank : (Region.blank memory.words.length).position = 0 := rfl
  have hcapacity : (Region.blank memory.words.length).capacity = memory.words.length := rfl
  have hwords : memory.size = 4 * memory.words.length := rfl
  have hdemand : layout.demand chunks = layout.bodyDemand chunks + 1 := rfl
  have hends := writeFields_ends hreach h (Region.blank memory.words.length) (Nat.zero_le _) mode
  rw [hblank, hcapacity, Nat.zero_add, ← ProgramLayout.bodyDemand] at hends
  obtain ⟨hnear, -, region, hfields, hposition⟩ | ⟨hover, fault, hfields, hfault⟩ := hends
  · rw [write_of_writeFields hfields, hposition]
    split
    · next hsize =>
      refine .inr ⟨fun hfits => ?_, _, rfl, trivial⟩
      have hroom := hfits.room
      omega
    · split
      · next hreach => exact .inl ⟨⟨hnear, by omega, hreach⟩, _, rfl⟩
      · next hreach => exact .inr ⟨fun hfits => hreach hfits.tail, _, rfl, trivial⟩
  · refine .inr ⟨fun hfits => hover ⟨hfits.near, ?_⟩, fault, ?_, hfault⟩
    · have hroom := hfits.room
      omega
    · rw [write, hfields]
      rfl

/-- **How building a program ends**, in a buffer that is long enough: with a program or for want of
memory, unless there is memory and the program does not fit.

**Proof sketch.** Without memory nothing is written. With memory the program is written into it, or
does not fit. -/
theorem build_ends {layout : ProgramLayout} (hreach : chunks.InReach) (hparts : layout.parts ≠ [])
    (h : ∀ part ∈ layout.parts, part.Inside chunks.size) (dma : δ) (mode : LineOffset) :
    (¬layout.Outgrows dma chunks ∧
        ∃ built dma', build dma chunks layout mode = .ok (built, dma')) ∨
      layout.Outgrows dma chunks ∧
        ∃ fault, build dma chunks layout mode = .error fault ∧ fault.Overrun := by
  have hfields : ¬layout.parts.isEmpty = true := fun hnil => hparts (List.isEmpty_iff.mp hnil)
  unfold ProgramLayout.Outgrows
  simp only [build, if_neg hfields]
  rcases DmaBackend.allocate dma (Instruction.bytes * layout.allowance) with
    ⟨error | memory, dma'⟩
  · refine .inl ⟨?_, _, _, rfl⟩
    rintro ⟨memory, dma', hmemory, -⟩
    cases hmemory
  · obtain ⟨hfits, program, hwrite⟩ | ⟨hover, fault, hwrite, hfault⟩ :=
      write_ends hreach h memory mode
    · refine .inl ⟨?_, .ok program, dma', ?_⟩
      · rintro ⟨_, _, ⟨⟩, hover⟩
        exact hover hfits
      · simp only [hwrite]
        rfl
    · refine .inr ⟨⟨memory, dma', rfl, hover⟩, fault, ?_, hfault⟩
      simp only [hwrite]
      rfl

end Program

end VideoCapture
