import VideoCapture.Proofs.Field.Crossings
import VideoCapture.Proofs.Program.Room

/-!
# The estimate is an allowance

The memory of a program is allocated from an estimate that counts a crossing into a new chunk for
each page of a field's bytes. The chunks of a buffer need not be pages for that: it is enough that
those in the middle are not smaller than one. Then the instructions of all fields and the tail never
number more than estimated, and a program in memory as large as asked for never outgrows it. What
can still break the building off is a chunk that the bus does not reach, or a number that 32 bits
do not: an offset behind padding, or the address of the tail.

## Main definitions

* `VideoCapture.ProgramLayout.Oversteps` — 32 bits do not suffice for a program.

## Main results

* `VideoCapture.Program.length_body_le` — fields emit what is allowed for them.
* `VideoCapture.Program.writeFields_cases` — how writing the fields of a frame ends.
* `VideoCapture.Program.length_instructions_le_estimate` — a program keeps to the estimate, and
  building it never overflows.
-/

set_option autoImplicit false

namespace VideoCapture

variable {chunks : ScatterList} {mode : LineOffset} {parts : List FieldLayout}

/-- The fields of a frame share the length of their lines. -/
lemma ProgramLayout.lineBytes_of_mem_parts {layout : ProgramLayout} {part : FieldLayout}
    (h : part ∈ layout.parts) : part.lineBytes = layout.lineBytes := by
  simp only [parts, List.mem_append, Option.mem_toList, Option.map_eq_some_iff] at h
  obtain ⟨_, -, rfl⟩ | ⟨_, -, rfl⟩ := h <;> rfl

/-- Fields emit no more than what is allowed for each of them.

**Proof sketch.** Along the fields, with `FieldLayout.length_emission_le` for each. -/
lemma Program.length_body_le (hcoarse : chunks.Coarse)
    (hparts : ∀ part ∈ parts, 0 < part.lineBytes ∧ part.lineBytes < pageSize) (mode : LineOffset) :
    (body chunks mode parts).length ≤ (parts.map FieldLayout.allowance).sum := by
  induction parts with
  | nil => exact Nat.le_refl 0
  | cons part parts ih =>
    obtain ⟨⟨hpos, hless⟩, hothers⟩ := List.forall_mem_cons.mp hparts
    rw [body, List.flatMap_cons, List.length_append, List.map_cons, List.sum_cons]
    exact Nat.add_le_add (FieldLayout.length_emission_le hcoarse hpos hless mode) (ih hothers)

/-- In a buffer that is long enough, a field is broken off by a chunk that the bus does not reach,
or by the padding behind one of its lines. -/
def FieldLayout.Exceeds (chunks : ScatterList) (layout : FieldLayout) (fault : Fault) : Prop :=
  (∃ address, fault = .addressTooWide address) ∨
    fault = .numberTooWide ∧ ∃ n < layout.lines, layout.Overflows chunks n

/-- How writing a field ends in a region with room for it, if the buffer is long enough. -/
lemma Region.field_cases {region : Region} {layout : FieldLayout} (hpos : 0 < layout.lineBytes)
    (hless : layout.lineBytes < pageSize) (hspans : layout.Spans (ScatterList.size chunks))
    (hroom : region.position + 2 * (layout.emission chunks mode).instructions.length ≤
      region.capacity) :
    (∃ fault, region.field layout chunks mode = .error fault ∧ layout.Exceeds chunks fault) ∨
    region.field layout chunks mode = .ok { region with
        words := region.words ++
          Instruction.encodeAll (layout.emission chunks mode).instructions } ∧
      ∀ i ∈ (layout.emission chunks mode).instructions, i.Fits := by
  rw [field_eq_append, append, if_pos (by rwa [Instruction.length_encodeAll])]
  cases houtcome : (layout.emission chunks mode).outcome with
  | error fault =>
    exact .inl ⟨fault, rfl, FieldLayout.tooWide_of_emission hpos hless hspans houtcome⟩
  | ok next =>
    have hemission : layout.emission chunks mode =
        ⟨(layout.emission chunks mode).instructions, .ok next⟩ := by rw [← houtcome]
    exact .inr ⟨rfl, (FieldLayout.writes_of_emission hemission).2.2⟩

namespace Program

/-- **How writing the fields of a frame ends** in a region with room for all of them, if the buffer
is long enough.

**Proof sketch.** Induction on the fields. -/
theorem writeFields_cases {region : Region}
    (hlines : ∀ part ∈ parts, 0 < part.lineBytes ∧ part.lineBytes < pageSize)
    (hlong : ∀ part ∈ parts, part.Spans (ScatterList.size chunks))
    (hroom : region.position + 2 * (body chunks mode parts).length ≤ region.capacity) :
    (∃ fault, writeFields region chunks mode parts = .error fault ∧
      ∃ part ∈ parts, part.Exceeds chunks fault) ∨
    writeFields region chunks mode parts = .ok { region with
        words := region.words ++ Instruction.encodeAll (body chunks mode parts) } ∧
      ∀ i ∈ body chunks mode parts, i.Fits := by
  induction parts generalizing region with
  | nil => exact .inr ⟨by simp [writeFields, body, Instruction.encodeAll], nofun⟩
  | cons part parts ih =>
    obtain ⟨⟨hpos, hless⟩, hlines⟩ := List.forall_mem_cons.mp hlines
    obtain ⟨hspans, hlong⟩ := List.forall_mem_cons.mp hlong
    have hbody : body chunks mode (part :: parts) =
        (part.emission chunks mode).instructions ++ body chunks mode parts := List.flatMap_cons
    rw [hbody, List.length_append] at hroom
    rw [hbody, writeFields]
    have hfirst : region.position + 2 * (part.emission chunks mode).instructions.length ≤
        region.capacity := by omega
    obtain ⟨fault, hfield, hexceeds⟩ | ⟨hfield, hfits⟩ :=
      Region.field_cases hpos hless hspans hfirst
    · exact .inl ⟨fault, by rw [hfield]; rfl, part, List.mem_cons_self, hexceeds⟩
    · rw [hfield, Instruction.encodeAll_append, ← List.append_assoc]
      have hleft : (⟨region.capacity, region.words ++
          Instruction.encodeAll (part.emission chunks mode).instructions⟩ : Region).position +
            2 * (body chunks mode parts).length ≤ region.capacity := by
        rw [Region.position, List.length_append, Instruction.length_encodeAll]
        have hstart : region.position = region.words.length := rfl
        omega
      refine (ih hlines hlong hleft).imp ?_ ?_
      · rintro ⟨fault, hrest, other, hother, hexceeds⟩
        exact ⟨fault, hrest, other, List.mem_cons_of_mem part hother, hexceeds⟩
      · rintro ⟨hrest, hfits'⟩
        exact ⟨hrest, List.forall_mem_append.mpr ⟨hfits, hfits'⟩⟩

/-- How writing a program ends in memory with room for its fields and the tail.

**Proof sketch.** The fields are written into empty memory, or break off at one of them. Behind them
there is room for the tail, which has an address or not. -/
lemma write_cases {memory : CoherentMemory} {layout : ProgramLayout}
    (hlines : ∀ part ∈ layout.parts, 0 < part.lineBytes ∧ part.lineBytes < pageSize)
    (hlong : ∀ part ∈ layout.parts, part.Spans (ScatterList.size chunks))
    (hroom : 2 * (body chunks mode layout.parts).length + 2 ≤ memory.words.length) :
    (∃ fault, write memory chunks layout mode = .error fault ∧
      ∃ part ∈ layout.parts, part.Exceeds chunks fault) ∨
    (write memory chunks layout mode = .error .numberTooWide ∧
      ¬TailInReach memory (2 * (body chunks mode layout.parts).length)) ∨
    ∃ program, write memory chunks layout mode = .ok program ∧ program.instructions =
      body chunks mode layout.parts ++ [.jumpTo program.tailAddress false] := by
  have hblank : (Region.blank memory.words.length).position +
      2 * (body chunks mode layout.parts).length ≤ memory.words.length := by
    show 0 + _ ≤ _
    omega
  obtain ⟨fault, hfields, hexceeds⟩ | ⟨hfields, hfits⟩ := writeFields_cases hlines hlong hblank
  · refine .inl ⟨fault, ?_, hexceeds⟩
    rw [write, hfields]
    rfl
  · let region : Region := ⟨memory.words.length,
      Instruction.encodeAll (body chunks mode layout.parts)⟩
    have hposition : region.position = 2 * (body chunks mode layout.parts).length :=
      Instruction.length_encodeAll _
    have htail : ¬memory.size < 4 * (region.position + 2) := by
      rw [CoherentMemory.size]
      omega
    have hregion : writeFields (.blank memory.words.length) chunks mode layout.parts =
      .ok region := hfields
    rw [write_of_writeFields hregion, if_neg htail, ← hposition]
    right
    split
    · have hroom : (filled memory region).HasTail := by
        show region.position + 2 ≤ (filled memory region).memory.words.length
        rw [length_words_filled (by omega)]
        omega
      exact .inr ⟨_, rfl, instructions_retarget hfits List.take_left hroom _ false⟩
    · next hreach => exact .inl ⟨rfl, hreach⟩

end Program

/-- 32 bits do not suffice for a program: the padding behind a line leads beyond them, or memory is
handed out of which the tail has no address. -/
def ProgramLayout.Oversteps {δ : Type} [DmaBackend δ] (layout : ProgramLayout) (dma : δ)
    (chunks : ScatterList) (mode : LineOffset) : Prop :=
  (∃ part ∈ layout.parts, ∃ n < part.lines, part.Overflows chunks n) ∨
    ∃ memory dma', DmaBackend.allocate dma (Instruction.bytes * layout.allowance) =
      (.ok memory, dma') ∧
      ¬Program.TailInReach memory (2 * (Program.body chunks mode layout.parts).length)

namespace Program

variable {δ : Type} [DmaBackend δ]

/-- **A program keeps to the estimate**, wherever in a chunk its fields begin: the instructions of
all fields and the tail are no more than estimated. In memory that is as large as asked for building
a program never overflows; it ends with those instructions in memory, or for want of memory, or at
an address that is out of reach, or where 32 bits do not suffice.

**Proof sketch.** Each field takes what is allowed for it, and what is allowed for all fields and
the tail is the estimate. The memory has room for as much, so that only the faults of a field and of
the tail's address are left. -/
theorem length_instructions_le_estimate (dma : δ) {layout : ProgramLayout} (mode : LineOffset)
    (hfields : layout.parts ≠ []) (hpos : 0 < layout.lineBytes)
    (hmost : layout.lineBytes ≤ Instruction.maxCount) (hcoarse : chunks.Coarse)
    (hlong : ∀ part ∈ layout.parts, part.Spans (ScatterList.size chunks))
    (hsize : ∀ memory dma', DmaBackend.allocate dma (Instruction.bytes * layout.allowance) =
      (.ok memory, dma') → Instruction.bytes * layout.allowance ≤ memory.size) :
    (body chunks mode layout.parts).length + 1 ≤
      estimateInstructions layout.parts.length layout.lineBytes layout.padding layout.lines ∧
    ((∃ address, build dma chunks layout mode = .error (.addressTooWide address)) ∨
      (build dma chunks layout mode = .error .numberTooWide ∧
        layout.Oversteps dma chunks mode) ∨
      ∃ built dma', build dma chunks layout mode = .ok (built, dma') ∧
        ∀ program, built = .ok program → program.instructions =
          body chunks mode layout.parts ++ [.jumpTo program.tailAddress false]) := by
  have hlines : ∀ part ∈ layout.parts, 0 < part.lineBytes ∧ part.lineBytes < pageSize := by
    intro part hpart
    rw [ProgramLayout.lineBytes_of_mem_parts hpart]
    exact ⟨hpos, Nat.lt_succ_of_le hmost⟩
  have hallowed := Nat.add_le_add_right (length_body_le hcoarse hlines mode) 2
  rw [← layout.allowance_eq] at hallowed
  refine ⟨Nat.le_of_succ_le hallowed, ?_⟩
  have hnonempty : ¬layout.parts.isEmpty = true := fun hnil => hfields (List.isEmpty_iff.mp hnil)
  simp only [build, if_neg hnonempty]
  rcases hallocate : DmaBackend.allocate dma (Instruction.bytes * layout.allowance) with
    ⟨error | memory, dma'⟩
  · refine .inr (.inr ⟨.error error, dma', rfl, fun program hbuilt => ?_⟩)
    cases hbuilt
  · have hmemory := hsize memory dma' hallocate
    rw [Instruction.bytes, CoherentMemory.size] at hmemory
    have hroom : 2 * (body chunks mode layout.parts).length + 2 ≤ memory.words.length := by omega
    obtain ⟨fault, hwrite, part, hpart, hexceeds⟩ | ⟨hwrite, htail⟩ |
      ⟨program, hwrite, hinstructions⟩ := write_cases hlines hlong hroom
    · obtain ⟨address, rfl⟩ | ⟨rfl, hover⟩ := hexceeds
      · exact .inl ⟨address, by simp only [hwrite]; rfl⟩
      · exact .inr (.inl ⟨by simp only [hwrite]; rfl, .inl ⟨part, hpart, hover⟩⟩)
    · exact .inr (.inl ⟨by simp only [hwrite]; rfl, .inr ⟨memory, dma', hallocate, htail⟩⟩)
    · refine .inr (.inr ⟨.ok program, dma', by simp only [hwrite]; rfl, ?_⟩)
      rintro _ ⟨⟩
      exact hinstructions

/-- Five chunks, of which the first is empty and the last less than a page. -/
def uneven : ScatterList :=
  [⟨0x8000, 0⟩, ⟨0x10000, 4096⟩, ⟨0x20000, 4096⟩, ⟨0x30000, 4096⟩, ⟨0x40000, 4000⟩]

/-- Two fields of three lines, a page apart; the bottom field begins with the last byte of a
page. -/
def staggered : ProgramLayout where
  top := some 0
  bottom := some 4095
  lineBytes := 4000
  padding := 96
  lines := 3

/-- A field that begins in an empty chunk and one of which every line is split, which takes all that
is allowed for a field. -/
theorem length_instructions_le_estimate_staggered :
    staggered.parts ≠ [] ∧ 0 < staggered.lineBytes ∧
      staggered.lineBytes ≤ Instruction.maxCount ∧ uneven.Coarse ∧
      (∀ part ∈ staggered.parts, part.Spans (ScatterList.size uneven)) ∧
      (∀ memory dma', HostDma.allocate .create (Instruction.bytes * staggered.allowance) =
        (.ok memory, dma') → Instruction.bytes * staggered.allowance ≤ memory.size) ∧
      (staggered.parts.map fun part => (part.emission uneven .omit).instructions.length) =
        [5, 7] ∧
      (body uneven .omit staggered.parts).length + 1 ≤ estimateInstructions 2 4000 96 3 ∧
      ((∃ address, build HostDma.create uneven staggered .omit =
          .error (.addressTooWide address)) ∨
        (build HostDma.create uneven staggered .omit = .error .numberTooWide ∧
          staggered.Oversteps HostDma.create uneven .omit) ∨
        ∃ built dma', build HostDma.create uneven staggered .omit = .ok (built, dma') ∧
          ∀ program, built = .ok program → program.instructions =
            body uneven .omit staggered.parts ++ [.jumpTo program.tailAddress false]) := by
  have hfields : staggered.parts ≠ [] := by decide
  have hpos : 0 < staggered.lineBytes := by decide
  have hmost : staggered.lineBytes ≤ Instruction.maxCount := by decide
  have hcoarse : uneven.Coarse := by decide
  have hlong : ∀ part ∈ staggered.parts, part.Spans (ScatterList.size uneven) := by decide
  have hsize : ∀ memory dma', HostDma.allocate .create (Instruction.bytes * staggered.allowance) =
      (.ok memory, dma') → Instruction.bytes * staggered.allowance ≤ memory.size :=
    fun _ _ => HostDma.size_le_of_allocate
  obtain ⟨hestimate, hbuild⟩ :=
    length_instructions_le_estimate HostDma.create .omit hfields hpos hmost hcoarse hlong hsize
  exact ⟨hfields, hpos, hmost, hcoarse, hlong, hsize, by decide, hestimate, hbuild⟩

end Program

end VideoCapture
