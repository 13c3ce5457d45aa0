import VideoCapture.Proofs.Program.Coverage

/-!
# Programs write inside chunks

A buffer is contiguous for its user only. Behind each of its chunks the bus may lead anywhere, so an
instruction must not run over the end of the chunk it begins in. A line that would is split there,
and so every instruction that transfers data keeps to one chunk of the scatter list it was written
for.

## Main definitions

* `VideoCapture.Instruction.Within` — an instruction writes nowhere but to one chunk.
* `VideoCapture.Program.Within` — so do all instructions in front of a program's tail.

## Main results

* `VideoCapture.Field.within_line` — a line keeps to its chunks, split or not.
* `VideoCapture.FieldLayout.within_of_emission` — so does a field.
* `VideoCapture.Program.within_of_write` — so does a program as it is made.
* `VideoCapture.Program.Within.instructions` — its instructions, read back from memory.
-/

set_option autoImplicit false

namespace VideoCapture

/-- An instruction that transfers data writes to one chunk of a scatter list. -/
def Instruction.Within (chunks : ScatterList) (i : Instruction) : Prop :=
  i.opcode = .lineStart ∨ i.opcode = .inline → ∃ chunk ∈ chunks,
    chunk.address ≤ i.address.toNat ∧ i.address.toNat + i.count.toNat ≤ chunk.limit

/-- What is within some chunks is within more. -/
lemma Instruction.Within.mono {chunks more : ScatterList} {i : Instruction}
    (h : i.Within chunks) (hmore : chunks ⊆ more) : i.Within more := by
  intro hopcode
  obtain ⟨chunk, hchunk, hrange⟩ := h hopcode
  exact ⟨chunk, hmore hchunk, hrange⟩

/-- A jump writes nowhere. -/
lemma Instruction.within_jumpTo (chunks : ScatterList) (target : UInt32) (irq : Bool) :
    (Instruction.jumpTo target irq).Within chunks := by
  rintro (h | h) <;> cases h

/-- Flags do not show in where instructions write. -/
lemma Emission.within_flagLastOf {chunks : ScatterList} {l : List Instruction}
    (h : ∀ i ∈ l, i.Within chunks) : ∀ i ∈ flagLastOf l, i.Within chunks :=
  forall_mem_flagLastOf (fun _ hi => hi) h

/-- Seeking leaves chunks of the cursor only.

**Proof sketch.** Along the chunks: seeking drops some of the first chunks and keeps the others. -/
lemma Cursor.subset_of_seekFrom {index offset : Nat} {chunks : ScatterList} {place : Place}
    (h : seekFrom index chunks offset = .ok place) : place.chunk :: place.rest ⊆ chunks := by
  induction chunks generalizing index offset with
  | nil => cases h
  | cons chunk chunks ih =>
    unfold seekFrom at h
    split at h
    · exact List.subset_cons_of_subset chunk (ih h)
    · obtain rfl := Except.ok.inj h
      exact List.Subset.refl _

/-! ## Fields -/

namespace Field

open Emission

variable {l : List Instruction} {cursor next : Cursor} {mode : LineOffset} {index offset n : Nat}
  {chunk : Chunk} {chunks : ScatterList}

/-- An instruction whose bytes lie in a chunk is within it. -/
lemma within_chunk {i : Instruction} (hchunk : chunk ∈ chunks) (hn : n < 4096)
    (hcount : i.count = UInt16.ofNat n) (haddress : chunk.busAddress offset = .ok i.address)
    (hroom : offset + n ≤ chunk.length) : i.Within chunks := by
  have htoNat : i.count.toNat = n := by
    rw [hcount]
    exact UInt16.toNat_ofNat_of_lt' (by simp only [UInt16.size]; omega)
  have hbus := Chunk.toNat_of_busAddress haddress
  refine fun _ => ⟨chunk, hchunk, ?_, ?_⟩
  · omega
  · rw [htoNat, hbus, Chunk.limit]
    omega

/-- **The rest of a split line keeps to the chunks that follow.**

**Proof sketch.** Induction on the chunks. -/
theorem within_continueLine {done todo : Nat} (htodo : todo < 4096)
    (h : continueLine index done todo chunks = ⟨l, .ok next⟩) :
    (∀ i ∈ l, i.Within chunks) ∧ next.chunks ⊆ chunks := by
  induction chunks generalizing index done todo l with
  | nil => cases h
  | cons chunk chunks ih =>
    unfold continueLine at h
    split at h
    · next hshort =>
      simp only [bind_eq_mk, take_eq_mk, emit_eq_mk] at h
      obtain ⟨_, address, _, ⟨rfl, haddress⟩, ⟨_, _, l₂, rfl, hrest, rfl⟩, rfl⟩ := h
      obtain ⟨hwithin, hnext⟩ := ih (by omega) hrest
      refine ⟨List.forall_mem_cons.mpr ⟨?_, fun i hi => ?_⟩, List.subset_cons_of_subset _ hnext⟩
      · exact within_chunk List.mem_cons_self (by omega) rfl haddress (by omega)
      · exact (hwithin i hi).mono (List.subset_cons_self chunk chunks)
    · next hlong =>
      simp only [bind_eq_mk, take_eq_mk, emit_eq_mk, pure_eq_mk] at h
      obtain ⟨_, address, _, ⟨rfl, haddress⟩, ⟨_, _, _, rfl, ⟨rfl, rfl⟩, rfl⟩, rfl⟩ := h
      refine ⟨List.forall_mem_singleton.mpr ?_, List.Subset.refl _⟩
      exact within_chunk List.mem_cons_self htodo rfl haddress (by omega)

/-- **A line keeps to the chunks of its cursor**, split or not.

**Proof sketch.** A line in one chunk is one instruction to it. A line that is split is one to the
rest of its first chunk, and goes on in the chunks behind it. -/
theorem within_line {bytes : Nat} (hbytes : bytes < 4096)
    (h : line bytes mode cursor = ⟨l, .ok next⟩) :
    (∀ i ∈ l, i.Within cursor.chunks) ∧ next.chunks ⊆ cursor.chunks := by
  simp only [line, bind_eq_mk, take_eq_mk] at h
  obtain ⟨_, place, _, ⟨rfl, hseek⟩, ⟨_, address, _, ⟨rfl, haddress⟩, h, rfl⟩, rfl⟩ := h
  have hsubset := Cursor.subset_of_seekFrom hseek
  have hplace := (Cursor.seekFrom_eq_ok hseek).1
  have hchunk : place.chunk ∈ cursor.chunks := hsubset List.mem_cons_self
  by_cases hfits : bytes ≤ place.chunk.length - place.offset
  · rw [if_pos hfits] at h
    simp only [bind_eq_mk, emit_eq_mk, pure_eq_mk] at h
    obtain ⟨_, _, _, rfl, ⟨rfl, rfl⟩, rfl⟩ := h
    refine ⟨List.forall_mem_singleton.mpr ?_, hsubset⟩
    exact within_chunk hchunk hbytes rfl haddress (by omega)
  · rw [if_neg hfits] at h
    simp only [bind_eq_mk, emit_eq_mk] at h
    obtain ⟨_, _, l₂, rfl, hrest, rfl⟩ := h
    have hbehind : place.rest ⊆ cursor.chunks :=
      List.Subset.trans (List.subset_cons_self _ _) hsubset
    obtain ⟨hwithin, hnext⟩ := within_continueLine (by omega) hrest
    refine ⟨List.forall_mem_cons.mpr ⟨?_, fun i hi => (hwithin i hi).mono hbehind⟩,
      List.Subset.trans hnext hbehind⟩
    exact within_chunk hchunk (by omega) rfl haddress (by omega)

/-- Whether a line ends with an interrupt does not show in where it writes. -/
lemma within_numberedLine {layout : FieldLayout} {number : Nat} (hbytes : layout.lineBytes < 4096)
    (h : numberedLine layout mode number cursor = ⟨l, .ok next⟩) :
    (∀ i ∈ l, i.Within cursor.chunks) ∧ next.chunks ⊆ cursor.chunks := by
  unfold numberedLine at h
  split at h
  · obtain ⟨hl, hout⟩ := Emission.mk.inj h
    have hline : line layout.lineBytes mode cursor =
        ⟨(line layout.lineBytes mode cursor).instructions, .ok next⟩ := by
      rw [← hout]
    obtain ⟨hwithin, hnext⟩ := within_line hbytes hline
    exact ⟨hl ▸ within_flagLastOf hwithin, hnext⟩
  · exact within_line hbytes h

/-- Lines keep to the chunks of their cursor.

**Proof sketch.** Induction on the number of lines. Each goes on in the chunks that the one before
has left. -/
theorem within_lines {layout : FieldLayout} {count number : Nat}
    (hbytes : layout.lineBytes < 4096)
    (h : lines layout mode count number cursor = ⟨l, .ok next⟩) :
    ∀ i ∈ l, i.Within cursor.chunks := by
  induction count generalizing number cursor l with
  | zero =>
    obtain ⟨rfl, -⟩ := pure_eq_mk.mp h
    exact fun _ hnone => absurd hnone List.not_mem_nil
  | succ count ih =>
    obtain ⟨l₁, middle, l₂, hline, hrest, rfl⟩ := exists_of_lines_eq_mk h
    obtain ⟨hfirst, hmiddle⟩ := within_numberedLine hbytes hline
    exact List.forall_mem_append.mpr ⟨hfirst, fun i hi => (ih hrest i hi).mono hmiddle⟩

end Field

namespace FieldLayout

open Emission

variable {layout : FieldLayout} {chunks : ScatterList} {mode : LineOffset} {l : List Instruction}
  {next : Cursor}

/-- What comes before the lines writes nowhere. -/
lemma within_of_preamble {u : Unit} (h : layout.preamble = ⟨l, .ok u⟩) :
    ∀ i ∈ l, i.Within chunks := by
  unfold preamble at h
  split at h
  · cases h
  · split at h
    · next parity _ =>
      obtain rfl := emit_eq_mk.mp h
      refine List.forall_mem_singleton.mpr ?_
      cases parity <;> rintro (hopcode | hopcode) <;> cases hopcode
    · obtain ⟨rfl, -⟩ := pure_eq_mk.mp h
      exact fun _ hnone => absurd hnone List.not_mem_nil

/-- **A field keeps to the chunks it is written for.** -/
theorem within_of_emission (h : layout.emission chunks mode = ⟨l, .ok next⟩) :
    ∀ i ∈ l, i.Within chunks := by
  simp only [emission, emissionOf, bind_eq_mk] at h
  obtain ⟨l₁, u, l₂, hpreamble, hlines, rfl⟩ := h
  obtain ⟨-, hbytes, -, -⟩ := preamble_eq_mk hpreamble
  have hwithin := Field.within_lines hbytes hlines
  exact List.forall_mem_append.mpr ⟨within_of_preamble hpreamble, hwithin⟩

end FieldLayout

/-! ## Programs -/

namespace Program

variable {chunks : ScatterList} {mode : LineOffset} {program : Program}

/-- What stands in the memory of a program in front of its tail are instructions that keep to
chunks, and nothing else. -/
def Within (program : Program) (chunks : ScatterList) : Prop :=
  ∃ l : List Instruction, program.memory.words.take program.tail = Instruction.encodeAll l ∧
    (∀ i ∈ l, i.Fits) ∧ ∀ i ∈ l, i.Within chunks

/-- Where the tail points does not matter to what is in front of it. -/
lemma within_untied : program.untied.Within chunks ↔ program.Within chunks := by
  rw [Within, untied, tail_retarget, take_words_retarget]
  exact Iff.rfl

/-- Fields that were written to a region keep to their chunks. -/
lemma within_of_writeFields {region next : Region} {parts : List FieldLayout}
    (h : writeFields region chunks mode parts = .ok next) :
    ∀ i ∈ body chunks mode parts, i.Within chunks := by
  intro i hi
  obtain ⟨part, hpart, hi⟩ := List.mem_flatMap.mp hi
  obtain ⟨last, hemission⟩ := (words_of_writeFields h).2 part hpart
  exact FieldLayout.within_of_emission hemission i hi

/-- **A program that is written keeps to its chunks.** -/
theorem within_of_write {memory : CoherentMemory} {layout : ProgramLayout}
    (h : write memory chunks layout mode = .ok program) : program.Within chunks := by
  obtain ⟨hfront, hfits⟩ := front_of_write h
  obtain ⟨region, hregion, -⟩ := write_eq_ok.mp h
  exact ⟨_, hfront, hfits, within_of_writeFields hregion⟩

/-- **The instructions of a program are read back from its memory**, none of its words left out, and
keep to its chunks, if a jump stands at its tail.

**Proof sketch.** The words in front of the tail are those of the instructions written, and the two
words of the tail are those of a jump, which writes nothing. -/
theorem Within.instructions {target : UInt32} {irq : Bool} (h : program.Within chunks)
    (htail : program.tailInstruction = some (.jumpTo target irq)) :
    program.snapshot.length = 2 * program.instructions.length ∧
      ∀ i ∈ program.instructions, i.Within chunks := by
  obtain ⟨l, hfront, hfits, hwithin⟩ := h
  obtain ⟨control, hcontrol, htail⟩ := Option.bind_eq_some_iff.mp htail
  obtain ⟨address, haddress, hdecode⟩ := Option.bind_eq_some_iff.mp htail
  have hsnapshot : program.snapshot = Instruction.encodeAll l ++ [control, address] := by
    rw [snapshot, List.take_add_one, List.take_add_one, hfront, hcontrol, haddress,
      List.append_assoc]
    rfl
  have hinstructions : program.instructions = l ++ [Instruction.jumpTo target irq] := by
    rw [Program.instructions, hsnapshot, Instruction.decodeAll_encodeAll hfits,
      Instruction.decodeAll, hdecode]
    rfl
  refine ⟨?_, ?_⟩
  · rw [hsnapshot, hinstructions, List.length_append, List.length_append,
      Instruction.length_encodeAll, List.length_singleton, Nat.mul_add]
    rfl
  · rw [hinstructions]
    exact List.forall_mem_append.mpr ⟨hwithin,
      List.forall_mem_singleton.mpr (Instruction.within_jumpTo chunks target irq)⟩

end Program

end VideoCapture
