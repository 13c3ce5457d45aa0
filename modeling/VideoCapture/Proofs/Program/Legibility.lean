import VideoCapture.Proofs.Buffer.Freshness
import VideoCapture.Proofs.Field.Drafting

/-!
# Reading programs back

What stands in the memory of a program up to its tail can be read back as instructions. No pair of
words is passed over on the way, the instructions come to the same words again, and the only jump
among them is the tail, because fields emit none. The words in front of the tail are those that were
put there word by word when the program was built, and pointing the tail elsewhere, however often,
keeps them. So a program is legible at any time, and its tail is where it was pointed last.

## Main definitions

* `VideoCapture.Program.retargetAll` — points the tail at one address after the other.
* `VideoCapture.Program.instructionAt` — what a pair of words of a program stands for.
* `VideoCapture.Program.Legible` — a program is read back whole, and ends in its only jump.

## Main results

* `VideoCapture.FieldLayout.opcode_emission` — fields emit no jump.
* `VideoCapture.Program.writeFields_eq_draft` — the fields of a frame written word by word.
* `VideoCapture.Program.retargetAll_eq` — only where the tail was pointed last shows.
* `VideoCapture.Program.Contains.legible` — instructions in front of a tail are read back.
* `VideoCapture.Program.legible_of_build` — programs are legible wherever their tail was pointed.
-/

set_option autoImplicit false

namespace VideoCapture

/-! ## Fields emit no jump -/

namespace Emission

variable {α β : Type} {P : Instruction → Prop}

/-- What holds of the instructions of two emissions holds of all that are emitted one after the
other. -/
lemma forall_mem_bind {m : Emission α} {f : α → Emission β} (hm : ∀ i ∈ m.instructions, P i)
    (hf : ∀ a, ∀ i ∈ (f a).instructions, P i) : ∀ i ∈ (m >>= f).instructions, P i := by
  obtain ⟨l, fault | a⟩ := m
  · exact hm
  · exact List.forall_mem_append.mpr ⟨hm, hf a⟩

end Emission

namespace Field

open Emission

variable {layout : FieldLayout}

/-- The rest of a line is transferred without a jump.

**Proof sketch.** Along the chunks: the rest of a line is made of inline transfers only. -/
lemma opcode_continueLine (index done todo : Nat) (chunks : ScatterList) :
    ∀ i ∈ (continueLine index done todo chunks).instructions, i.opcode ≠ .jump := by
  have hinline : Opcode.inline ≠ .jump := by decide
  induction chunks generalizing index done todo with
  | nil => exact List.forall_mem_nil _
  | cons chunk rest ih =>
    unfold continueLine
    split
    · refine forall_mem_bind (List.forall_mem_nil _) fun address => ?_
      exact forall_mem_bind (List.forall_mem_singleton.mpr hinline) fun _ => ih _ _ _
    · refine forall_mem_bind (List.forall_mem_nil _) fun address => ?_
      exact forall_mem_bind (List.forall_mem_singleton.mpr hinline) fun _ => List.forall_mem_nil _

/-- A line is transferred without a jump. -/
lemma opcode_line (bytes : Nat) (mode : LineOffset) (cursor : Cursor) :
    ∀ i ∈ (line bytes mode cursor).instructions, i.opcode ≠ .jump := by
  have hstart : Opcode.lineStart ≠ .jump := by decide
  refine forall_mem_bind (List.forall_mem_nil _) fun place => ?_
  refine forall_mem_bind (List.forall_mem_nil _) fun address => ?_
  split
  · exact forall_mem_bind (List.forall_mem_singleton.mpr hstart) fun _ => List.forall_mem_nil _
  · exact forall_mem_bind (List.forall_mem_singleton.mpr hstart)
      fun _ => opcode_continueLine _ _ _ _

/-- A line is transferred without a jump, its interrupt included. -/
lemma opcode_numberedLine (mode : LineOffset) (n : Nat) (cursor : Cursor) :
    ∀ i ∈ (numberedLine layout mode n cursor).instructions, i.opcode ≠ .jump := by
  unfold numberedLine
  split
  · exact forall_mem_flagLastOf (fun _ h => h) (opcode_line _ mode cursor)
  · exact opcode_line _ mode cursor

/-- Lines are transferred without a jump. -/
lemma opcode_lines (mode : LineOffset) (count n : Nat) (cursor : Cursor) :
    ∀ i ∈ (lines layout mode count n cursor).instructions, i.opcode ≠ .jump := by
  induction count generalizing n cursor with
  | zero => exact List.forall_mem_nil _
  | succ count ih =>
    refine forall_mem_bind (opcode_numberedLine mode n cursor) fun behind => ?_
    exact forall_mem_bind (List.forall_mem_nil _) fun _ => ih _ _

end Field

/-- **Fields emit no jump.** -/
theorem FieldLayout.opcode_emission (layout : FieldLayout) (chunks : ScatterList)
    (mode : LineOffset) : ∀ i ∈ (layout.emission chunks mode).instructions, i.opcode ≠ .jump := by
  refine Emission.forall_mem_bind ?_ fun _ => Field.opcode_lines mode _ _ _
  unfold preamble
  split
  · exact List.forall_mem_nil _
  · split
    · next parity _ =>
      have hsync : parity.opcode ≠ .jump := by cases parity <;> decide
      exact List.forall_mem_singleton.mpr hsync
    · exact List.forall_mem_nil _

namespace Program

variable {chunks : ScatterList} {mode : LineOffset} {program : Program} {l : List Instruction}
  {target : UInt32} {irq : Bool}

/-! ## Fields written word by word -/

/-- **The fields of a frame are written as if they were written word by word**, down to the fault
that breaks them off.

**Proof sketch.** Along the fields. Each is written as its draft is (`Region.draft_eq_field`), and
its words are bounded again for the next. -/
theorem writeFields_eq_draft {region : Region} (hregion : region.Bounded) (chunks : ScatterList)
    (mode : LineOffset) (parts : List FieldLayout) :
    writeFields region chunks mode parts =
      parts.foldlM (fun region part => region.draft part chunks mode) region := by
  induction parts generalizing region with
  | nil => rfl
  | cons part parts ih =>
    rw [writeFields, List.foldlM_cons, Region.draft_eq_field hregion]
    cases hfield : region.field part chunks mode with
    | error fault => rfl
    | ok next => exact ih (Region.bounded_of_field hfield)

/-! ## Pointing the tail time and again -/

/-- Points the tail at one target after the other. -/
def retargetAll (program : Program) (targets : List (UInt32 × Bool)) : Program :=
  targets.foldl (fun program target => program.retarget target.1 target.2) program

/-- **Only where the tail was pointed last shows**, if it was pointed somewhere at all.

**Proof sketch.** Along the targets in front of the last. Each is written over by the next
(`retarget_retarget`), and the last by none. -/
theorem retargetAll_eq (program : Program) (targets : List (UInt32 × Bool)) :
    program.retargetAll targets = targets.getLast?.elim program
      fun last => program.retarget last.1 last.2 := by
  obtain rfl | ⟨front, last, rfl⟩ := List.eq_nil_or_concat targets
  · rfl
  · rw [List.concat_eq_append, List.getLast?_concat, retargetAll, List.foldl_append]
    show (retargetAll program front).retarget last.1 last.2 = program.retarget last.1 last.2
    -- the induction is on the targets in front of the last, each of which is written over
    induction front generalizing program with
    | nil => rfl
    | cons first front ih =>
      exact (ih (program.retarget first.1 first.2)).trans (retarget_retarget program _ _ _ _)

/-- The tail of a program that was written points at itself. -/
lemma retarget_tailAddress_of_write {memory : CoherentMemory} {layout : ProgramLayout}
    (h : write memory chunks layout mode = .ok program) :
    program.retarget program.tailAddress false = program := by
  obtain ⟨region, -, -, -, rfl⟩ := write_eq_ok.mp h
  exact retarget_retarget _ _ _ _ _

/-! ## What is read back -/

/-- The instruction that pair of words number `k` of a program stands for, if it is one. -/
def instructionAt (program : Program) (k : Nat) : Option Instruction := do
  let control ← program.memory.words[2 * k]?
  let address ← program.memory.words[2 * k + 1]?
  Instruction.decode control address

/-- A program is read back whole up to its tail, which is its only jump and points at `target`. -/
structure Legible (program : Program) (target : UInt32) (irq : Bool) : Prop where
  /-- There are as many instructions as pairs of words up to the end of the tail. -/
  length : 2 * program.instructions.length = program.tail + 2
  /-- Each is the one its pair stands for. -/
  pairs : ∀ k < program.instructions.length, program.instructionAt k = program.instructions[k]?
  /-- Together they come to the words that were read. -/
  words : Instruction.encodeAll program.instructions = program.snapshot
  /-- The last is the jump to the target, and no other is a jump. -/
  jump : ∃ front, program.instructions = front ++ [Instruction.jumpTo target irq] ∧
    ∀ i ∈ front, i.opcode ≠ .jump
  /-- The tail tells the target. -/
  tailTarget : program.tailTarget = target
  /-- It tells whether it raises an interrupt. -/
  tailInterrupts : program.tailInterrupts = irq

/-- Each pair of words of instructions that stand up to the end of the tail is one of them. -/
lemma instructionAt_of_snapshot (hfits : ∀ i ∈ l, i.Fits)
    (hsnapshot : program.snapshot = Instruction.encodeAll l) {k : Nat} (hk : k < l.length) :
    program.instructionAt k = l[k]? := by
  have hlength := congrArg List.length hsnapshot
  rw [snapshot, List.length_take, Instruction.length_encodeAll] at hlength
  obtain ⟨hcontrol, haddress⟩ := Instruction.getElem?_encodeAll l k
  rw [← hsnapshot, snapshot, List.getElem?_take_of_lt (by omega)] at hcontrol
  rw [← hsnapshot, snapshot, List.getElem?_take_of_lt (by omega)] at haddress
  rw [List.getElem?_eq_getElem hk, Option.map_some] at hcontrol haddress
  rw [instructionAt, hcontrol, haddress, List.getElem?_eq_getElem hk, Option.bind_eq_bind,
    Option.bind_some, Option.bind_some]
  exact (hfits _ (List.getElem_mem hk)).decode

/-- **A program is legible once its tail was pointed somewhere**, if no jump stands in front of
it.

**Proof sketch.** The words up to the tail and those of the tail itself are the words of the
instructions, each of which fits, so that they are read back in pairs. -/
theorem Contains.legible (h : program.Contains l) (htail : program.HasTail)
    (hstraight : ∀ i ∈ l, i.opcode ≠ .jump) (target : UInt32) (irq : Bool) :
    (program.retarget target irq).Legible target irq := by
  have hinstructions := instructions_retarget h.fits h.front htail target irq
  have hsnapshot := snapshot_retarget h.front htail target irq
  have hbehind := h.tail_eq htail
  obtain ⟨hcontrol, haddress⟩ := words_tail_retarget htail target irq
  constructor
  case length =>
    rw [hinstructions, List.length_append, List.length_singleton, tail_retarget]
    omega
  case words => rw [hinstructions, hsnapshot]
  case jump => exact ⟨l, hinstructions, hstraight⟩
  case pairs =>
    intro k hk
    rw [hinstructions] at hk ⊢
    exact instructionAt_of_snapshot (List.forall_mem_append.mpr
      ⟨h.fits, List.forall_mem_singleton.mpr (Instruction.fits_jumpTo target irq)⟩) hsnapshot hk
  case tailTarget => rw [Program.tailTarget, tail_retarget, haddress, Option.getD_some]
  case tailInterrupts =>
    rw [Program.tailInterrupts, tail_retarget, hcontrol, Option.getD_some]
    exact (Instruction.jumpTo target irq).irq_control

/-! ## Programs that are built -/

variable {δ : Type} [DmaBackend δ]

/-- The words in front of the tail of a program that was written are those of its fields, written
word by word. -/
lemma exists_draft_of_write {memory : CoherentMemory} {layout : ProgramLayout}
    (h : write memory chunks layout mode = .ok program) :
    ∃ region, layout.parts.foldlM (fun region part => region.draft part chunks mode)
        (Region.blank program.memory.words.length) = .ok region ∧
      program.memory.words.take program.tail = region.words := by
  have hfront := (contains_of_write h).front
  have hlength := length_words_of_write h
  obtain ⟨region, hregion, -⟩ := bind_eq_ok.mp h
  have hblank : (Region.blank memory.words.length).Bounded := Nat.zero_le _
  refine ⟨region, ?_, ?_⟩
  · rw [hlength, ← writeFields_eq_draft hblank, hregion]
  · rw [hfront, (words_of_writeFields hregion).1]
    rfl

/-- **A program that was built is legible, wherever its tail was pointed since.** Every pair of
words up to the tail is an instruction, and together these come to the same words again. The only
jump is the last. The tail tells where it was pointed last, which is at itself to begin with. What
stands in front of it is what was written word by word when the program was built, and nothing else
of the program has changed.

**Proof sketch.** Of many targets only the last counts, and a program that was never pointed
elsewhere is as if pointed at itself again. No instruction of a field is a jump. -/
theorem legible_of_build {dma dma' : δ} {layout : ProgramLayout}
    (h : build dma chunks layout mode = .ok (.ok program, dma'))
    (targets : List (UInt32 × Bool)) :
    let last := targets.getLast?.getD (program.tailAddress, false)
    let later := program.retargetAll targets
    later.Legible last.1 last.2 ∧
      later.tail = program.tail ∧
      later.memory.words.take later.tail = program.memory.words.take program.tail ∧
      later.untied = program.untied ∧
      ∃ region, layout.parts.foldlM (fun region part => region.draft part chunks mode)
          (Region.blank program.memory.words.length) = .ok region ∧
        later.memory.words.take later.tail = region.words := by
  obtain ⟨memory, hwrite⟩ := exists_write_of_build h
  intro last later
  have hlater : later = program.retarget last.1 last.2 := by
    show program.retargetAll targets = _
    rw [retargetAll_eq]
    show _ = program.retarget (targets.getLast?.getD _).1 (targets.getLast?.getD _).2
    -- a program that was never pointed elsewhere is as if it was pointed at itself again
    cases targets.getLast? with
    | none => exact (retarget_tailAddress_of_write hwrite).symm
    | some target => rfl
  have hstraight : ∀ i ∈ body chunks mode layout.parts, i.opcode ≠ .jump :=
    List.forall_mem_flatMap.mpr fun part _ => part.opcode_emission chunks mode
  have hfront : later.memory.words.take later.tail = program.memory.words.take program.tail := by
    rw [hlater, tail_retarget, take_words_retarget]
  obtain ⟨region, hregion, hwords⟩ := exists_draft_of_write hwrite
  refine ⟨?_, ?_, hfront, ?_, region, hregion, hfront.trans hwords⟩
  · rw [hlater]
    exact (contains_of_write hwrite).legible (hasTail_of_build h) hstraight _ _
  · rw [hlater, tail_retarget]
  · rw [hlater, untied_retarget]

/-- Two fields of two lines, of which one lies in three chunks. The tail is pointed elsewhere twice,
the first time with an interrupt. -/
theorem legible_of_build_twice :
    ∃ program dma,
      build HostDma.create [⟨0x1000, 30⟩, ⟨0x5000, 8⟩, ⟨0x3000, 58⟩] ⟨some 0, some 24, 24, 24, 2⟩
        .encode = .ok (.ok program, dma) ∧
      (program.retargetAll [(0x20000000, true), (0x30000010, false)]).Legible 0x30000010 false ∧
      (program.retargetAll [(0x20000000, true), (0x30000010, false)]).instructions.map
        Instruction.opcode = [.syncOdd, .lineStart, .lineStart, .syncEven, .lineStart, .inline,
          .inline, .lineStart, .jump] := by
  let chunks : ScatterList := [⟨0x1000, 30⟩, ⟨0x5000, 8⟩, ⟨0x3000, 58⟩]
  let layout : ProgramLayout := ⟨some 0, some 24, 24, 24, 2⟩
  let targets : List (UInt32 × Bool) := [(0x20000000, true), (0x30000010, false)]
  have hbuilt : (build HostDma.create chunks layout .encode).toOption.any
      (fun answer => answer.1.toOption.any fun program =>
        (program.retargetAll targets).instructions.map Instruction.opcode = [.syncOdd, .lineStart,
          .lineStart, .syncEven, .lineStart, .inline, .inline, .lineStart, .jump]) = true := by
    decide +kernel
  obtain ⟨answer, hanswer, hmade⟩ := (Option.any_eq_true _ _).mp hbuilt
  obtain ⟨program, hprogram, hopcodes⟩ := (Option.any_eq_true _ _).mp hmade
  have hbuild : build HostDma.create chunks layout .encode = .ok (.ok program, answer.2) := by
    rw [toOption_eq_some.mp hanswer, ← toOption_eq_some.mp hprogram]
  exact ⟨program, answer.2, hbuild, (legible_of_build hbuild targets).1,
    of_decide_eq_true hopcodes⟩

end Program

end VideoCapture
