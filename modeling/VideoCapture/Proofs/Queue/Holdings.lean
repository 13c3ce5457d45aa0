import VideoCapture.Proofs.Dma.Lawful
import VideoCapture.Proofs.Queue.Scheduling
import VideoCapture.Proofs.Queue.Session
import Mathlib.Data.List.Perm.Basic

/-!
# What a queue holds in memory

The programs of a queue, its stopper among them, lie in coherent memory of their own. Whatever is
done with the queue, its backend accounts for exactly the memory of these programs, besides what it
has handed out to others. So no two programs ever share an address.

## Main definitions

* `VideoCapture.CaptureQueue.programs`, `VideoCapture.CaptureQueue.ranges` — the programs of a queue
  and their bus addresses.
* `VideoCapture.Channel.Stocked` — the backend accounts for the programs, and each has its tail.

## Main results

* `VideoCapture.CaptureBuffer.holds_of_prepare` — preparing a buffer accounts for its program.
* `VideoCapture.Channel.keeping_stocked` — no operation loses count of memory.
* `VideoCapture.Channel.stocked_of_create`, `VideoCapture.Channel.holds_dispose` — a new queue holds
  its stopper, and one that ends holds nothing.
-/

set_option autoImplicit false

namespace VideoCapture

open LawfulDmaBackend (Holds)

/-! ## Programs -/

namespace Program

/-- The bus addresses of a program. -/
def range (program : Program) : BusRange :=
  program.memory.range

/-- A program lies where it does, wherever its tail points. -/
lemma range_untied (program : Program) : program.untied.range = program.range := by
  simp only [range, CoherentMemory.range, CoherentMemory.size, untied, length_words_retarget]
  rfl

/-- A program with a tail takes up some memory. -/
lemma size_range_pos {program : Program} (h : program.HasTail) : 0 < program.range.size := by
  simp only [HasTail, range, CoherentMemory.range, CoherentMemory.size] at h ⊢
  omega

/-- A program that is written lies in the memory it is written to. -/
lemma range_of_write {memory : CoherentMemory} {chunks : ScatterList} {layout : ProgramLayout}
    {mode : LineOffset} {program : Program} (h : write memory chunks layout mode = .ok program) :
    program.range = memory.range := by
  obtain ⟨region, -, hroom, -, rfl⟩ := write_eq_ok.mp h
  have hwords : memory.size = 4 * memory.words.length := rfl
  simp only [range, CoherentMemory.range, CoherentMemory.size, length_words_retarget,
    length_words_filled (show region.position ≤ memory.words.length by omega)]
  rfl

variable {δ : Type} [DmaBackend δ] [LawfulDmaBackend δ] {dma dma' : δ} {live : List BusRange}

/-- Building a program accounts for its memory. -/
lemma holds_of_build {chunks : ScatterList} {layout : ProgramLayout} {mode : LineOffset}
    {program : Program} (hdma : Holds dma live)
    (h : build dma chunks layout mode = .ok (.ok program, dma')) :
    Holds dma' (program.range :: live) := by
  have hallowance : 0 < Instruction.bytes * layout.allowance := by
    unfold Instruction.bytes ProgramLayout.allowance estimateInstructions
    dsimp only
    omega
  obtain ⟨_, -, hbuilt⟩ | ⟨memory, _, hallocate, hwrite, hbuilt⟩ := build_cases h
  · cases hbuilt
  · obtain rfl := Except.ok.inj hbuilt
    rw [range_of_write hwrite]
    exact LawfulDmaBackend.allocate hdma hallowance hallocate

/-- Without a program nothing is accounted for. -/
lemma holds_of_build_error {chunks : ScatterList} {layout : ProgramLayout} {mode : LineOffset}
    {error : Error} (hdma : Holds dma live)
    (h : build dma chunks layout mode = .ok (.error error, dma')) : Holds dma' live := by
  obtain ⟨_, hallocate, -⟩ | ⟨_, _, -, -, hbuilt⟩ := build_cases h
  · exact LawfulDmaBackend.refuse hdma hallocate
  · cases hbuilt

/-- A program that is given back is no longer accounted for. -/
lemma holds_discard {program : Program} (h : Holds dma (program.range :: live)) :
    Holds (program.discard dma) live :=
  LawfulDmaBackend.free h

/-- So are all of several programs. -/
lemma holds_discardAll {programs : List Program}
    (h : Holds dma (programs.map range ++ live)) :
    Holds (programs.foldl (fun dma program => program.discard dma) dma) live := by
  induction programs generalizing dma with
  | nil => exact h
  | cons program rest ih => exact ih (holds_discard h)

/-- The stopper is accounted for, has its tail, and jumps to itself.

**Proof sketch.** The memory that is handed out has room for a jump, and pointing it at itself does
not change where it lies. -/
lemma holds_of_stopper {program : Program} (hdma : Holds dma live)
    (h : stopper dma = (.ok program, dma')) :
    Holds dma' (program.range :: live) ∧ program.HasTail ∧
      program.tailInstruction = some (.jumpTo program.address false) := by
  unfold stopper at h
  split at h
  · cases h
  · next memory dma₁ hallocate =>
    obtain ⟨hprogram, rfl⟩ := Prod.mk.inj h
    obtain rfl := Except.ok.inj hprogram
    have hsize := LawfulDmaBackend.size_le hdma hallocate
    have htail : HasTail { memory, tail := 0 } := by
      simp only [HasTail, CoherentMemory.size, stopperSize] at hsize ⊢
      omega
    refine ⟨?_, hasTail_retarget.mpr htail, tailInstruction_retarget htail _ _⟩
    have hrange : (retarget { memory, tail := 0 } (address { memory, tail := 0 }) false).range =
        memory.range := by
      simp only [range, CoherentMemory.range, CoherentMemory.size, length_words_retarget]
      rfl
    rw [hrange]
    exact LawfulDmaBackend.allocate hdma (by decide) hallocate

end Program

/-! ## Buffers -/

namespace CaptureBuffer

/-- The bus addresses of a buffer's program, if it has one. -/
def ranges (buffer : CaptureBuffer) : List BusRange :=
  (buffer.setup.map fun setup => setup.program.range).toList

variable {δ : Type} [DmaBackend δ] [LawfulDmaBackend δ] {dma dma' : δ} {live : List BusRange}
  {buffer buffer' : CaptureBuffer} {index : Nat} {chunks : ScatterList} {geometry : Geometry}
  {norm : Norm} {mode : LineOffset} {result : Except Error Unit}

/-- A program for a geometry is accounted for. -/
lemma holds_of_buildProgram {built : Except Error Program} (hdma : Holds dma live)
    (h : buildProgram dma chunks geometry mode = .ok (built, dma')) :
    Holds dma' ((built.toOption.map Program.range).toList ++ live) := by
  obtain ⟨-, rfl, rfl⟩ | ⟨-, rfl, rfl⟩ | ⟨-, layout, -, hbuild⟩ := buildProgram_cases h
  · exact hdma
  · exact hdma
  · cases built with
    | error error => exact Program.holds_of_build_error hdma hbuild
    | ok program => exact Program.holds_of_build hdma hbuild

omit [LawfulDmaBackend δ] in
/-- A program for a geometry has its tail. -/
lemma hasTail_of_buildProgram {program : Program}
    (h : buildProgram dma chunks geometry mode = .ok (.ok program, dma')) : program.HasTail := by
  obtain ⟨-, hbuilt, -⟩ | ⟨-, hbuilt, -⟩ | ⟨-, layout, -, hbuild⟩ := buildProgram_cases h
  · cases hbuilt
  · cases hbuilt
  · exact Program.hasTail_of_build hbuild

/-- Draining a buffer settles its program. -/
lemma holds_of_drain (hdma : Holds dma (buffer.ranges ++ live))
    (h : buffer.drain dma index = (buffer', dma')) : Holds dma' (buffer'.ranges ++ live) := by
  unfold drain at h
  split at h
  · next hsetup =>
    obtain ⟨rfl, rfl⟩ := Prod.mk.inj h
    rwa [ranges, hsetup] at hdma
  · next setup hsetup =>
    obtain ⟨rfl, rfl⟩ := Prod.mk.inj h
    rw [ranges, hsetup] at hdma
    exact LawfulDmaBackend.unmap (Program.holds_discard hdma)

/-- Giving a buffer a new program accounts for it, and settles the old one. -/
lemma holds_of_reprogrammed {old : Option Program}
    (hdma : Holds dma ((old.map Program.range).toList ++ live))
    (h : buffer.Reprogrammed dma index chunks old geometry norm mode result buffer' dma') :
    Holds dma' (buffer'.ranges ++ live) := by
  cases h with
  | failed hbuild =>
    have hbuilt := holds_of_buildProgram hdma hbuild
    cases old with
    | none => exact LawfulDmaBackend.unmap hbuilt
    | some program => exact LawfulDmaBackend.unmap (Program.holds_discard hbuilt)
  | @built program dma₁ hbuild =>
    have hbuilt := holds_of_buildProgram hdma hbuild
    cases old with
    | none => exact hbuilt
    | some previous =>
      exact Program.holds_discard (LawfulDmaBackend.perm hbuilt (List.Perm.swap _ _ _))

/-- **Preparing a buffer accounts for its program**, however it ends. -/
theorem holds_of_prepare (hdma : Holds dma (buffer.ranges ++ live))
    (h : buffer.prepare dma index geometry norm mode = .ok (result, buffer', dma')) :
    Holds dma' (buffer'.ranges ++ live) := by
  obtain ⟨-, hdrain⟩ | ⟨hsetup, _, hmap, -, rfl⟩ | ⟨hsetup, _, _, hmap, hnew⟩ |
    ⟨setup, hsetup, -, -, rfl, rfl⟩ | ⟨setup, hsetup, hnew⟩ := prepare_cases h
  · exact holds_of_drain hdma hdrain
  · rw [ranges, hsetup] at hdma
    exact LawfulDmaBackend.map hdma hmap
  · rw [ranges, hsetup] at hdma
    exact holds_of_reprogrammed (LawfulDmaBackend.map hdma hmap) hnew
  · rwa [ranges, hsetup] at hdma
  · rw [ranges, hsetup] at hdma
    exact holds_of_reprogrammed hdma hnew

omit [LawfulDmaBackend δ] in
/-- Preparing a buffer leaves it with a program that has its tail, or with none.

**Proof sketch.** Case analysis on how preparing ends. A program that was built has its tail, and
one that is kept had it. -/
lemma hasTail_of_prepare
    (htail : ∀ setup, buffer.setup = some setup → setup.program.HasTail)
    (h : buffer.prepare dma index geometry norm mode = .ok (result, buffer', dma')) :
    ∀ setup, buffer'.setup = some setup → setup.program.HasTail := by
  have hreprogrammed : ∀ {dma₁ : δ} {chunks old},
      buffer.Reprogrammed dma₁ index chunks old geometry norm mode result buffer' dma' →
      ∀ setup, buffer'.setup = some setup → setup.program.HasTail := by
    intro dma₁ chunks old hnew setup hsetup
    cases hnew with
    | failed _ => cases hsetup
    | built hbuild =>
      obtain rfl := Option.some.inj hsetup
      exact hasTail_of_buildProgram hbuild
  obtain ⟨-, hdrain⟩ | ⟨-, _, -, -, rfl⟩ | ⟨-, _, _, -, hnew⟩ | ⟨setup, hsetup, -, -, rfl, -⟩ |
    ⟨_, -, hnew⟩ := prepare_cases h
  · intro setup hsetup
    cases (setup_of_drain hdrain).symm.trans hsetup
  · intro _ hnone
    cases hnone
  · exact hreprogrammed hnew
  · intro kept hkept
    obtain rfl := Option.some.inj hkept
    exact htail setup hsetup
  · exact hreprogrammed hnew

end CaptureBuffer

/-! ## Queues -/

namespace CaptureQueue

/-- The bus addresses of the programs of a queue, that of the stopper first. -/
def ranges (q : CaptureQueue) : List BusRange :=
  q.stopper.range :: q.buffers.flatMap CaptureBuffer.ranges

/-- The programs of a queue, the stopper first. -/
def programs (q : CaptureQueue) : List Program :=
  q.stopper :: q.buffers.filterMap fun buffer => buffer.setup.map Setup.program

/-- The ranges of a queue are those of its programs.

**Proof sketch.** Along the buffers, each of which has a program or none. -/
lemma ranges_eq_map (q : CaptureQueue) : q.ranges = q.programs.map Program.range := by
  have hbuffers : ∀ buffers : List CaptureBuffer, buffers.flatMap CaptureBuffer.ranges =
      (buffers.filterMap fun buffer => buffer.setup.map Setup.program).map Program.range := by
    intro buffers
    induction buffers with
    | nil => rfl
    | cons buffer rest ih =>
      rw [List.flatMap_cons, ih]
      cases hsetup : buffer.setup with
      | none => simp [CaptureBuffer.ranges, hsetup]
      | some setup => simp [CaptureBuffer.ranges, hsetup]
  rw [ranges, programs, List.map_cons, hbuffers]

/-- The program of a buffer is one of the queue's. -/
lemma mem_programs_of_setupOf {q : CaptureQueue} {i : Nat} {setup : Setup}
    (hsetup : q.setupOf i = some setup) : setup.program ∈ q.programs := by
  obtain ⟨buffer, hbuffer, hsome⟩ := Option.bind_eq_some_iff.mp hsetup
  refine List.mem_cons_of_mem _ (List.mem_filterMap.mpr ⟨buffer, ?_, ?_⟩)
  · exact List.mem_of_getElem? hbuffer
  · rw [hsome]
    rfl

/-- Every program of a queue but the stopper is that of a buffer. -/
lemma exists_setupOf_of_mem_programs {q : CaptureQueue} {program : Program}
    (h : program ∈ q.programs) :
    program = q.stopper ∨ ∃ i setup, q.setupOf i = some setup ∧ setup.program = program := by
  obtain rfl | h := List.mem_cons.mp h
  · exact .inl rfl
  · obtain ⟨buffer, hbuffer, hprogram⟩ := List.mem_filterMap.mp h
    obtain ⟨setup, hsetup, rfl⟩ := Option.map_eq_some_iff.mp hprogram
    obtain ⟨i, hi⟩ := List.mem_iff_getElem?.mp hbuffer
    exact .inr ⟨i, setup, Option.bind_eq_some_iff.mpr ⟨buffer, hi, hsetup⟩, rfl⟩

/-- Where the programs of a queue lie shows in its fixtures. -/
lemma ranges_eq_of_fixtures {q q' : CaptureQueue} (hfixtures : q'.fixtures = q.fixtures)
    (hstopper : q'.stopper = q.stopper) : q'.ranges = q.ranges := by
  have hranges : ∀ q : CaptureQueue,
      q.buffers.flatMap CaptureBuffer.ranges = q.fixtures.flatMap CaptureBuffer.ranges := by
    intro q
    rw [fixtures, List.flatMap_map]
    congr 1
    funext buffer
    rw [CaptureBuffer.ranges, CaptureBuffer.ranges, CaptureBuffer.fixture, Option.map_map]
    congr 2
    funext setup
    exact (Program.range_untied setup.program).symm
  rw [ranges, ranges, hranges, hranges, hfixtures, hstopper]

/-- Changing one buffer changes the ranges of that buffer only. -/
lemma ranges_set_perm {buffers : List CaptureBuffer} {i : Nat} (hi : i < buffers.length)
    (buffer : CaptureBuffer) :
    ((buffers.set i buffer).flatMap CaptureBuffer.ranges).Perm
      (buffer.ranges ++ (buffers.eraseIdx i).flatMap CaptureBuffer.ranges) :=
  (List.set_perm_cons_eraseIdx hi buffer).flatMap_right _

end CaptureQueue

namespace Channel

variable {δ : Type} [DmaBackend δ] [LawfulDmaBackend δ]

/-- The backend accounts for the programs of a queue and for what others hold, and every program has
its tail. -/
structure Stocked (others : List BusRange) (c : Channel δ) : Prop where
  /-- The backend accounts for the memory of the programs. -/
  holds : Holds c.dma (c.ranges ++ others)
  /-- The programs of buffers have their tails. -/
  tails : ∀ i setup, c.setupOf i = some setup → setup.program.HasTail
  /-- So has the stopper. -/
  stopperTail : c.stopper.HasTail
  /-- The stopper jumps to itself, without an interrupt. -/
  stopper : c.stopper.tailInstruction = some (.jumpTo c.stopper.address false)

variable {others : List BusRange} {c c' : Channel δ}

/-- No two programs of a queue share an address. -/
lemma Stocked.apart (hc : c.Stocked others) :
    (c.programs.map Program.range).Pairwise FreeRange.Apart := by
  rw [← CaptureQueue.ranges_eq_map]
  exact (List.pairwise_append.mp (LawfulDmaBackend.apart hc.holds)).1

/-- Every program of a queue has its tail. -/
lemma Stocked.hasTail (hc : c.Stocked others) {program : Program} (h : program ∈ c.programs) :
    program.HasTail := by
  obtain rfl | ⟨i, setup, hsetup, rfl⟩ := CaptureQueue.exists_setupOf_of_mem_programs h
  · exact hc.stopperTail
  · exact hc.tails i setup hsetup

/-- Scheduling does not touch what a queue holds. -/
lemma Stocked.of_sameHoldings (hc : c.Stocked others) (h : c.SameHoldings c') :
    c'.Stocked others where
  holds := by
    rw [CaptureQueue.ranges_eq_of_fixtures h.fixtures h.stopper, h.dma]
    exact hc.holds
  tails i setup hsetup := by
    obtain ⟨before, hbefore, huntied⟩ := CaptureQueue.exists_setupOf_of_fixtures h.fixtures hsetup
    have hprogram : before.program.untied = setup.program.untied := congrArg Setup.program huntied
    rw [← Program.hasTail_untied, ← hprogram, Program.hasTail_untied]
    exact hc.tails i before hbefore
  stopperTail := h.stopper ▸ hc.stopperTail
  stopper := by rw [h.stopper]; exact hc.stopper

/-- What others hold may change, as long as the backend accounts for it. -/
lemma Stocked.of_holds {others' : List BusRange} (hc : c.Stocked others)
    (hqueue : c'.toCaptureQueue = c.toCaptureQueue) (hholds : Holds c'.dma (c'.ranges ++ others')) :
    c'.Stocked others' where
  holds := hholds
  tails := hqueue ▸ hc.tails
  stopperTail := hqueue ▸ hc.stopperTail
  stopper := by rw [hqueue]; exact hc.stopper

/-- Releasing buffers settles their programs.

**Proof sketch.** Induction on the buffers. Each gives back the program that it holds, and nothing
of the others. -/
lemma holds_of_releaseAll {dma dma' : δ} {live : List BusRange} {index : Nat}
    {buffers released : List CaptureBuffer}
    (hdma : Holds dma (buffers.flatMap CaptureBuffer.ranges ++ live))
    (h : releaseAll dma index buffers = .ok (released, dma')) : Holds dma' live := by
  induction buffers generalizing dma index released with
  | nil =>
    obtain ⟨-, rfl⟩ := Prod.mk.inj (pure_eq_ok.mp h)
    exact hdma
  | cons buffer buffers ih =>
    simp only [releaseAll, bind_eq_ok, pure_eq_ok, Prod.mk.injEq] at h
    obtain ⟨⟨empty, dma₁⟩, hrelease, ⟨rest, dma₂⟩, hrest, -, rfl⟩ := h
    unfold CaptureBuffer.release at hrelease
    split at hrelease
    · cases hrelease
    · have hdrain : buffer.drain dma index = (empty, dma₁) := by simpa using hrelease
      rw [List.flatMap_cons, List.append_assoc] at hdma
      have hdrained := CaptureBuffer.holds_of_drain hdma hdrain
      have hempty : empty.ranges = [] := by
        rw [CaptureBuffer.ranges, CaptureBuffer.setup_of_drain hdrain]
        rfl
      rw [hempty] at hdrained
      exact ih hdrained hrest

/-- A queue whose buffers hold nothing holds its stopper. -/
lemma Stocked.of_empty (hc : c.Stocked others) (hdma : Holds c'.dma (c.stopper.range :: others))
    (hstopper : c'.stopper = c.stopper) (hempty : ∀ buffer ∈ c'.buffers, buffer.setup = none) :
    c'.Stocked others where
  holds := by
    have hranges : c'.buffers.flatMap CaptureBuffer.ranges = [] := by
      refine List.flatMap_eq_nil_iff.mpr fun buffer hbuffer => ?_
      rw [CaptureBuffer.ranges, hempty buffer hbuffer]
      rfl
    rw [CaptureQueue.ranges, hranges, hstopper]
    exact hdma
  tails i setup hsetup := by
    obtain ⟨buffer, hbuffer, hsome⟩ := Option.bind_eq_some_iff.mp hsetup
    rw [hempty buffer (List.mem_of_getElem? hbuffer)] at hsome
    cases hsome
  stopperTail := hstopper ▸ hc.stopperTail
  stopper := by rw [hstopper]; exact hc.stopper

/-- Replacing the buffers settles what they held. -/
lemma stocked_of_requestBuffers {count capacity : Nat} {result : Except Error Nat}
    (hc : c.Stocked others) (h : c.requestBuffers count capacity = .ok (result, c')) :
    c'.Stocked others := by
  obtain ⟨-, -, rfl⟩ | ⟨-, released, dma, hrelease, -, rfl⟩ := requestBuffers_cases h
  · exact hc
  · refine hc.of_empty ?_ rfl fun buffer hbuffer => ?_
    · exact holds_of_releaseAll (LawfulDmaBackend.perm hc.holds List.perm_middle.symm) hrelease
    · rw [(List.mem_replicate.mp hbuffer).2]

/-- Stopping capture settles what the buffers held. -/
lemma stocked_of_streamOff {result : Except Error Unit} (hc : c.Stocked others)
    (h : c.streamOff = .ok (result, c')) : c'.Stocked others := by
  obtain ⟨-, -, rfl⟩ | ⟨-, -, buffers, dma, hrelease, rfl⟩ := streamOff_cases h
  · exact hc
  · obtain ⟨rfl, -⟩ := released_of_releaseAll hrelease
    refine hc.of_empty ?_ rfl fun buffer hbuffer => ?_
    · have hall : Holds c.dma ((c.buffers.map fun buffer => { buffer with state := .error }).flatMap
          CaptureBuffer.ranges ++ c.stopper.range :: others) := by
        rw [List.flatMap_map]
        exact LawfulDmaBackend.perm hc.holds List.perm_middle.symm
      exact holds_of_releaseAll hall hrelease
    · obtain ⟨_, -, rfl⟩ := List.mem_map.mp hbuffer
      rfl

/-- Preparing a buffer accounts for its program.

**Proof sketch.** What the buffer held is taken out of the account and what it holds is entered,
with the stopper and all other buffers as the rest. -/
lemma stocked_of_prepare {i : Nat} {geometry : Geometry} {norm : Norm}
    {result : Except Error Unit} (hc : c.Stocked others)
    (h : c.prepare i geometry norm = .ok (result, c')) : c'.Stocked others := by
  obtain ⟨_, -, rfl⟩ | ⟨buffer, buffer', dma, -, hbuffer, -, hprepare, rfl⟩ := prepare_cases h
  · exact hc
  · obtain ⟨hi, rfl⟩ := List.getElem?_eq_some_iff.mp hbuffer
    -- the ranges with those of the buffer, as it was and as it is, in front of all others
    have hperm : ∀ b : CaptureBuffer,
        (c.stopper.range :: (c.buffers.set i b).flatMap CaptureBuffer.ranges ++ others).Perm
          (b.ranges ++ (c.stopper.range ::
            (c.buffers.eraseIdx i).flatMap CaptureBuffer.ranges ++ others)) := by
      intro b
      have hset := ((CaptureQueue.ranges_set_perm hi b).cons c.stopper.range).trans
        List.perm_middle.symm
      rw [← List.append_assoc]
      exact hset.append_right others
    have hbefore : Holds c.dma (c.buffers[i].ranges ++ (c.stopper.range ::
        (c.buffers.eraseIdx i).flatMap CaptureBuffer.ranges ++ others)) := by
      have hperm := hperm c.buffers[i]
      rw [List.set_getElem_self] at hperm
      exact LawfulDmaBackend.perm hc.holds hperm
    have hafter := CaptureBuffer.holds_of_prepare hbefore hprepare
    refine ⟨LawfulDmaBackend.perm hafter (hperm buffer').symm, fun j setup hsetup => ?_,
      hc.stopperTail, hc.stopper⟩
    obtain ⟨-, hsome⟩ | hbefore := CaptureQueue.setupOf_set hi hsetup
    · refine CaptureBuffer.hasTail_of_prepare (fun setup hsetup => ?_) hprepare setup hsome
      exact hc.tails i setup (Option.bind_eq_some_iff.mpr ⟨_, hbuffer, hsetup⟩)
    · exact hc.tails j setup hbefore

/-- **No operation loses count of memory.** -/
theorem keeping_stocked : Keeping fun c : Channel δ => c.Stocked others where
  request := stocked_of_requestBuffers
  prepare := stocked_of_prepare
  enqueue hc h := hc.of_sameHoldings (sameHoldings_of_enqueue h)
  dequeue hc h := hc.of_sameHoldings (sameHoldings_of_dequeue h)
  streamOn hc h := hc.of_sameHoldings (sameHoldings_of_streamOn h)
  streamOff := stocked_of_streamOff
  status hc h := hc.of_sameHoldings (sameHoldings_of_handleStatus h)
  timeout hc h := hc.of_sameHoldings (sameHoldings_of_checkTimeout h)
  maskAll hc := hc.of_sameHoldings ⟨rfl, rfl, rfl⟩
  report _ hc := hc.of_sameHoldings ⟨rfl, rfl, rfl⟩

/-- **A new queue holds its stopper.** -/
theorem stocked_of_create {regs : RegisterFile} {dma dma' : δ} {config : Config}
    (hdma : Holds dma others) (h : create regs dma config = (.ok c, dma')) : c.Stocked others := by
  obtain ⟨stopper, hstopper, rfl⟩ := create_eq_ok h
  obtain ⟨hholds, htail, hjump⟩ := Program.holds_of_stopper hdma hstopper
  exact ⟨hholds, by simp [CaptureQueue.setupOf], htail, hjump⟩

/-- **A queue that ends has given all its programs back**, and what others hold stays. -/
theorem holds_dispose (hc : c.Stocked others) : Holds c.dispose.2 others := by
  refine Program.holds_discardAll ?_
  have hholds := hc.holds
  rw [CaptureQueue.ranges_eq_map, CaptureQueue.programs, List.map_cons] at hholds
  rw [List.map_append]
  exact LawfulDmaBackend.perm hholds ((List.perm_append_singleton _ _).symm.append_right others)

end Channel

end VideoCapture
