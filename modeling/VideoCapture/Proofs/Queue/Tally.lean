import VideoCapture.Proofs.Dma.Mapping
import VideoCapture.Proofs.Queue.Scheduling
import VideoCapture.Proofs.Queue.Session
import Mathlib.Algebra.GroupWithZero.Nat
import Mathlib.Data.List.Perm.Basic

/-!
# Programs are counted

A backend without hardware counts the coherent allocations that are outstanding. For a queue that
has the backend for itself these are its programs: that of the stopper, and one for each buffer that
holds anything. This needs no account of where the programs lie, so it holds in a window of any
size.

## Main definitions

* `VideoCapture.CaptureBuffer.tally` — how many programs a buffer holds.
* `VideoCapture.Channel.Tallied` — the allocations outstanding are the programs of the queue.

## Main results

* `VideoCapture.CaptureBuffer.live_of_prepare` — preparing a buffer, however it ends.
* `VideoCapture.live_of_releaseAll` — releasing buffers.
* `VideoCapture.Channel.keeping_tallied` — no operation loses count.
-/

set_option autoImplicit false

namespace VideoCapture

/-! ## Services -/

namespace HostDma

variable {dma dma' : HostDma} {size : Nat}

/-- An allocation is counted. -/
lemma live_of_allocate {memory : CoherentMemory}
    (h : dma.allocate size = (.ok memory, dma')) : dma'.live = dma.live + 1 := by
  unfold allocate at h
  split at h
  · cases h
  · split at h
    · cases h
    · obtain ⟨-, rfl⟩ := Prod.mk.inj h
      rfl

end HostDma

namespace Program

variable {dma dma' : HostDma}

/-- The stopper counts as one. -/
lemma live_of_stopper {program : Program} (h : stopper dma = (.ok program, dma')) :
    dma'.live = dma.live + 1 := by
  unfold stopper at h
  split at h
  · cases h
  · next hallocate =>
    obtain ⟨-, rfl⟩ := Prod.mk.inj h
    exact HostDma.live_of_allocate hallocate

/-- A program that is built counts as one. -/
lemma live_of_build {chunks : ScatterList} {layout : ProgramLayout} {mode : LineOffset}
    {built : Except Error Program} (h : build dma chunks layout mode = .ok (built, dma')) :
    dma'.live = (built.toOption.elim 0 fun _ => 1) + dma.live := by
  obtain ⟨_, hallocate, rfl⟩ | ⟨_, _, hallocate, -, rfl⟩ := build_cases h
  · rw [HostDma.eq_of_allocate_error hallocate]
    exact (Nat.zero_add _).symm
  · exact (HostDma.live_of_allocate hallocate).trans (Nat.add_comm _ 1)

end Program

/-! ## Buffers -/

namespace CaptureBuffer

/-- How many programs a buffer holds. -/
def tally (buffer : CaptureBuffer) : Nat :=
  buffer.setup.elim 0 fun _ => 1

/-- Scheduling leaves the count alone. -/
lemma tally_fixture (buffer : CaptureBuffer) : buffer.fixture.tally = buffer.tally := by
  unfold tally fixture
  cases buffer.setup <;> rfl

variable {dma dma' : HostDma} {others index : Nat} {chunks : ScatterList} {geometry : Geometry}
  {norm : Norm} {mode : LineOffset} {buffer buffer' : CaptureBuffer} {result : Except Error Unit}

/-- One allocation more is outstanding if a program is built, and none if it is not. -/
lemma live_of_buildProgram {built : Except Error Program}
    (h : buildProgram dma chunks geometry mode = .ok (built, dma')) :
    dma'.live = (built.toOption.elim 0 fun _ => 1) + dma.live := by
  obtain ⟨-, rfl, rfl⟩ | ⟨-, rfl, rfl⟩ | ⟨-, layout, -, hbuild⟩ := buildProgram_cases h
  · exact (Nat.zero_add _).symm
  · exact (Nat.zero_add _).symm
  · exact Program.live_of_build hbuild

/-- Draining a buffer gives its program back. -/
lemma live_of_drain (hlive : dma.live = buffer.tally + others)
    (h : buffer.drain dma index = (buffer', dma')) : dma'.live = buffer'.tally + others := by
  unfold drain at h
  split at h
  · next hsetup =>
    obtain ⟨rfl, rfl⟩ := Prod.mk.inj h
    rwa [tally, hsetup] at hlive
  · next setup hsetup =>
    obtain ⟨rfl, rfl⟩ := Prod.mk.inj h
    rw [tally, hsetup] at hlive
    show ((setup.program.discard dma).unmap index).live = 0 + others
    rw [HostDma.live_unmap]
    show dma.live - 1 = 0 + others
    rw [hlive, Option.elim_some, Nat.add_sub_cancel_left, Nat.zero_add]

/-- Giving a buffer a new program gives the old one back. -/
lemma live_of_reprogrammed {old : Option Program}
    (hlive : dma.live = (old.elim 0 fun _ => 1) + others)
    (h : buffer.Reprogrammed dma index chunks old geometry norm mode result buffer' dma') :
    dma'.live = buffer'.tally + others := by
  -- one program less, if there was an old one
  have hdiscard : ∀ (dma₁ : HostDma) (new : Nat), dma₁.live = new + dma.live →
      (old.elim dma₁ fun program => program.discard dma₁).live = new + others := by
    intro dma₁ new hnew
    rw [hlive] at hnew
    cases old with
    | none => exact hnew.trans (congrArg (new + ·) (Nat.zero_add others))
    | some program =>
      show dma₁.live - 1 = new + others
      rw [hnew, Option.elim_some, Nat.add_left_comm, Nat.add_sub_cancel_left]
  cases h with
  | failed hbuild =>
    exact (HostDma.live_unmap _ index).trans (hdiscard _ 0 (live_of_buildProgram hbuild))
  | built hbuild => exact hdiscard _ 1 (live_of_buildProgram hbuild)

/-- **Preparing a buffer keeps count of its program**, however it ends. -/
theorem live_of_prepare (hlive : dma.live = buffer.tally + others)
    (h : buffer.prepare dma index geometry norm mode = .ok (result, buffer', dma')) :
    dma'.live = buffer'.tally + others := by
  obtain ⟨-, hdrain⟩ | ⟨hsetup, _, hmap, -, rfl⟩ | ⟨hsetup, _, _, hmap, hnew⟩ |
    ⟨setup, hsetup, -, -, rfl, rfl⟩ | ⟨setup, hsetup, hnew⟩ := prepare_cases h
  · exact live_of_drain hlive hdrain
  · rw [tally, hsetup] at hlive
    exact (HostDma.live_of_map hmap).trans hlive
  · rw [tally, hsetup] at hlive
    exact live_of_reprogrammed ((HostDma.live_of_map hmap).trans hlive) hnew
  · rwa [tally, hsetup] at hlive
  · rw [tally, hsetup] at hlive
    exact live_of_reprogrammed hlive hnew

end CaptureBuffer

/-- **Buffers that are released give all programs back.**

**Proof sketch.** Along the buffers. Releasing one drains it, which gives its program back if it has
one (`CaptureBuffer.live_of_drain`). -/
theorem live_of_releaseAll {dma dma' : HostDma} {others index : Nat}
    {buffers released : List CaptureBuffer}
    (hlive : dma.live = (buffers.map CaptureBuffer.tally).sum + others)
    (h : releaseAll dma index buffers = .ok (released, dma')) : dma'.live = others := by
  induction buffers generalizing dma index released with
  | nil =>
    obtain ⟨-, rfl⟩ := Prod.mk.inj (pure_eq_ok.mp h)
    exact hlive.trans (Nat.zero_add _)
  | cons buffer buffers ih =>
    simp only [releaseAll, bind_eq_ok, pure_eq_ok, Prod.mk.injEq] at h
    obtain ⟨⟨empty, dma₁⟩, hrelease, ⟨rest, dma₂⟩, hrest, -, rfl⟩ := h
    unfold CaptureBuffer.release at hrelease
    split at hrelease
    · cases hrelease
    · have hdrain : buffer.drain dma index = (empty, dma₁) := by simpa using hrelease
      rw [List.map_cons, List.sum_cons, Nat.add_assoc] at hlive
      have hdrained := CaptureBuffer.live_of_drain hlive hdrain
      rw [CaptureBuffer.tally, CaptureBuffer.setup_of_drain hdrain] at hdrained
      exact ih (hdrained.trans (Nat.zero_add _)) hrest

/-! ## Queues -/

/-- The count of a buffer, as it is or as it may become, stands apart from the count of all
others. -/
lemma sum_tally_set {buffers : List CaptureBuffer} {i : Nat} {buffer : CaptureBuffer}
    (hbuffer : buffers[i]? = some buffer) :
    let others := ((buffers.eraseIdx i).map CaptureBuffer.tally).sum
    (buffers.map CaptureBuffer.tally).sum = buffer.tally + others ∧
      ∀ after, ((buffers.set i after).map CaptureBuffer.tally).sum = after.tally + others := by
  obtain ⟨hi, rfl⟩ := List.getElem?_eq_some_iff.mp hbuffer
  have hset : ∀ after : CaptureBuffer, ((buffers.set i after).map CaptureBuffer.tally).sum =
      after.tally + ((buffers.eraseIdx i).map CaptureBuffer.tally).sum := by
    intro after
    rw [((List.set_perm_cons_eraseIdx hi after).map _).sum_nat, List.map_cons, List.sum_cons]
  refine ⟨?_, hset⟩
  rw [← hset, List.set_getElem_self]

namespace Channel

variable {c c' : Channel HostDma}

/-- The coherent allocations outstanding are the programs of the buffers and the stopper. -/
def Tallied (c : Channel HostDma) : Prop :=
  c.dma.live = (c.buffers.map CaptureBuffer.tally).sum + 1

/-- Scheduling leaves the count alone. -/
lemma Tallied.of_sameHoldings (hc : c.Tallied) (h : c.SameHoldings c') : c'.Tallied := by
  have hview : ∀ q : CaptureQueue,
      q.buffers.map CaptureBuffer.tally = q.fixtures.map CaptureBuffer.tally := by
    intro q
    rw [CaptureQueue.fixtures, List.map_map]
    exact List.map_congr_left fun buffer _ => buffer.tally_fixture.symm
  rw [Tallied, h.dma, hview, h.fixtures, ← hview]
  exact hc

/-- With no programs but the stopper one is counted. -/
lemma tallied_of_empty (hlive : c.dma.live = 1)
    (hempty : ∀ buffer ∈ c.buffers, buffer.setup = none) : c.Tallied := by
  have hnone : c.buffers.map CaptureBuffer.tally = List.replicate c.buffers.length 0 := by
    refine List.map_eq_replicate_iff.mpr fun buffer hbuffer => ?_
    rw [CaptureBuffer.tally, hempty buffer hbuffer]
    rfl
  rw [Tallied, hnone, List.sum_replicate_nat, Nat.mul_zero, hlive]

/-- Replacing buffers gives the programs of the old ones back, and the new ones have none. -/
lemma tallied_of_requestBuffers {count capacity : Nat} {result : Except Error Nat}
    (hc : c.Tallied) (h : c.requestBuffers count capacity = .ok (result, c')) : c'.Tallied := by
  obtain ⟨-, -, rfl⟩ | ⟨-, released, dma, hrelease, -, rfl⟩ := requestBuffers_cases h
  · exact hc
  · refine tallied_of_empty (live_of_releaseAll hc hrelease) fun buffer hbuffer => ?_
    rw [(List.mem_replicate.mp hbuffer).2]

/-- Stopping capture leaves the programs. -/
lemma tallied_of_streamOff {result : Except Error Unit} (hc : c.Tallied)
    (h : c.streamOff = .ok (result, c')) : c'.Tallied := by
  obtain ⟨-, -, rfl⟩ | ⟨-, -, buffers, dma, hrelease, rfl⟩ := streamOff_cases h
  · exact hc
  · obtain ⟨rfl, -⟩ := released_of_releaseAll hrelease
    refine tallied_of_empty (live_of_releaseAll ?_ hrelease) fun buffer hbuffer => ?_
    · rw [List.map_map]
      exact hc
    · obtain ⟨_, -, rfl⟩ := List.mem_map.mp hbuffer
      rfl

/-- Preparing a buffer replaces its program by one at most, and gives the old one back. -/
lemma tallied_of_prepare {i : Nat} {geometry : Geometry} {norm : Norm}
    {result : Except Error Unit} (hc : c.Tallied)
    (h : c.prepare i geometry norm = .ok (result, c')) : c'.Tallied := by
  obtain ⟨_, -, rfl⟩ | ⟨buffer, buffer', dma, -, hbuffer, -, hprepare, rfl⟩ := prepare_cases h
  · exact hc
  · obtain ⟨hbefore, hsum⟩ := sum_tally_set hbuffer
    rw [Tallied, hbefore, Nat.add_assoc] at hc
    refine (CaptureBuffer.live_of_prepare hc hprepare).trans ?_
    rw [hsum, Nat.add_assoc]

/-- **No operation loses count of the programs.** -/
theorem keeping_tallied : Keeping fun c : Channel HostDma => c.Tallied where
  request := tallied_of_requestBuffers
  prepare := tallied_of_prepare
  enqueue hc h := hc.of_sameHoldings (sameHoldings_of_enqueue h)
  dequeue hc h := hc.of_sameHoldings (sameHoldings_of_dequeue h)
  streamOn hc h := hc.of_sameHoldings (sameHoldings_of_streamOn h)
  streamOff := tallied_of_streamOff
  status hc h := hc.of_sameHoldings (sameHoldings_of_handleStatus h)
  timeout hc h := hc.of_sameHoldings (sameHoldings_of_checkTimeout h)
  maskAll hc := hc.of_sameHoldings ⟨rfl, rfl, rfl⟩
  report _ hc := hc.of_sameHoldings ⟨rfl, rfl, rfl⟩

/-- A new queue counts its stopper. -/
lemma tallied_of_create {regs : RegisterFile} {dma dma' : HostDma} {config : Config}
    (hnone : dma.live = 0) (h : create regs dma config = (.ok c, dma')) : c.Tallied := by
  obtain ⟨stopper, hstopper, rfl⟩ := create_eq_ok h
  refine tallied_of_empty ?_ (by simp)
  show dma'.live = 1
  rw [Program.live_of_stopper hstopper, hnone]

/-- In every session the programs are counted. -/
lemma tallied_of_reaches {regs : RegisterFile} {size : Nat} {limit : Option Nat} {dma : HostDma}
    {config : Config} {c₀ : Channel HostDma}
    (hcreate : create regs (HostDma.create size limit) config = (.ok c₀, dma))
    (h : c₀.Reaches c) : c.Tallied :=
  keeping_tallied.of_reaches (fun _ _ hc => hc.of_sameHoldings ⟨rfl, rfl, rfl⟩)
    (tallied_of_create rfl hcreate) h

end Channel

end VideoCapture
