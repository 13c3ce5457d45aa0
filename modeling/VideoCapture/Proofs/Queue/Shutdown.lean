import VideoCapture.Proofs.Queue.Confinement
import VideoCapture.Proofs.Queue.Order
import VideoCapture.Proofs.Queue.Synchrony
import VideoCapture.Proofs.Queue.Tally

/-!
# Shutting a queue down

A queue may be shut down at any time: before capture, with a chain that runs, half drained, stopped
by a fault. It never comes to a buffer that cannot be released. While capture is on every buffer is
given up first, and while it is off none is in flight. Afterwards the engine is disabled, its
interrupts are masked, no buffer is left, nothing is mapped, and the stopper is the only program.

## Main definitions

* `VideoCapture.Channel.Kept` — what is kept by every operation and matters in the end.
* `VideoCapture.Channel.Cleared` — nothing is left but the stopper, and the engine is disabled.

## Main results

* `VideoCapture.Channel.kept_of_session` — every session keeps it.
* `VideoCapture.Channel.exists_shutdown`, `VideoCapture.Channel.Kept.exists_shutdown` — shutting
  down succeeds, and clears the queue.
-/

set_option autoImplicit false

namespace VideoCapture

/-! ## Releasing buffers -/

/-- Buffers can be released if none is in flight.

**Proof sketch.** Induction on the buffers. -/
lemma exists_releaseAll {δ : Type} [DmaBackend δ] {buffers : List CaptureBuffer}
    (h : ∀ buffer ∈ buffers, buffer.state.inFlight = false) (dma : δ) (index : Nat) :
    ∃ released dma', releaseAll dma index buffers = .ok (released, dma') := by
  induction buffers generalizing dma index with
  | nil => exact ⟨_, _, rfl⟩
  | cons buffer buffers ih =>
    obtain ⟨hfirst, hothers⟩ := List.forall_mem_cons.mp h
    have hrelease : buffer.release dma index = .ok (buffer.drain dma index) := by
      rw [CaptureBuffer.release, hfirst]
      rfl
    obtain ⟨released, dma', hrest⟩ := ih hothers (buffer.drain dma index).2 (index + 1)
    exact ⟨_, dma', bind_eq_ok.mpr ⟨_, hrelease, bind_eq_ok.mpr ⟨_, hrest, rfl⟩⟩⟩

/-! ## Disabled engines -/

/-- A word that has none of some bits and none of others has none of both. -/
lemma and_or_eq_zero {word a b : UInt32} (ha : word &&& a = 0) (hb : word &&& b = 0) :
    word &&& (a ||| b) = 0 := by
  rw [← UInt32.toBitVec_inj] at ha hb ⊢
  ext i hi
  have hbita := congrArg (fun b => b.getLsbD i) ha
  have hbitb := congrArg (fun b => b.getLsbD i) hb
  simp at hbita hbitb ⊢
  grind

/-- Where everything fits together a disabled engine has neither enable, and no interrupt is passed
on. -/
lemma Engine.Aligned.clear_of_disabled {engine : Engine} {regs : RegisterFile} {others : UInt32}
    (ha : engine.Aligned others regs) (hoff : Engine.running regs = false) :
    regs.read32 Register.dmaControl &&& DmaControl.enables = 0 ∧
      regs.read32 Register.interruptMask = 0 := by
  refine ⟨?_, ha.mask.trans (ha.silent hoff)⟩
  have hprogram : regs.read32 Register.dmaControl &&& DmaControl.programEnable = 0 := by
    simpa [Engine.running] using hoff
  have hqueue : regs.read32 Register.dmaControl &&& DmaControl.queueEnable = 0 := by
    simpa [Engine.queueing] using ha.enables.trans hoff
  exact and_or_eq_zero hprogram hqueue

namespace Channel

open CaptureQueue (Event)

/-! ## Success -/

section Success

variable {δ : Type} [DmaBackend δ] {c : Channel δ}

/-- Stopping capture succeeds, because every buffer is given up first. -/
lemma exists_streamOff (hon : c.streaming = true) : ∃ c', c.streamOff = .ok (.ok (), c') := by
  have hidle : ∀ buffer ∈ c.buffers.map fun buffer => { buffer with state := .error },
      buffer.state.inFlight = false := by
    intro buffer hbuffer
    obtain ⟨_, -, rfl⟩ := List.mem_map.mp hbuffer
    rfl
  obtain ⟨released, dma', hrelease⟩ := exists_releaseAll hidle c.dma 0
  unfold streamOff
  rw [hon]
  exact ⟨_, bind_eq_ok.mpr ⟨_, hrelease, rfl⟩⟩

/-- While capture is off all buffers can be given up for others. -/
lemma exists_requestBuffers (hsettled : c.Settled) (hoff : c.streaming = false)
    (count capacity : Nat) : ∃ c', c.requestBuffers count capacity = .ok (.ok count, c') := by
  have hidle : ∀ buffer ∈ c.buffers, buffer.state.inFlight = false := by
    intro buffer hbuffer
    obtain ⟨i, hi⟩ := List.mem_iff_getElem?.mp hbuffer
    have hstate := CaptureQueue.stateOf_of_getElem? hi
    refine eq_false_of_ne_true fun hflight => ?_
    obtain hrunning | hwaiting := (hsettled.off hoff).2.2.inFlight i _ hstate hflight
    · cases hrunning
    · cases hwaiting
  obtain ⟨released, dma', hrelease⟩ := exists_releaseAll hidle c.dma 0
  unfold requestBuffers
  rw [hoff]
  exact ⟨_, bind_eq_ok.mpr ⟨_, hrelease, rfl⟩⟩

/-- **Shutting down succeeds at any time.**

**Proof sketch.** Capture can be stopped if it is on, and once it is off all buffers can be given
up. -/
theorem exists_shutdown (hsettled : c.Settled) : ∃ c', c.shutdown = .ok c' := by
  cases hstreaming : c.streaming with
  | false =>
    obtain ⟨c', hrequest⟩ := exists_requestBuffers hsettled hstreaming 0 0
    unfold shutdown
    rw [hstreaming]
    exact ⟨_, bind_eq_ok.mpr ⟨c, rfl, bind_eq_ok.mpr ⟨_, hrequest, rfl⟩⟩⟩
  | true =>
    obtain ⟨c₁, hoff⟩ := exists_streamOff hstreaming
    have hstopped : c₁.streaming = false := by
      obtain ⟨-, hrefused, -⟩ | ⟨-, -, _, _, -, rfl⟩ := streamOff_cases hoff
      · cases hrefused
      · rfl
    obtain ⟨c', hrequest⟩ :=
      exists_requestBuffers (keeping_settled.streamOff hsettled hoff) hstopped 0 0
    unfold shutdown
    rw [hstreaming]
    exact ⟨_, bind_eq_ok.mpr
      ⟨_, hoff, bind_eq_ok.mpr ⟨c₁, rfl, bind_eq_ok.mpr ⟨_, hrequest, rfl⟩⟩⟩⟩

/-- Shutting down leaves capture off and no buffers. -/
lemma off_of_shutdown {c' : Channel δ} (h : c.shutdown = .ok c') :
    c'.streaming = false ∧ c'.buffers = [] ∧ c'.stream = [] := by
  obtain ⟨c₁, hbefore, result, hrequest⟩ := shutdown_cases h
  have hoff : c₁.streaming = false := by
    obtain ⟨hoff, rfl⟩ | ⟨hon, _, hstop⟩ := hbefore
    · exact hoff
    · obtain ⟨hoff, -, -⟩ | ⟨-, -, _, _, -, rfl⟩ := streamOff_cases hstop
      · exact absurd (hoff.symm.trans hon) nofun
      · rfl
  obtain ⟨hon, -⟩ | ⟨-, _, _, -, -, rfl⟩ := requestBuffers_cases hrequest
  · exact absurd (hoff.symm.trans hon) nofun
  · exact ⟨hoff, rfl, rfl⟩

end Success

/-! ## What is left -/

variable {c c' : Channel HostDma} {others : UInt32}

/-- What is kept by every operation and matters in the end: every buffer is in its place, the table
and the count of the backend agree with the buffers, and the engine is enabled as the queue has
it. -/
structure Kept (others : UInt32) (c : Channel HostDma) : Prop where
  /-- Every buffer is in its place. -/
  settled : c.Settled
  /-- The table agrees with the buffers. -/
  sited : c.Sited
  /-- So does the count. -/
  tallied : c.Tallied
  /-- The engine is enabled as the queue has it. -/
  controlled : c.Controlled others

/-- Nothing is left of a queue but its stopper, and the engine is disabled. -/
structure Cleared (c : Channel HostDma) : Prop where
  /-- Capture is off. -/
  off : c.streaming = false
  /-- There are no buffers. -/
  buffers : c.buffers = []
  /-- None is handed in, running or waiting. -/
  lists : c.stream = [] ∧ c.active = [] ∧ c.queued = []
  /-- The engine is disabled. -/
  disabled : c.regs.read32 Register.dmaControl &&& DmaControl.enables = 0
  /-- No interrupt is passed on. -/
  masked : c.regs.read32 Register.interruptMask = 0
  /-- Nothing is mapped. -/
  unmapped : c.dma.mapped = []
  /-- Only the stopper is allocated. -/
  alone : c.dma.live = 1

/-- Without capture and without buffers nothing is left. -/
lemma Kept.cleared (hc : c.Kept others) (hoff : c.streaming = false) (hbuffers : c.buffers = [])
    (hstream : c.stream = []) : c.Cleared where
  off := hoff
  buffers := hbuffers
  lists := ⟨hstream, (hc.settled.off hoff).1, (hc.settled.off hoff).2.1⟩
  disabled := (hc.controlled.aligned.clear_of_disabled (hc.controlled.off hoff)).1
  masked := (hc.controlled.aligned.clear_of_disabled (hc.controlled.off hoff)).2
  unmapped := eq_nil_of_lookup fun i => (hc.sited.table i).trans (by rw [hbuffers]; rfl)
  alone := hc.tallied.trans (by rw [hbuffers]; rfl)

/-- **Shutting down succeeds at any time and clears the queue.** -/
theorem Kept.exists_shutdown (hc : c.Kept others) : ∃ c', c.shutdown = .ok c' ∧ c'.Cleared := by
  obtain ⟨c', hshutdown⟩ := Channel.exists_shutdown hc.settled
  obtain ⟨hoff, hbuffers, hstream⟩ := off_of_shutdown hshutdown
  have hkept : c'.Kept others :=
    ⟨keeping_settled.relating.shutdown hshutdown hc.settled,
      keeping_sited.relating.shutdown hshutdown hc.sited,
      keeping_tallied.relating.shutdown hshutdown hc.tallied,
      keeping_controlled.relating.shutdown hshutdown hc.controlled⟩
  exact ⟨c', hshutdown, hkept.cleared hoff hbuffers hstream⟩

/-- **Every session keeps it**, for a queue that is created on registers with the engine disabled
and no interrupt passed on, and that has its backend for itself. -/
theorem kept_of_session {regs : RegisterFile} {size : Nat} {limit : Option Nat} {dma : HostDma}
    {config : Config} {c₀ : Channel HostDma} {events : List Event}
    (hcreate : create regs (HostDma.create size limit) config = (.ok c₀, dma))
    (henables : regs.read32 Register.dmaControl &&& DmaControl.enables = 0)
    (hmask : regs.read32 Register.interruptMask = 0)
    (h : c₀.Session (fun _ _ => True) RegisterFile.SameControl events c) :
    c.Kept (regs.read32 Register.dmaControl &&& ~~~DmaControl.capture) where
  settled := settled_of_reaches hcreate h.reaches
  sited := sited_of_reaches hcreate h.reaches
  tallied := tallied_of_reaches hcreate h.reaches
  controlled := controlled_of_session hcreate henables hmask h

end Channel

end VideoCapture
