import VideoCapture.Proofs.Engine.Silence
import VideoCapture.Proofs.Queue.Inventory
import VideoCapture.Proofs.Queue.Shutdown

/-!
# What is left when a queue ends

A queue that ends stops the engine and gives its programs back, that of the stopper included, so
that no coherent memory stays allocated, whatever state the queue is in. It does not undo mappings:
the buffers that hold anything in the end stay mapped. Only a queue of which every buffer has been
released before, by shutting it down or otherwise, leaves nothing behind.

## Main definitions

* `VideoCapture.Channel.Disposed` — what a queue leaves behind in the registers and the backend.

## Main results

* `VideoCapture.Engine.disabled_stop` — a stopped engine is disabled.
* `VideoCapture.Channel.disposed_of_reaches` — what a queue leaves behind after any session.
-/

set_option autoImplicit false

namespace VideoCapture

/-- **A stopped engine is disabled**, and none of its interrupts is passed on. -/
theorem Engine.disabled_stop (engine : Engine) (regs : RegisterFile) :
    (engine.stop regs).2.read32 Register.dmaControl &&& DmaControl.enables = 0 ∧
      (engine.stop regs).2.read32 Register.interruptMask &&& Status.video = 0 := by
  have hsilenced := RegisterFile.silenced_stop engine regs
  constructor
  · rw [hsilenced.dmaControl, UInt32.and_assoc, UInt32.not_and_self, UInt32.and_zero]
  · rw [hsilenced.interruptMask, UInt32.and_assoc, UInt32.not_and_self, UInt32.and_zero]

/-! ## Programs given back -/

/-- Programs that are given back are counted off, and concern no mapping.

**Proof sketch.** Along the programs, each of which is one less. -/
lemma HostDma.discard_all (dma : HostDma) (programs : List Program) :
    (programs.foldl (fun dma program => program.discard dma) dma).live =
        dma.live - programs.length ∧
      (programs.foldl (fun dma program => program.discard dma) dma).mapped = dma.mapped := by
  induction programs generalizing dma with
  | nil => exact ⟨rfl, rfl⟩
  | cons program rest ih =>
    obtain ⟨hlive, hmapped⟩ := ih (program.discard dma)
    refine ⟨hlive.trans ?_, hmapped⟩
    show dma.live - 1 - rest.length = dma.live - (rest.length + 1)
    omega

/-- Buffers have as many programs as are counted. -/
lemma length_programs (buffers : List CaptureBuffer) :
    (buffers.filterMap fun buffer => buffer.setup.map Setup.program).length =
      (buffers.map CaptureBuffer.tally).sum := by
  rw [sum_tally, List.length_filterMap_eq_countP]
  rfl

namespace Channel

variable {c c' : Channel HostDma}

/-- What a queue leaves behind when it ends. -/
structure Disposed (c : Channel HostDma) : Prop where
  /-- The engine is disabled. -/
  disabled : c.dispose.1.read32 Register.dmaControl &&& DmaControl.enables = 0
  /-- None of its interrupts is passed on. -/
  masked : c.dispose.1.read32 Register.interruptMask &&& Status.video = 0
  /-- No coherent memory is allocated. -/
  freed : c.dispose.2.live = 0
  /-- The buffers that did not need to be initialised stay mapped, and no others. -/
  left : ∀ i, i ∈ c.dispose.2.mapped.map Prod.fst ↔
    ∃ buffer, c.buffers[i]? = some buffer ∧ buffer.state ≠ .needsInit
  /-- So nothing stays mapped exactly if all needed to be initialised. -/
  clean : c.dispose.2.mapped = [] ↔ ∀ buffer ∈ c.buffers, buffer.state = .needsInit

/-- The backend of a queue that ends: the programs are counted off, and the mappings are kept. -/
lemma dma_dispose (c : Channel HostDma) :
    c.dispose.2.live = c.dma.live - ((c.buffers.map CaptureBuffer.tally).sum + 1) ∧
      c.dispose.2.mapped = c.dma.mapped := by
  obtain ⟨hlive, hmapped⟩ := c.dma.discard_all
    ((c.buffers.filterMap fun buffer => buffer.setup.map Setup.program) ++ [c.stopper])
  refine ⟨hlive.trans ?_, hmapped⟩
  rw [List.length_append, length_programs]
  rfl

/-- A queue whose backend agrees with the buffers leaves behind what they have mapped.

**Proof sketch.** Only the programs are given back, as many as are outstanding. The table stays as
it is, and it has an entry for each buffer that holds something. -/
lemma disposed_of_agreeing (hstaged : c.Staged) (hsited : c.Sited) (htallied : c.Tallied) :
    c.Disposed := by
  obtain ⟨hlive, hmapped⟩ := c.dma_dispose
  obtain ⟨hdisabled, hmasked⟩ := c.engine.disabled_stop c.regs
  have hleft : ∀ i, i ∈ c.dispose.2.mapped.map Prod.fst ↔
      ∃ buffer, c.buffers[i]? = some buffer ∧ buffer.state ≠ .needsInit := by
    intro i
    rw [hmapped, hsited.mem_mapped_iff]
    refine exists_congr fun buffer => and_congr_right fun hbuffer => ?_
    have hinit : buffer.state = .needsInit ↔ buffer.setup = none :=
      hstaged buffer (List.mem_of_getElem? hbuffer)
    simp [hinit, CaptureBuffer.parts]
  refine ⟨hdisabled, hmasked, ?_, hleft, fun hnil buffer hbuffer => ?_, fun hinit => ?_⟩
  · rw [hlive, htallied, Nat.sub_self]
  · obtain ⟨i, hi⟩ := List.mem_iff_getElem?.mp hbuffer
    refine Decidable.byContradiction fun hstate => ?_
    have hmem := (hleft i).mpr ⟨buffer, hi, hstate⟩
    rw [hnil] at hmem
    cases hmem
  · refine List.eq_nil_iff_forall_not_mem.mpr fun entry hentry => ?_
    obtain ⟨buffer, hbuffer, hstate⟩ := (hleft entry.1).mp (List.mem_map_of_mem hentry)
    exact hstate (hinit buffer (List.mem_of_getElem? hbuffer))

/-- **What a queue leaves behind after any session**, for a queue that has the backend for itself.
The engine is disabled and all programs have been given back; what was not released stays mapped. If
the queue is shut down first, which succeeds at any time, nothing does. -/
theorem disposed_of_reaches {regs : RegisterFile} {size : Nat} {limit : Option Nat}
    {dma : HostDma} {config : Config} {c₀ : Channel HostDma}
    (hcreate : create regs (HostDma.create size limit) config = (.ok c₀, dma))
    (h : c₀.Reaches c) :
    c.Disposed ∧ ∃ c', c.shutdown = .ok c' ∧ c'.Disposed ∧ c'.dispose.2.mapped = [] := by
  have hdisposed : ∀ {c : Channel HostDma}, c₀.Reaches c → c.Disposed := fun hreach =>
    disposed_of_agreeing (staged_of_reaches hcreate hreach) (sited_of_reaches hcreate hreach)
      (tallied_of_reaches hcreate hreach)
  obtain ⟨c', hshutdown⟩ := exists_shutdown (settled_of_reaches hcreate h)
  have hperform : c.perform .shutdown = .ok (.done, c') := bind_eq_ok.mpr ⟨c', hshutdown, rfl⟩
  have hended : c'.Disposed := hdisposed (h.perform hperform)
  refine ⟨hdisposed h, c', hshutdown, hended, hended.clean.mpr fun buffer hbuffer => ?_⟩
  rw [(off_of_shutdown hshutdown).2.1] at hbuffer
  cases hbuffer

/-- A queue that ends while three buffers are in its stream leaves them mapped. -/
theorem disposed_of_reaches_chained : ∃ c₀ dma c,
    create {} (HostDma.create HostDma.windowSize none) {} = (.ok c₀, dma) ∧ c₀.Reaches c ∧
      Engine.running c.regs = true ∧ c.dispose.2.mapped.map Prod.fst = [2, 1, 0] ∧
      c.Disposed ∧ ∃ c', c.shutdown = .ok c' ∧ c'.Disposed ∧ c'.dispose.2.mapped = [] := by
  have hview : viewFrom (HostDma.create HostDma.windowSize none) chainedOperations
      (fun c => (Engine.running c.regs, c.dispose.2.mapped.map Prod.fst)) =
        some (true, [2, 1, 0]) := by
    decide +kernel
  obtain ⟨c₀, dma, c, hcreate, hreach, hc⟩ := exists_session_of_viewFrom hview
  obtain ⟨hrunning, hmapped⟩ := Prod.mk.inj hc
  exact ⟨c₀, dma, c, hcreate, hreach, hrunning, hmapped, disposed_of_reaches hcreate hreach⟩

end Channel

end VideoCapture
