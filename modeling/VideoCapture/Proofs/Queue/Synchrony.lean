import VideoCapture.Proofs.Engine.Control
import VideoCapture.Proofs.Queue.Watch

/-!
# The scheduler and the engine keep in step

What the queue knows of its chain, what it remembers of the interrupt mask and what the registers
hold are changed by different hands and one after the other. Stopping and starting come in many
orders: a completion, a fault, a stall and a resumption all stop the engine, and most of them start
it again. When an operation is over everything is in step: a chain has a deadline and an engine that
runs, an engine that is disabled has its interrupts masked, and without capture it is disabled.

The chip moves its program pointer and latches interrupt status by itself, and the decoder has
registers of its own. Only the DMA control register and the interrupt mask have to be left to the
queue.

## Main definitions

* `VideoCapture.Channel.Controlled` — the engine is enabled as the queue has it.

## Main results

* `VideoCapture.Channel.controlled_of_startHead`, `VideoCapture.Channel.controlled_of_restart`,
  `VideoCapture.Channel.controlled_of_place` — buffers enter the chain.
* `VideoCapture.Channel.keeping_controlled` — no operation gets out of step.
* `VideoCapture.Channel.inStep_of_session` — the scheduler and the engine keep in step.
-/

set_option autoImplicit false

namespace VideoCapture

namespace Channel

open CaptureQueue (Operation Answer Event)

variable {δ : Type} {c c' : Channel δ} {now : Int} {others : UInt32}

/-- The engine is enabled as the queue has it. Of the DMA control register the bits that are not the
capture path's are `others`. -/
structure Controlled (others : UInt32) (c : Channel δ) : Prop where
  /-- The two registers and the memory of the mask fit together. -/
  aligned : c.engine.Aligned others c.regs
  /-- While there is a chain capture is on and the engine is enabled. -/
  chain : c.active ≠ [] → c.streaming = true ∧ Engine.running c.regs = true
  /-- While capture is off the engine is disabled. -/
  off : c.streaming = false → Engine.running c.regs = false

/-- Without a chain nothing else is asked while capture is on. -/
lemma controlled_of_idle (haligned : c.engine.Aligned others c.regs) (hon : c.streaming = true)
    (hidle : c.active = []) : c.Controlled others :=
  ⟨haligned, fun hne => absurd hidle hne, fun hoff => absurd (hon.symm.trans hoff) nofun⟩

/-- What is controlled stays so as long as the two registers hold the same. -/
lemma Controlled.congr {regs : RegisterFile} (hc : c.Controlled others)
    (h : c.regs.SameControl regs) : Controlled others { c with regs } := by
  refine ⟨hc.aligned.congr h, fun hne => ⟨(hc.chain hne).1, ?_⟩, fun hoff => ?_⟩
  · exact (Engine.running_congr h).trans (hc.chain hne).2
  · exact (Engine.running_congr h).trans (hc.off hoff)

/-- Without capture there is no chain. -/
lemma Controlled.idle (hc : c.Controlled others) (hoff : c.streaming = false) : c.active = [] :=
  Decidable.not_not.mp fun hne => absurd ((hc.chain hne).1.symm.trans hoff) nofun

/-! ## Starting and stopping -/

/-- The engine is started while capture is on. -/
lemma controlled_of_startHead (h : c.startHead now = .ok c')
    (haligned : c.engine.Aligned others c.regs) (hon : c.streaming = true) :
    c'.Controlled others := by
  have hon' : c'.streaming = true := (steady_of_startHead h).streaming.trans hon
  obtain ⟨hidle, rfl⟩ | ⟨head, rest, q, setup, engine, regs, -, -, -, hstart, rfl⟩ :=
    startHead_cases h
  · exact controlled_of_idle haligned hon hidle
  · refine ⟨Engine.aligned_of_start haligned hstart, fun _ => ⟨hon', ?_⟩, fun hoff => ?_⟩
    · exact Engine.running_start hstart
    · exact absurd (hon'.symm.trans hoff) nofun

/-- The engine is started anew while capture is on. -/
lemma controlled_of_restart (h : c.restart now = .ok c')
    (haligned : c.engine.Aligned others c.regs) (hon : c.streaming = true) :
    c'.Controlled others := by
  obtain ⟨-, hstart⟩ | ⟨q, -, hpromote, hstart⟩ := restart_cases h
  · exact controlled_of_startHead hstart haligned hon
  · obtain ⟨taken, hq⟩ := CaptureQueue.promoted_of_promote hpromote
    have hengine : q.engine = c.engine := by rw [hq.rest]
    have hstreaming : q.streaming = c.streaming := by rw [hq.rest]
    refine controlled_of_startHead hstart ?_ (hstreaming.trans hon)
    exact hengine ▸ haligned

/-- A buffer finds its place while capture is on. -/
lemma controlled_of_place {i : Nat} (h : c.place now i = .ok c') (hon : c.streaming = true)
    (hc : c.Controlled others) : c'.Controlled others := by
  obtain ⟨-, ⟨-, rfl⟩ | ⟨-, -, -, hstart⟩ |
    ⟨previous, spliced, -, -, hlast, -, hsplice, rfl⟩⟩ := place_cases h
  · exact ⟨hc.aligned, hc.chain, hc.off⟩
  · exact controlled_of_startHead hstart hc.aligned hon
  · -- the chain that is joined runs already
    obtain ⟨-, -, target, -, -, rfl⟩ := CaptureQueue.splice_eq_ok.mp hsplice
    have hchain := hc.chain (List.ne_nil_of_mem (List.mem_of_getLast? hlast))
    exact ⟨hc.aligned, fun _ => hchain, hc.off⟩

/-- The head of the chain is retired. -/
lemma controlled_of_completeHead {q : CaptureQueue} (h : c.completeHead now = .ok q)
    (hc : c.Controlled others) : Controlled others { c with toCaptureQueue := q } := by
  obtain ⟨-, rfl⟩ | ⟨head, rest, setup, hactive, -, rfl⟩ := CaptureQueue.completeHead_cases h
  · exact hc
  · have hne : c.active ≠ [] := List.ne_nil_of_mem (hactive ▸ List.mem_cons_self)
    exact ⟨hc.aligned, fun _ => hc.chain hne, hc.off⟩

/-- The engine parks. -/
lemma controlled_of_park (h : c.park now = .ok c') (hon : c.streaming = true)
    (hc : c.Controlled others) : c'.Controlled others := by
  have hstopped := Engine.aligned_stop hc.aligned
  obtain ⟨hidle, -, rfl⟩ | ⟨-, hrestart⟩ := park_cases h
  · exact controlled_of_idle hstopped hon hidle
  · exact controlled_of_restart hrestart hstopped hon

/-! ## Operations -/

/-- Starting or resuming capture enables the engine just as the queue notes it. -/
lemma controlled_of_streamOn {result : Except Error Unit} (hc : c.Controlled others)
    (h : c.streamOn now = .ok (result, c')) : c'.Controlled others := by
  obtain ⟨-, -, -, rfl⟩ | ⟨hon, -, -, hrestart⟩ | ⟨hoff, -, hplace⟩ := streamOn_cases h
  · exact hc
  · exact controlled_of_restart hrestart (Engine.aligned_stop hc.aligned) hon
  · -- each buffer is placed with capture on and the engine in step
    have hstart : Controlled others { c with fault := none, streaming := true } :=
      controlled_of_idle hc.aligned rfl (hc.idle hoff)
    have hplaced := placeAll_keeps
      (P := fun c : Channel δ => c.streaming = true ∧ c.Controlled others)
      (fun _ _ _ ⟨hon, hc⟩ hone => ⟨(steady_of_place hone).streaming.trans hon,
        controlled_of_place hone hon hc⟩) hplace ⟨rfl, hstart⟩
    exact hplaced.2

/-- Handing a buffer in enables the engine just as the queue notes it. -/
lemma controlled_of_enqueue {i : Nat} {result : Except Error Unit} (hc : c.Controlled others)
    (h : c.enqueue now i = .ok (result, c')) : c'.Controlled others := by
  obtain ⟨_, -, rfl⟩ | ⟨-, -, -, ⟨hon, hplace⟩ | ⟨-, rfl⟩⟩ := enqueue_cases h
  · exact hc
  · exact controlled_of_place hplace hon ⟨hc.aligned, hc.chain, hc.off⟩
  · exact ⟨hc.aligned, hc.chain, hc.off⟩

/-- A completion disables the engine, or leaves it on, just as the queue notes it. -/
lemma controlled_of_handleCompletion (h : c.handleCompletion now = .ok c')
    (hon : c.streaming = true) (hc : c.Controlled others) : c'.Controlled others := by
  obtain ⟨-, rfl⟩ | ⟨q, -, hcomplete, hcase⟩ := handleCompletion_cases h
  · exact hc
  · have hretired := controlled_of_completeHead hcomplete hc
    obtain ⟨_, _, _, _, _, rfl⟩ := CaptureQueue.completeHead_rest hcomplete
    obtain ⟨-, hpark⟩ | ⟨-, rfl⟩ := hcase
    · exact controlled_of_park hpark hon hretired
    · exact hretired

/-- Interrupt status leaves the engine as the queue notes it.

**Proof sketch.** Acknowledging interrupts is a write to another register. A fault stops the engine
with no chain left, and a completion keeps it controlled. -/
lemma controlled_of_handleStatus {status : UInt32} {mine : Bool} (hc : c.Controlled others)
    (h : c.handleStatus now status = .ok (mine, c')) : c'.Controlled others := by
  have hacknowledged := hc.congr (RegisterFile.sameControl_write32
    Register.interruptStatus Status.video (by decide) (by decide))
  obtain ⟨-, -, rfl⟩ | ⟨-, -, ⟨-, rfl⟩ | ⟨hon, -, hfail⟩ | ⟨hon, -, hcompletion⟩⟩ :=
    handleStatus_cases h
  · exact hc
  · exact hacknowledged
  · obtain ⟨q, backlog, hq, rfl⟩ := failStop_cases hfail
    refine controlled_of_idle ?_ ?_ ?_
    · show q.engine.Aligned others _
      rw [hq.rest]
      exact Engine.aligned_stop hacknowledged.aligned
    · show q.streaming = true
      rw [hq.rest]
      exact hon
    · show q.active = []
      rw [hq.rest]
  · exact controlled_of_handleCompletion hcompletion hon hacknowledged

/-- Recovering from a stall leaves the engine as the queue notes it. -/
lemma controlled_of_checkTimeout {stalled : Bool} (hc : c.Controlled others)
    (h : c.checkTimeout now = .ok (stalled, c')) : c'.Controlled others := by
  obtain ⟨-, rfl, -⟩ | ⟨-, -, rfl⟩ | ⟨-, hactive, q, hq, hrestart⟩ := checkTimeout_cases h
  · exact hc
  · exact ⟨hc.aligned, hc.chain, hc.off⟩
  · refine controlled_of_restart hrestart ?_ ?_
    · show q.engine.Aligned others _
      rw [hq.rest]
      exact Engine.aligned_stop hc.aligned
    · show q.streaming = true
      rw [hq.rest]
      exact (hc.chain hactive).1

variable [DmaBackend δ]

/-- **No operation gets the engine out of step.**

**Proof sketch.** One case for each operation. Those that touch the engine have a lemma each; the
others leave registers, chain and streaming as they are. -/
theorem keeping_controlled : Keeping fun c : Channel δ => c.Controlled others where
  request hc h := by
    obtain ⟨-, -, rfl⟩ | ⟨-, _, _, -, -, rfl⟩ := requestBuffers_cases h
    · exact hc
    · exact ⟨hc.aligned, hc.chain, hc.off⟩
  prepare hc h := by
    obtain ⟨_, -, rfl⟩ | ⟨_, _, _, -, -, -, -, rfl⟩ := prepare_cases h
    · exact hc
    · exact ⟨hc.aligned, hc.chain, hc.off⟩
  enqueue := controlled_of_enqueue
  dequeue hc h := by
    obtain ⟨_, -, rfl⟩ | ⟨_, _, _, _, -, -, -, -, -, rfl⟩ := dequeue_cases h
    · exact hc
    · exact ⟨hc.aligned, hc.chain, hc.off⟩
  streamOn := controlled_of_streamOn
  streamOff {c _ _} hc h := by
    obtain ⟨-, -, rfl⟩ | ⟨-, -, _, _, -, rfl⟩ := streamOff_cases h
    · exact hc
    · exact ⟨Engine.aligned_stop hc.aligned, fun hne => absurd rfl hne, fun _ =>
        Engine.running_stop c.engine c.regs⟩
  status := controlled_of_handleStatus
  timeout := controlled_of_checkTimeout
  maskAll {c} hc := by
    have hrunning : Engine.running c.maskAll.regs = Engine.running c.regs :=
      Engine.running_write32_ne (by decide) 0
    refine ⟨Engine.aligned_maskAll hc.aligned, fun hne => ⟨(hc.chain hne).1, ?_⟩, fun hoff => ?_⟩
    · exact hrunning.trans (hc.chain hne).2
    · exact hrunning.trans (hc.off hoff)
  report _ hc := ⟨hc.aligned, hc.chain, hc.off⟩

/-! ## Sessions -/

variable {regs : RegisterFile} {dma dma' : δ} {config : Config} {c₀ : Channel δ}
  {events : List Event}

/-- A queue that is created on registers with the engine disabled and no interrupt passed on keeps
in control of them. -/
lemma controlled_of_session (hcreate : create regs dma config = (.ok c₀, dma'))
    (henables : regs.read32 Register.dmaControl &&& DmaControl.enables = 0)
    (hmask : regs.read32 Register.interruptMask = 0)
    (h : c₀.Session (fun _ _ => True) RegisterFile.SameControl events c) :
    c.Controlled (regs.read32 Register.dmaControl &&& ~~~DmaControl.capture) := by
  refine h.keeps ?_ (fun _ _ _ _ _ _ hc hperform => ?_) fun _ _ hsame hc => hc.congr hsame
  · obtain ⟨stopper, -, rfl⟩ := create_eq_ok hcreate
    have haligned : Engine.Aligned _ {} regs := Engine.aligned_of_clear henables hmask rfl
    refine ⟨haligned, fun hne => absurd rfl hne, fun _ => ?_⟩
    show Engine.running regs = false
    rw [Engine.running, ← show DmaControl.enables &&& DmaControl.programEnable =
      DmaControl.programEnable by decide, ← UInt32.and_assoc, henables, UInt32.zero_and]
    rfl
  · exact keeping_controlled.relating.of_perform hperform hc

/-- **The scheduler and the engine keep in step**, for a queue that is created on registers with the
engine disabled and no interrupt passed on, as long as the DMA control register and the interrupt
mask are left to it. -/
theorem inStep_of_session (hcreate : create regs dma config = (.ok c₀, dma'))
    (henables : regs.read32 Register.dmaControl &&& DmaControl.enables = 0)
    (hmask : regs.read32 Register.interruptMask = 0)
    (h : c₀.Session (fun _ _ => True) RegisterFile.SameControl events c) :
    c.Timed ∧ c.Controlled (regs.read32 Register.dmaControl &&& ~~~DmaControl.capture) := by
  have htimed₀ : c₀.Timed := by
    obtain ⟨stopper, -, rfl⟩ := create_eq_ok hcreate
    exact CaptureQueue.timed_of_none rfl rfl
  exact ⟨keeping_timed.of_reaches (fun _ _ hc => hc) htimed₀ h.reaches,
    controlled_of_session hcreate henables hmask h⟩

/-- Two buffers make the chain and a third waits. When the first is done the second still runs. -/
theorem inStep_of_session_chained :
    let regs : RegisterFile := {}
    regs.read32 Register.dmaControl &&& DmaControl.enables = 0 ∧
      regs.read32 Register.interruptMask = 0 ∧
      ∃ c₀ dma events c, create regs HostDma.create {} = (.ok c₀, dma) ∧
        c₀.Session (fun _ _ => True) RegisterFile.SameControl events c ∧ c.active = [1] ∧
        c.Timed ∧ c.Controlled (regs.read32 Register.dmaControl &&& ~~~DmaControl.capture) := by
  obtain ⟨c₀, dma, events, c, hcreate, hsession, hactive⟩ :=
    exists_session_of_hostedRecord RegisterFile.SameControl
      (show hostedRecord (fun _ _ => True) (chainedOperations ++ [.status 0 Status.program])
        (fun _ c => c.active) = some [1] by decide +kernel)
  have henables : ({} : RegisterFile).read32 Register.dmaControl &&& DmaControl.enables = 0 := by
    decide
  have hmask : ({} : RegisterFile).read32 Register.interruptMask = 0 := by decide
  exact ⟨henables, hmask, c₀, dma, events, c, hcreate, hsession, hactive,
    inStep_of_session hcreate henables hmask hsession⟩

end Channel

end VideoCapture
