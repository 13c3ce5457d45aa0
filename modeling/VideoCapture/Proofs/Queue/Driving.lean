import VideoCapture.Proofs.Queue.Operations
import VideoCapture.Proofs.Queue.Session

/-!
# What a queue does to the registers

A queue does four things to the registers of its chip: it starts the engine, stops it, masks its
interrupts, and acknowledges what they have latched. Whatever an operation of the queue does
besides, the registers change by these four and by nothing else, so what none of the four breaks no
operation breaks.

## Main definitions

* `VideoCapture.Engine.Drives` — the four lead from one state of the registers to another.

## Main results

* `VideoCapture.Channel.relating_drives` — so does every operation of a queue.
* `VideoCapture.Engine.Drives.keeps` — what none of the four breaks.
-/

set_option autoImplicit false

namespace VideoCapture

namespace Engine

/-- Starting and stopping the engine, masking its interrupts and acknowledging them leads from one
state of the registers to another. -/
inductive Drives (regs : RegisterFile) : RegisterFile → Prop where
  /-- Nothing is done. -/
  | refl : Drives regs regs
  /-- The engine is started. -/
  | start {engine engine' : Engine} {regs₁ regs' : RegisterFile} {address : UInt32} {g : Geometry}
      {n : Norm} : Drives regs regs₁ → engine.start regs₁ address g n = .ok (engine', regs') →
      Drives regs regs'
  /-- The engine is stopped. -/
  | stop {regs₁ : RegisterFile} (engine : Engine) : Drives regs regs₁ →
      Drives regs (engine.stop regs₁).2
  /-- Its interrupts are masked. -/
  | maskAll {regs₁ : RegisterFile} (engine : Engine) : Drives regs regs₁ →
      Drives regs (engine.maskAll regs₁).2
  /-- They are acknowledged. -/
  | acknowledge {regs₁ : RegisterFile} : Drives regs regs₁ →
      Drives regs (regs₁.write32 Register.interruptStatus Status.video)

variable {regs regs₁ regs' : RegisterFile}

/-- The engine can be driven further from where it was driven to. -/
lemma Drives.trans (h : Drives regs regs₁) (h' : Drives regs₁ regs') : Drives regs regs' := by
  induction h' with
  | refl => exact h
  | start _ hstart ih => exact ih.start hstart
  | stop engine _ ih => exact ih.stop engine
  | maskAll engine _ ih => exact ih.maskAll engine
  | acknowledge _ ih => exact ih.acknowledge

/-- **What none of the four breaks holds afterwards.**

**Proof sketch.** Induction on what is done. -/
theorem Drives.keeps {P : RegisterFile → Prop} (h : Drives regs regs') (hregs : P regs)
    (hstart : ∀ {engine engine' : Engine} {regs regs' address g n}, P regs →
      engine.start regs address g n = .ok (engine', regs') → P regs')
    (hstop : ∀ (engine : Engine) {regs}, P regs → P (engine.stop regs).2)
    (hmask : ∀ (engine : Engine) {regs}, P regs → P (engine.maskAll regs).2)
    (hacknowledge : ∀ {regs}, P regs →
      P (regs.write32 Register.interruptStatus Status.video)) : P regs' := by
  induction h with
  | refl => exact hregs
  | start _ hstarted ih => exact hstart ih hstarted
  | stop engine _ ih => exact hstop engine ih
  | maskAll engine _ ih => exact hmask engine ih
  | acknowledge _ ih => exact hacknowledge ih

end Engine

namespace Channel

open Engine (Drives)

variable {δ : Type} {c c' : Channel δ} {now : Int}

/-! ## The engine -/

/-- Starting the engine on the head of the chain does. -/
lemma drives_of_startHead (h : c.startHead now = .ok c') : Drives c.regs c'.regs := by
  obtain ⟨-, rfl⟩ | ⟨_, _, _, _, _, _, -, -, -, hstart, rfl⟩ := startHead_cases h
  · exact .refl
  · exact .start .refl hstart

/-- Starting it anew does. -/
lemma drives_of_restart (h : c.restart now = .ok c') : Drives c.regs c'.regs := by
  obtain ⟨-, hstart⟩ | ⟨q, -, -, hstart⟩ := restart_cases h
  · exact drives_of_startHead hstart
  · exact drives_of_startHead (c := { c with toCaptureQueue := q }) hstart

/-- A buffer that finds its place does. -/
lemma drives_of_place {i : Nat} (h : c.place now i = .ok c') : Drives c.regs c'.regs := by
  obtain ⟨-, ⟨-, rfl⟩ | ⟨-, -, -, hstart⟩ | ⟨_, _, -, -, -, -, -, rfl⟩⟩ := place_cases h
  · exact .refl
  · have hdriven := drives_of_startHead hstart
    exact hdriven
  · exact .refl

/-- Parking the engine does. -/
lemma drives_of_park (h : c.park now = .ok c') : Drives c.regs c'.regs := by
  have hstopped : Drives c.regs c.stopEngine.regs := .stop c.engine .refl
  obtain ⟨-, -, rfl⟩ | ⟨-, hrestart⟩ := park_cases h
  · exact hstopped
  · have hdriven := drives_of_restart hrestart
    exact hstopped.trans hdriven

/-! ## Operations -/

/-- Handing a buffer in does. -/
lemma drives_of_enqueue {i : Nat} {result : Except Error Unit}
    (h : c.enqueue now i = .ok (result, c')) : Drives c.regs c'.regs := by
  obtain ⟨_, -, rfl⟩ | ⟨-, -, -, ⟨-, hplace⟩ | ⟨-, rfl⟩⟩ := enqueue_cases h
  · exact .refl
  · have hdriven := drives_of_place hplace
    exact hdriven
  · exact .refl

/-- Taking a buffer back does. -/
lemma drives_of_dequeue {result : Except Error Frame} (h : c.dequeue = .ok (result, c')) :
    Drives c.regs c'.regs := by
  obtain ⟨_, -, rfl⟩ | ⟨_, _, _, _, -, -, -, -, -, rfl⟩ := dequeue_cases h <;> exact .refl

/-- Starting or resuming capture does. -/
lemma drives_of_streamOn {result : Except Error Unit} (h : c.streamOn now = .ok (result, c')) :
    Drives c.regs c'.regs := by
  obtain ⟨-, -, -, rfl⟩ | ⟨-, -, -, hrestart⟩ | ⟨-, -, hplace⟩ := streamOn_cases h
  · exact .refl
  · exact .trans (.stop c.engine .refl) (drives_of_restart hrestart)
  · exact placeAll_keeps (P := fun c₁ : Channel δ => Drives c.regs c₁.regs)
      (fun _ _ _ hdriven hone => hdriven.trans (drives_of_place hone)) hplace .refl

/-- Acting on interrupt status does. -/
lemma drives_of_handleStatus {status : UInt32} {mine : Bool}
    (h : c.handleStatus now status = .ok (mine, c')) : Drives c.regs c'.regs := by
  have hacknowledged : Drives c.regs (c.regs.write32 Register.interruptStatus Status.video) :=
    .acknowledge .refl
  obtain ⟨-, -, rfl⟩ | ⟨-, -, ⟨-, rfl⟩ | ⟨-, -, hfail⟩ | ⟨-, -, hcompletion⟩⟩ :=
    handleStatus_cases h
  · exact .refl
  · exact hacknowledged
  · obtain ⟨_, _, -, rfl⟩ := failStop_cases hfail
    exact hacknowledged.stop c.engine
  · obtain ⟨-, rfl⟩ | ⟨q, -, -, ⟨-, hpark⟩ | ⟨-, rfl⟩⟩ := handleCompletion_cases hcompletion
    · exact hacknowledged
    · exact hacknowledged.trans (drives_of_park hpark)
    · exact hacknowledged

/-- Looking for a stall does. -/
lemma drives_of_checkTimeout {stalled : Bool} (h : c.checkTimeout now = .ok (stalled, c')) :
    Drives c.regs c'.regs := by
  obtain ⟨-, rfl, -⟩ | ⟨-, -, rfl⟩ | ⟨-, -, q, -, hrestart⟩ := checkTimeout_cases h
  · exact .refl
  · exact .refl
  · exact .trans (.stop c.engine .refl) (drives_of_restart hrestart)

variable [DmaBackend δ]

/-- Replacing the buffers does. -/
lemma drives_of_requestBuffers {count capacity : Nat} {result : Except Error Nat}
    (h : c.requestBuffers count capacity = .ok (result, c')) : Drives c.regs c'.regs := by
  obtain ⟨-, -, rfl⟩ | ⟨-, _, _, -, -, rfl⟩ := requestBuffers_cases h <;> exact .refl

/-- Stopping capture does. -/
lemma drives_of_streamOff {result : Except Error Unit} (h : c.streamOff = .ok (result, c')) :
    Drives c.regs c'.regs := by
  obtain ⟨-, -, rfl⟩ | ⟨-, -, _, _, -, rfl⟩ := streamOff_cases h
  · exact .refl
  · exact .stop c.engine .refl

/-- **All that an operation of a queue does to the registers is to drive the engine.** -/
theorem relating_drives : Relating fun c c' : Channel δ => Drives c.regs c'.regs where
  request := drives_of_requestBuffers
  prepare h := by
    obtain ⟨_, -, rfl⟩ | ⟨_, _, _, -, -, -, -, rfl⟩ := prepare_cases h <;> exact .refl
  enqueue := drives_of_enqueue
  dequeue := drives_of_dequeue
  streamOn := drives_of_streamOn
  streamOff := drives_of_streamOff
  status := drives_of_handleStatus
  timeout := drives_of_checkTimeout
  maskAll {c} := .maskAll c.engine .refl
  report _ := .refl
  shutdown {c c'} h := by
    obtain ⟨c₁, hoff, _, hrequest⟩ := shutdown_cases h
    have hstopped : Drives c.regs c₁.regs := by
      obtain ⟨-, rfl⟩ | ⟨-, _, hoff⟩ := hoff
      · exact .refl
      · exact drives_of_streamOff hoff
    exact hstopped.trans (drives_of_requestBuffers hrequest)

/-- So does ending a queue. -/
lemma drives_dispose (c : Channel δ) : Drives c.regs c.dispose.1 :=
  .stop c.engine .refl

end Channel

end VideoCapture
