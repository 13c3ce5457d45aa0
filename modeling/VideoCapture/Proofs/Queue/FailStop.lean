import VideoCapture.Proofs.Queue.Recovery
import VideoCapture.Proofs.Queue.Retirement

/-!
# Faults stop the engine for good

A fault stops the engine. The chain is given up, no interrupt of the capture path is wanted any
more, there is no deadline, and buffers that are handed in wait. So it stays, whatever else is done
with the queue, until capture is resumed or stopped.

There is one exception. Interrupt status may still be handled, and a program's interrupt among it is
taken for a completion. No buffer is left to be retired, but if the address that the engine fetches
from is in the stopper, the engine counts as parked, and what waits is started although the fault is
still latched. This module says when exactly that happens, and that nothing else does it.

## Main definitions

* `VideoCapture.CaptureQueue.OwnMask` — only interrupts of the capture path are wanted.
* `VideoCapture.Channel.Halted` — how a fault leaves a queue.
* `VideoCapture.Channel.Revives` — interrupt status that starts the engine in spite of a fault.
* `VideoCapture.Channel.FailStopped` — what a session after a fault has done.

## Main results

* `VideoCapture.Channel.relating_latches` — a fault that is latched halts the queue.
* `VideoCapture.Channel.responding_held` — operations leave a halted queue halted.
* `VideoCapture.Channel.running_of_revives` — the exception starts the engine.
* `VideoCapture.Channel.failStopped_of_session` — after a fault nothing runs until capture is
  resumed or stopped, unless interrupt status revives the queue.
-/

set_option autoImplicit false

namespace VideoCapture

namespace CaptureQueue

/-- Only interrupts of the capture path are wanted. -/
def OwnMask (q : CaptureQueue) : Prop :=
  q.engine.mask &&& ~~~Status.video = 0

/-- Whether an operation is to resume or to stop capture. -/
def Operation.resumes : Operation → Bool
  | .streamOn _ | .streamOff | .shutdown => true
  | _ => false

end CaptureQueue

namespace Engine

/-- Between operations nobody enables an engine that is disabled. -/
def StaysOff (regs regs' : RegisterFile) : Prop :=
  running regs = false → running regs' = false

end Engine

namespace Channel

open CaptureQueue (Operation Answer Event)

variable {δ : Type} {c c' : Channel δ} {now : Int}

/-- How a fault leaves a queue: capture is on, but the engine is disabled, none of its interrupts is
wanted, and there is neither a chain nor a deadline. -/
structure Halted (c : Channel δ) : Prop where
  /-- The engine is disabled. -/
  disabled : Engine.running c.regs = false
  /-- No interrupt is wanted. -/
  masked : c.engine.mask = 0
  /-- There is no chain. -/
  idle : c.active = []
  /-- There is no deadline. -/
  deadline : c.deadline = none
  /-- Capture is on. -/
  streaming : c.streaming = true

/-- Interrupt status that reports a program's interrupt and no fault revives a queue that a fault
has stopped, if buffers wait and the engine fetches from the stopper. -/
def Revives (c : Channel δ) : Operation → Prop
  | .status _ bits =>
    bits &&& Status.video ≠ 0 ∧ bits &&& Status.video &&& Status.faults = 0 ∧ c.fault ≠ none ∧
      c.queued ≠ [] ∧ c.stopper.contains (c.regs.read32 Register.programPointer) = true
  | _ => False

instance (c : Channel δ) : ∀ operation, Decidable (c.Revives operation)
  | .status _ _ => inferInstanceAs (Decidable (_ ∧ _ ∧ _ ∧ _ ∧ _))
  | .request _ _ | .prepare _ _ _ | .enqueue _ _ | .dequeue | .streamOn _ | .streamOff
  | .timeout _ | .maskAll | .takeFault | .shutdown => .isFalse id

/-- Nothing but interrupt status revives a queue. -/
lemma Revives.exists_status {operation : Operation} (h : c.Revives operation) :
    ∃ now bits, operation = .status now bits := by
  cases operation with
  | status now bits => exact ⟨now, bits, rfl⟩
  | _ => exact h.elim

/-! ## Interrupts of others -/

/-- Steps that want no other interrupts leave the mask to the capture path. -/
lemma ownMask_of_steady (h : c.Steady c') (hc : c.OwnMask) : c'.OwnMask :=
  h.foreign.trans hc

/-- Starting capture wants no interrupts but those of the capture path. -/
lemma ownMask_of_streamOn {result : Except Error Unit} (hc : c.OwnMask)
    (h : c.streamOn now = .ok (result, c')) : c'.OwnMask := by
  obtain ⟨-, -, -, rfl⟩ | ⟨-, -, -, hrestart⟩ | ⟨-, -, hplace⟩ := streamOn_cases h
  · exact hc
  · have hstopped := ownMask_of_steady (steady_stopEngine { c with fault := none }) hc
    exact ownMask_of_steady (steady_of_restart hrestart) hstopped
  · exact ownMask_of_steady (steady_of_placeAll hplace) hc

/-- Handing a buffer in wants no interrupts but those of the capture path. -/
lemma ownMask_of_enqueue {i : Nat} {result : Except Error Unit} (hc : c.OwnMask)
    (h : c.enqueue now i = .ok (result, c')) : c'.OwnMask := by
  obtain ⟨_, -, rfl⟩ | ⟨-, -, -, ⟨-, hplace⟩ | ⟨-, rfl⟩⟩ := enqueue_cases h
  · exact hc
  · exact ownMask_of_steady (steady_of_place hplace) hc
  · exact hc

/-- A completion wants no interrupts but those of the capture path. -/
lemma ownMask_of_handleCompletion (h : c.handleCompletion now = .ok c') (hc : c.OwnMask) :
    c'.OwnMask := by
  obtain ⟨-, rfl⟩ | ⟨q, -, hcomplete, hcase⟩ := handleCompletion_cases h
  · exact hc
  · obtain ⟨_, _, _, _, _, rfl⟩ := CaptureQueue.completeHead_rest hcomplete
    obtain ⟨-, hpark⟩ | ⟨-, rfl⟩ := hcase
    · exact ownMask_of_steady (steady_of_park hpark) hc
    · exact hc

/-- Acting on interrupt status wants no interrupts but those of the capture path. -/
lemma ownMask_of_handleStatus {status : UInt32} {mine : Bool} (hc : c.OwnMask)
    (h : c.handleStatus now status = .ok (mine, c')) : c'.OwnMask := by
  obtain ⟨-, -, rfl⟩ | ⟨-, -, ⟨-, rfl⟩ | ⟨-, -, hfail⟩ | ⟨-, -, hcompletion⟩⟩ :=
    handleStatus_cases h
  · exact hc
  · exact hc
  · obtain ⟨q, backlog, hq, rfl⟩ := failStop_cases hfail
    have hengine : q.engine = c.stopEngine.engine := by rw [hq.rest]; rfl
    have hstopped := ownMask_of_steady (steady_stopEngine c) hc
    show q.engine.mask &&& ~~~Status.video = 0
    rwa [hengine]
  · exact ownMask_of_handleCompletion hcompletion hc

/-- Recovering from a stall wants no interrupts but those of the capture path. -/
lemma ownMask_of_checkTimeout {stalled : Bool} (hc : c.OwnMask)
    (h : c.checkTimeout now = .ok (stalled, c')) : c'.OwnMask := by
  obtain ⟨-, rfl, -⟩ | ⟨-, -, rfl⟩ | ⟨-, -, q, hq, hrestart⟩ := checkTimeout_cases h
  · exact hc
  · exact hc
  · have hengine : q.engine = c.stopEngine.engine := by rw [hq.rest]
    have hstopped := ownMask_of_steady (steady_stopEngine c) hc
    refine ownMask_of_steady (steady_of_restart hrestart) ?_
    show q.engine.mask &&& ~~~Status.video = 0
    rwa [hengine]

section Operations

variable [DmaBackend δ]

/-- No operation wants interrupts besides those of the capture path. -/
theorem keeping_ownMask : Keeping fun c : Channel δ => c.OwnMask where
  request hc h := by
    obtain ⟨-, -, rfl⟩ | ⟨-, _, _, -, -, rfl⟩ := requestBuffers_cases h <;> exact hc
  prepare hc h := by
    obtain ⟨_, -, rfl⟩ | ⟨_, _, _, -, -, -, -, rfl⟩ := prepare_cases h <;> exact hc
  enqueue := ownMask_of_enqueue
  dequeue hc h := by
    obtain ⟨_, -, rfl⟩ | ⟨_, _, _, _, -, -, -, -, -, rfl⟩ := dequeue_cases h <;> exact hc
  streamOn := ownMask_of_streamOn
  streamOff hc h := by
    obtain ⟨-, -, rfl⟩ | ⟨-, -, _, _, -, rfl⟩ := streamOff_cases h
    · exact hc
    · have hstopped := ownMask_of_steady (steady_stopEngine _) hc
      exact hstopped
  status := ownMask_of_handleStatus
  timeout := ownMask_of_checkTimeout
  maskAll _ := UInt32.zero_and
  report _ hc := hc

/-! ## A fault halts the queue -/

omit [DmaBackend δ] in
/-- A fault that interrupt status reports halts the queue. -/
lemma halted_of_failStop {fault : UInt32} (h : c.failStop fault = .ok c')
    (hon : c.streaming = true) (hmask : c.OwnMask) : c'.Halted := by
  obtain ⟨q, backlog, hq, rfl⟩ := failStop_cases h
  refine ⟨Engine.running_stop c.engine c.regs, ?_, ?_, ?_, ?_⟩
  · show q.engine.mask = 0
    rw [hq.rest]
    exact hmask
  · show q.active = []
    rw [hq.rest]
  · show q.deadline = none
    rw [hq.rest]
  · show q.streaming = true
    rw [hq.rest]
    exact hon

/-- What becomes of a fault: it stays latched or not, it is cleared, or a new one is latched with
the queue halted. -/
def Latches (c c' : Channel δ) : Prop :=
  c'.fault = c.fault ∨ c'.fault = none ∨ (c.OwnMask → c'.Halted)

omit [DmaBackend δ] in
/-- Interrupt status latches the faults that it reports, with the queue halted, or leaves alone what
is latched. -/
lemma latches_of_handleStatus {status : UInt32} {mine : Bool}
    (h : c.handleStatus now status = .ok (mine, c')) : c.Latches c' := by
  obtain ⟨-, -, rfl⟩ | ⟨-, -, ⟨-, rfl⟩ | ⟨hon, -, hfail⟩ | ⟨-, -, hcompletion⟩⟩ :=
    handleStatus_cases h
  · exact .inl rfl
  · exact .inl rfl
  · have hhalted := halted_of_failStop hfail hon
    exact .inr (.inr hhalted)
  · left
    obtain ⟨-, rfl⟩ | ⟨q, -, hcomplete, hcase⟩ := handleCompletion_cases hcompletion
    · rfl
    · obtain ⟨_, _, _, _, _, rfl⟩ := CaptureQueue.completeHead_rest hcomplete
      obtain ⟨-, hpark⟩ | ⟨-, rfl⟩ := hcase
      · exact (steady_of_park hpark).fault
      · rfl

omit [DmaBackend δ] in
/-- Recovering from a stall leaves the fault as it is. -/
lemma fault_of_checkTimeout {stalled : Bool} (h : c.checkTimeout now = .ok (stalled, c')) :
    c'.fault = c.fault := by
  obtain ⟨-, rfl, -⟩ | ⟨-, -, rfl⟩ | ⟨-, -, q, hq, hrestart⟩ := checkTimeout_cases h
  · rfl
  · rfl
  · have hfault : q.fault = c.fault := by rw [hq.rest]; rfl
    exact (steady_of_restart hrestart).fault.trans hfault

/-- Replacing the buffers leaves the fault as it is. -/
lemma fault_of_requestBuffers {count capacity : Nat} {result : Except Error Nat}
    (h : c.requestBuffers count capacity = .ok (result, c')) : c'.fault = c.fault := by
  obtain ⟨-, -, rfl⟩ | ⟨-, _, _, -, -, rfl⟩ := requestBuffers_cases h <;> rfl

/-- Stopping capture clears the fault, or leaves it if there was no capture to stop. -/
lemma fault_of_streamOff {result : Except Error Unit} (h : c.streamOff = .ok (result, c')) :
    c'.fault = c.fault ∨ c'.fault = none := by
  obtain ⟨-, -, rfl⟩ | ⟨-, -, _, _, -, rfl⟩ := streamOff_cases h
  · exact .inl rfl
  · exact .inr rfl

/-- **A fault is latched only with the queue halted.**

**Proof sketch.** One case for each operation. Status alone latches a fault
(`latches_of_handleStatus`); starting and stopping capture may clear one, and no other operation
touches it. -/
theorem relating_latches : Relating fun c c' : Channel δ => c.Latches c' where
  request h := .inl (fault_of_requestBuffers h)
  prepare h := by
    obtain ⟨_, -, rfl⟩ | ⟨_, _, _, -, -, -, -, rfl⟩ := prepare_cases h <;> exact .inl rfl
  enqueue h := by
    obtain ⟨_, -, rfl⟩ | ⟨-, -, -, ⟨-, hplace⟩ | ⟨-, rfl⟩⟩ := enqueue_cases h
    · exact .inl rfl
    · exact .inl (steady_of_place hplace).fault
    · exact .inl rfl
  dequeue h := by
    obtain ⟨_, -, rfl⟩ | ⟨_, _, _, _, -, -, -, -, -, rfl⟩ := dequeue_cases h <;> exact .inl rfl
  streamOn h := by
    obtain ⟨-, -, -, rfl⟩ | ⟨-, -, -, hrestart⟩ | ⟨-, -, hplace⟩ := streamOn_cases h
    · exact .inl rfl
    · exact .inr (.inl (steady_of_restart hrestart).fault)
    · exact .inr (.inl (steady_of_placeAll hplace).fault)
  streamOff h := (fault_of_streamOff h).imp_right .inl
  status := latches_of_handleStatus
  timeout h := .inl (fault_of_checkTimeout h)
  maskAll := .inl rfl
  report _ := .inl rfl
  shutdown h := by
    obtain ⟨c₁, hoff, _, hrequest⟩ := shutdown_cases h
    rw [Latches, fault_of_requestBuffers hrequest]
    obtain ⟨-, rfl⟩ | ⟨-, _, hoff⟩ := hoff
    · exact .inl rfl
    · exact (fault_of_streamOff hoff).imp_right .inl

end Operations

/-! ## A halted queue stays halted -/

/-- Acknowledging interrupts leaves a queue halted. -/
lemma Halted.acknowledge (hc : c.Halted) :
    Halted { c with regs := c.regs.write32 Register.interruptStatus Status.video } :=
  ⟨(Engine.running_write32_ne (by decide) _).trans hc.disabled, hc.masked, hc.idle, hc.deadline,
    hc.streaming⟩

/-- What an operation does to a halted queue that it neither resumes nor stops: it stays halted, and
buffers that are handed in wait. -/
structure Held (event : Event) (c c' : Channel δ) : Prop where
  /-- The queue is halted. -/
  halted : c'.Halted
  /-- A fault is latched. -/
  latched : c'.fault ≠ none
  /-- What is handed in waits. -/
  queued : c'.queued = c.queued ++ event.handedIn.toList

/-- Where nothing changes a halted queue stays halted. -/
lemma Halted.held {event : Event} (hc : c.Halted) (hlatched : c.fault ≠ none)
    (hin : event.handedIn = none) : c.Held event c :=
  ⟨hc, hlatched, by simp [hin]⟩

/-- A buffer that is handed in to a halted queue waits, and nothing starts. -/
lemma held_of_enqueue {i : Nat} {result : Except Error Unit} (hc : c.Halted)
    (hlatched : c.fault ≠ none) (h : c.enqueue now i = .ok (result, c')) :
    c.Held ⟨.enqueue now i, .of (fun _ => .done) result⟩ c' := by
  obtain ⟨error, rfl, rfl⟩ | ⟨rfl, -, -, ⟨-, hplace⟩ | ⟨hoff, -⟩⟩ := enqueue_cases h
  · exact hc.held hlatched rfl
  · -- the fault keeps the buffer from starting or joining a chain
    obtain ⟨-, ⟨-, rfl⟩ | ⟨-, hclear, -⟩ | ⟨_, _, -, hclear, -⟩⟩ := place_cases hplace
    · exact ⟨⟨hc.disabled, hc.masked, hc.idle, hc.deadline, hc.streaming⟩, hlatched, rfl⟩
    · exact absurd hclear hlatched
    · exact absurd hclear hlatched
  · cases hoff.symm.trans hc.streaming

/-- A completion reported to a halted queue leaves it halted, unless buffers wait and the engine
fetches from the stopper. -/
lemma held_of_handleCompletion {event : Event} (h : c.handleCompletion now = .ok c')
    (hc : c.Halted) (hlatched : c.fault ≠ none) (hin : event.handedIn = none)
    (hstays : c.queued ≠ [] →
      ¬c.stopper.contains (c.regs.read32 Register.programPointer) = true) : c.Held event c' := by
  obtain ⟨-, rfl⟩ | ⟨q, -, hcomplete, hcase⟩ := handleCompletion_cases h
  · exact hc.held hlatched hin
  · -- there is no head to be retired
    obtain ⟨-, rfl⟩ | ⟨_, _, _, hcons, -⟩ := CaptureQueue.completeHead_cases hcomplete
    · obtain ⟨hstopper, hpark⟩ | ⟨-, rfl⟩ := hcase
      · obtain ⟨-, -, rfl⟩ | ⟨hwaits, -⟩ := park_cases hpark
        · refine ⟨⟨Engine.running_stop c.engine c.regs, ?_, hc.idle, rfl, hc.streaming⟩, hlatched,
            ?_⟩
          · show c.engine.mask &&& ~~~Status.video = 0
            rw [hc.masked, UInt32.zero_and]
          · rw [hin]
            exact (List.append_nil _).symm
        · exact absurd hstopper (hstays (hwaits.resolve_left fun hne => hne hc.idle))
      · exact hc.held hlatched hin
    · cases hc.idle.symm.trans hcons

/-- Interrupt status leaves a halted queue halted, unless it revives it.

**Proof sketch.** Without video bits nothing happens, and a further fault only stops the engine
again. A completion restarts nothing unless the queue waits for it at the stopper, and that is what
reviving means. -/
lemma held_of_handleStatus {bits : UInt32} {mine : Bool} (hc : c.Halted) (hmask : c.OwnMask)
    (hlatched : c.fault ≠ none) (hstays : ¬c.Revives (.status now bits))
    (h : c.handleStatus now bits = .ok (mine, c')) :
    c.Held ⟨.status now bits, .flag mine⟩ c' := by
  obtain ⟨-, -, rfl⟩ | ⟨hvideo, -, ⟨hoff, -⟩ | ⟨hon, -, hfail⟩ | ⟨-, hfault, hcompletion⟩⟩ :=
    handleStatus_cases h
  · exact hc.held hlatched rfl
  · cases hoff.symm.trans hc.streaming
  · have hhalted := halted_of_failStop hfail hon hmask
    obtain ⟨q, backlog, hq, rfl⟩ := failStop_cases hfail
    refine ⟨hhalted, ?_, ?_⟩
    · show q.fault ≠ none
      rw [hq.rest]
      exact nofun
    · show q.queued = c.queued ++ []
      rw [hq.rest, List.append_nil]
      rfl
  · have hin : Event.handedIn ⟨.status now bits, .flag mine⟩ = none := rfl
    have hheld := held_of_handleCompletion hcompletion hc.acknowledge hlatched hin ?_
    · exact ⟨hheld.halted, hheld.latched, hheld.queued⟩
    · intro hqueued hstopper
      rw [read32_programPointer_write32] at hstopper
      exact hstays ⟨hvideo, hfault, hlatched, hqueued, hstopper⟩

section Sessions

variable [DmaBackend δ]

/-- **Operations leave a halted queue halted**, unless they are to resume or to stop capture, which
clears the fault, or are interrupt status that revives the queue.

**Proof sketch.** Most operations do not concern what halting is about. A halted queue has no chain
to be completed or to stall, and a latched fault keeps buffers that are handed in from starting one.
-/
theorem responding_held : Responding fun operation answer (c c' : Channel δ) =>
    c.Halted → c.OwnMask → c.fault ≠ none → ¬c.Revives operation →
    c.Held ⟨operation, answer⟩ c' ∨ operation.resumes = true ∧ c'.fault = none where
  request h hc _ hlatched _ := by
    obtain ⟨-, rfl, rfl⟩ | ⟨hoff, -⟩ := requestBuffers_cases h
    · exact .inl (hc.held hlatched rfl)
    · cases hoff.symm.trans hc.streaming
  prepare {_ _ _ _ _ result} h hc _ hlatched _ := by
    left
    obtain ⟨_, rfl, rfl⟩ | ⟨_, _, _, -, -, -, -, rfl⟩ := prepare_cases h
    · exact hc.held hlatched rfl
    · refine ⟨⟨hc.disabled, hc.masked, hc.idle, hc.deadline, hc.streaming⟩, hlatched, ?_⟩
      cases result <;> exact (List.append_nil _).symm
  enqueue h hc _ hlatched _ := .inl (held_of_enqueue hc hlatched h)
  dequeue h hc _ hlatched _ := by
    left
    obtain ⟨_, rfl, rfl⟩ | ⟨_, _, _, _, -, -, -, rfl, -, rfl⟩ := dequeue_cases h
    · exact hc.held hlatched rfl
    · exact ⟨⟨hc.disabled, hc.masked, hc.idle, hc.deadline, hc.streaming⟩, hlatched,
        (List.append_nil _).symm⟩
  streamOn h hc _ hlatched _ := by
    obtain ⟨-, hclear, -⟩ | ⟨-, -, -, hrestart⟩ | ⟨hoff, -⟩ := streamOn_cases h
    · exact absurd hclear hlatched
    · exact .inr ⟨rfl, (steady_of_restart hrestart).fault⟩
    · cases hoff.symm.trans hc.streaming
  streamOff h hc _ _ _ := by
    obtain ⟨hoff, -⟩ | ⟨-, -, _, _, -, rfl⟩ := streamOff_cases h
    · cases hoff.symm.trans hc.streaming
    · exact .inr ⟨rfl, rfl⟩
  status h hc hmask hlatched hstays := .inl (held_of_handleStatus hc hmask hlatched hstays h)
  timeout h hc _ hlatched _ := by
    left
    obtain ⟨-, rfl, -⟩ | ⟨-, -, rfl⟩ | ⟨-, hactive, -⟩ := checkTimeout_cases h
    · exact hc.held hlatched rfl
    · exact ⟨⟨hc.disabled, hc.masked, hc.idle, rfl, hc.streaming⟩, hlatched,
        (List.append_nil _).symm⟩
    · exact absurd hc.idle hactive
  maskAll hc _ hlatched _ :=
    .inl ⟨⟨(Engine.running_write32_ne (by decide) _).trans hc.disabled, rfl, hc.idle, hc.deadline,
      hc.streaming⟩, hlatched, (List.append_nil _).symm⟩
  report _ _ hc _ hlatched _ :=
    .inl ⟨⟨hc.disabled, hc.masked, hc.idle, hc.deadline, hc.streaming⟩, hlatched,
      (List.append_nil _).symm⟩
  shutdown h hc _ _ _ := by
    obtain ⟨c₁, ⟨hoff, -⟩ | ⟨-, _, hoff⟩, _, hrequest⟩ := shutdown_cases h
    · cases hoff.symm.trans hc.streaming
    · obtain ⟨hoff, -⟩ | ⟨-, -, _, _, -, rfl⟩ := streamOff_cases hoff
      · cases hoff.symm.trans hc.streaming
      · exact .inr ⟨rfl, fault_of_requestBuffers hrequest⟩

/-- **The exception starts the engine**, although the fault stays latched.

**Proof sketch.** There is no head to be retired, and the engine counts as parked. As buffers wait
they are started, and the fault is left as it is. -/
theorem running_of_revives {operation : Operation} {answer : Answer} (hc : c.Halted)
    (hrevives : c.Revives operation) (h : c.perform operation = .ok (answer, c')) :
    c'.fault ≠ none ∧ c'.active ≠ [] ∧ Engine.running c'.regs = true := by
  cases operation with
  | status now bits =>
    obtain ⟨hvideo, hfault, hlatched, hqueued, hstopper⟩ := hrevives
    have hcompletion := handleCompletion_of_perform hvideo hfault hc.streaming h
    -- without a head to be inside of, the engine counts as parked
    rw [← read32_programPointer_write32 c.regs Status.video] at hstopper
    obtain ⟨hruns, -⟩ | ⟨q, -, hcomplete, hcase⟩ := handleCompletion_cases hcompletion
    · obtain ⟨-, hno⟩ | ⟨_, _, _, hcons, -⟩ := headRuns_eq_ok.mp hruns
      · cases hno
      · cases hc.idle.symm.trans hcons
    · obtain ⟨-, rfl⟩ | ⟨_, _, _, hcons, -⟩ := CaptureQueue.completeHead_cases hcomplete
      · obtain ⟨-, hpark⟩ | ⟨hout, -⟩ := hcase
        · have hsteady := steady_of_park hpark
          obtain ⟨-, hnone, -⟩ | ⟨-, hrestart⟩ := park_cases hpark
          · exact absurd hnone hqueued
          · obtain ⟨hactive, -, hrunning⟩ := started_of_restart hrestart (.inr hqueued)
            exact ⟨fun hclear => hlatched (hsteady.fault.symm.trans hclear), hactive, hrunning⟩
        · cases hout.symm.trans hstopper
      · cases hc.idle.symm.trans hcons
  | _ => exact hrevives.elim

/-! ## Sessions -/

/-- What a session has done to a queue that a fault has stopped: nothing runs, nothing has been
captured, and what was handed in waits. Only interrupt status that revives the queue can change
that, and it does. -/
structure FailStopped (events : List Event) (c c' : Channel δ) : Prop where
  /-- The queue is halted. -/
  halted : c'.Halted
  /-- A fault is latched. -/
  latched : c'.fault ≠ none
  /-- No buffer is active. -/
  inactive : ∀ i, c'.stateOf i ≠ some .active
  /-- No buffer has become done. -/
  noneDone : c.NoneDone c'.toCaptureQueue
  /-- The buffers handed in wait behind those that waited. -/
  queued : c'.queued = c.queued ++ CaptureQueue.handedIn events
  /-- Interrupt status that revives the queue starts the engine, with the fault still latched,
  unless the numbers run out. -/
  revived : ∀ operation, c'.Revives operation →
    (∃ answer c'', c'.perform operation = .ok (answer, c'') ∧ c''.fault ≠ none ∧
      c''.active ≠ [] ∧ Engine.running c''.regs = true) ∨ c'.Exhausted operation

variable {regs : RegisterFile} {dma dma' : δ} {config : Config} {c₀ c₁ : Channel δ}
  {before events : List Event}

/-- A queue that no fault has stopped is halted once one has.

**Proof sketch.** Induction on the session: a fault is latched only with the queue halted, and a
halted queue stays so until the fault is cleared. -/
lemma halted_of_session (hmask : c.OwnMask) (hclear : c.fault = none)
    (h : c.Session (fun c operation => ¬c.Revives operation) Engine.StaysOff events c') :
    c'.OwnMask ∧ (c'.fault ≠ none → c'.Halted) := by
  refine h.keeps (P := fun c => c.OwnMask ∧ (c.fault ≠ none → c.Halted))
    ⟨hmask, fun hlatched => absurd hclear hlatched⟩ ?_ ?_
  · intro c₁ c₂ _ _ _ hstays ⟨hmask, hhalted⟩ hperform
    refine ⟨keeping_ownMask.relating.of_perform hperform hmask, fun hlatched => ?_⟩
    by_cases hbefore : c₁.fault = none
    · obtain hsame | hclear | hhalts := relating_latches.of_perform hperform
      · exact absurd (hsame.trans hbefore) hlatched
      · exact absurd hclear hlatched
      · exact hhalts hmask
    · obtain hheld | ⟨-, hclear⟩ :=
        responding_held.of_perform hperform (hhalted hbefore) hmask hbefore hstays
      · exact hheld.halted
      · exact absurd hclear hlatched
  · intro c₁ _ hoff ⟨hmask, hhalts⟩
    refine ⟨hmask, fun hlatched => ?_⟩
    have hhalted := hhalts hlatched
    exact ⟨hoff hhalted.disabled, hhalted.masked, hhalted.idle, hhalted.deadline,
      hhalted.streaming⟩

/-- A halted queue in a session that neither resumes nor stops capture.

**Proof sketch.** Induction on the session. -/
lemma held_of_session (hc : c.Halted) (hmask : c.OwnMask) (hlatched : c.fault ≠ none)
    (h : c.Session (fun c operation => ¬c.Revives operation ∧ operation.resumes = false)
      Engine.StaysOff events c') :
    c'.OwnMask ∧ c'.Halted ∧ c'.fault ≠ none ∧ c.NoneDone c'.toCaptureQueue ∧
      c'.queued = c.queued ++ CaptureQueue.handedIn events := by
  induction h with
  | refl => exact ⟨hmask, hc, hlatched, fun _ => id, (List.append_nil _).symm⟩
  | perform _ hadmits hperform ih =>
    obtain ⟨hmask, hhalted, hlatched, hnone, hqueued⟩ := ih
    have hmask' := keeping_ownMask.relating.of_perform hperform hmask
    obtain hheld | ⟨hresumes, -⟩ :=
      responding_held.of_perform hperform hhalted hmask hlatched hadmits.1
    · refine ⟨hmask', hheld.halted, hheld.latched, fun i hi => hnone i ?_, ?_⟩
      · -- there is no head of the chain that could become done
        obtain hdone | ⟨rest, hactive, -⟩ := relating_done.of_perform hperform i hi
        · exact hdone
        · cases hhalted.idle.symm.trans hactive
      · rw [hheld.queued, hqueued, CaptureQueue.handedIn_concat, List.append_assoc]
    · cases hadmits.2.symm.trans hresumes
  | drift _ hoff ih =>
    obtain ⟨hmask, hhalted, hlatched, hnone, hqueued⟩ := ih
    exact ⟨hmask, ⟨hoff hhalted.disabled, hhalted.masked, hhalted.idle, hhalted.deadline,
      hhalted.streaming⟩, hlatched, hnone, hqueued⟩

/-- **After a fault nothing runs until capture is resumed or stopped**, unless interrupt status
revives the queue.

**Proof sketch.** Up to the fault the queue is halted once one is latched, and from then on it stays
halted. The exception is that interrupt status revives it, and what this does is known. -/
theorem failStopped_of_session (hcreate : create regs dma config = (.ok c₀, dma'))
    (hreach : c₀.Reaches c₁) (hclear : c₁.fault = none)
    (hbefore : c₁.Session (fun c operation => ¬c.Revives operation) Engine.StaysOff before c)
    (hlatched : c.fault ≠ none)
    (hsession : c.Session (fun c operation => ¬c.Revives operation ∧ operation.resumes = false)
      Engine.StaysOff events c') : c.FailStopped events c' := by
  have hmask₀ : c₀.OwnMask := by
    obtain ⟨stopper, -, rfl⟩ := create_eq_ok hcreate
    exact UInt32.zero_and
  have hmask₁ : c₁.OwnMask := keeping_ownMask.of_reaches (fun _ _ hc => hc) hmask₀ hreach
  obtain ⟨hmask, hhalted⟩ := halted_of_session hmask₁ hclear hbefore
  obtain ⟨-, hhalted', hlatched', hnone, hqueued⟩ :=
    held_of_session (hhalted hlatched) hmask hlatched hsession
  have hreaches : c₀.Reaches c' := hreach.trans (hbefore.reaches.trans hsession.reaches)
  refine ⟨hhalted', hlatched', fun i hi => ?_, hnone, hqueued, fun operation hrevives => ?_⟩
  · -- an active buffer would be in the chain, but there is none
    have hsettled := settled_of_reaches hcreate hreaches
    rcases hsettled.arranged.inFlight i (.inl hi) with hmem | hmem
    · rw [hhalted'.idle] at hmem
      cases hmem
    · obtain ⟨_, -, -, -, hwaits⟩ := hsettled.arranged.running hhalted'.streaming
      cases hi.symm.trans (hwaits i hmem)
  · obtain ⟨now, bits, rfl⟩ := hrevives.exists_status
    have hfails := (failsOnly_perform_status now bits (serves_of_reaches hcreate hreaches)
      (equipped_of_reaches hcreate hreaches)).mono fun _ hout => hout.2
    obtain ⟨⟨answer, c''⟩, hperform⟩ | hexhausts :=
      (settled_of_reaches hcreate hreaches).exists_or_exhausts hfails
    · exact .inl ⟨answer, c'', hperform, running_of_revives hhalted' hrevives hperform⟩
    · exact .inr ⟨now, rfl, hexhausts⟩

/-- After a fault with one buffer waiting, another is handed in and a program's interrupt is handled
while the engine is not in the stopper: both wait. -/
theorem failStopped_of_session_waiting :
    ∃ c₀ dma before c events c', create {} HostDma.create {} = (.ok c₀, dma) ∧
      c₀.Reaches c₀ ∧ c₀.fault = none ∧
      c₀.Session (fun c operation => ¬c.Revives operation) Engine.StaysOff before c ∧
      c.fault ≠ none ∧
      c.Session (fun c operation => ¬c.Revives operation ∧ operation.resumes = false)
        Engine.StaysOff events c' ∧
      c'.queued = [2, 0] ∧ c.FailStopped events c' := by
  let narrow : Geometry := { width := 48, height := 32, format := .initial, field := .bottom }
  let later : List Operation :=
    [.dequeue, .prepare 0 narrow .initial, .enqueue 0 0, .status 0 Status.program]
  obtain ⟨c₀, dma, before, c, hcreate, hbefore, hview⟩ :=
    exists_session_of_hostedRecord Engine.StaysOff
      (show hostedRecord (fun c operation => ¬c.Revives operation)
        (chainedOperations ++ [.status 0 Status.faults]) (fun _ c =>
          (c.fault, (c.record (fun c operation => ¬c.Revives operation ∧
            operation.resumes = false) [] later).map fun recorded => recorded.2.queued)) =
        some (some Status.faults, some [2, 0]) by decide +kernel)
  obtain ⟨hfault, hlater⟩ := Prod.mk.inj hview
  obtain ⟨⟨events, c'⟩, hrecord, hqueued⟩ := Option.map_eq_some_iff.mp hlater
  have hlatched : c.fault ≠ none := by
    rw [hfault]
    exact nofun
  have hclear : c₀.fault = none := by
    obtain ⟨stopper, -, rfl⟩ := create_eq_ok hcreate
    rfl
  have hsession : c.Session _ Engine.StaysOff events c' := session_of_record .refl hrecord
  exact ⟨c₀, dma, before, c, events, c', hcreate, .refl, hclear, hbefore, hlatched, hsession,
    hqueued, failStopped_of_session hcreate .refl hclear hbefore hlatched hsession⟩

end Sessions

end Channel

end VideoCapture
