import VideoCapture.Proofs.Queue.Recovery
import VideoCapture.Proofs.Queue.Retirement

/-!
# Nothing waits unwatched

Buffers that wait are let into the chain when the engine is started anew, which happens when the
engine parks or when a chain has missed its deadline. So they get on as long as there is a chain
with a deadline: either the chain completes, or the timer gives it up and starts what waits.

A deadline is set exactly while there is a chain. A chain, however, may end without the engine being
started anew: the interrupt of its last buffer retires that buffer, and if the address that the
engine fetches from is by then neither in the buffer's program nor in the stopper, nothing parks.
This module says when exactly buffers are stranded in this way, and that it happens in no other.

## Main definitions

* `VideoCapture.CaptureQueue.Timed` — there is a deadline exactly while there is a chain.
* `VideoCapture.CaptureQueue.Attended` — nothing waits without a chain.
* `VideoCapture.Channel.Strands` — interrupt status that leaves waiting buffers without a chain.
* `VideoCapture.Channel.Stranded` — buffers wait without a chain and a deadline.
* `VideoCapture.Channel.Watched` — buffers that wait get on.

## Main results

* `VideoCapture.Channel.keeping_timed` — no operation breaks the deadline off from the chain.
* `VideoCapture.Channel.responding_attended` — nothing is left without a chain but by interrupt
  status that strands it.
* `VideoCapture.Channel.promoted_of_checkTimeout` — the timer gets waiting buffers on.
* `VideoCapture.Channel.stranded_of_strands` — the exception leaves them without a chain and a
  deadline.
* `VideoCapture.Channel.watched_of_session` — nothing waits unwatched, unless it has been stranded.
-/

set_option autoImplicit false

namespace VideoCapture

namespace CaptureQueue

/-- There is a deadline exactly while there is a chain. -/
def Timed (q : CaptureQueue) : Prop :=
  q.active = [] ↔ q.deadline = none

/-- While capture is on and no fault has stopped it, nothing waits without a chain. -/
def Attended (q : CaptureQueue) : Prop :=
  q.streaming = true → q.fault = none → q.queued ≠ [] → q.active ≠ []

variable {q q' : CaptureQueue}

/-- Without a chain and without a deadline a queue is timed. -/
lemma timed_of_none (hactive : q.active = []) (hdeadline : q.deadline = none) : q.Timed :=
  iff_of_true hactive hdeadline

/-- With a chain and with a deadline a queue is timed. -/
lemma timed_of_some {deadline : Int} (hactive : q.active ≠ [])
    (hdeadline : q.deadline = some deadline) : q.Timed :=
  iff_of_false hactive (by simp [hdeadline])

/-- A chain has a deadline. -/
lemma Timed.exists_deadline (h : q.Timed) (hactive : q.active ≠ []) :
    ∃ deadline, q.deadline = some deadline :=
  Option.ne_none_iff_exists'.mp fun hnone => hactive (h.mpr hnone)

end CaptureQueue

namespace Channel

open CaptureQueue (Operation Answer Event)

variable {δ : Type} {c c' : Channel δ} {now : Int}

/-- Interrupt status strands the buffers that wait if it reports a program's interrupt and no fault,
while the chain consists of one buffer only and the engine is neither in that buffer's program nor
in the stopper. -/
def Strands (c : Channel δ) : Operation → Prop
  | .status _ bits =>
    bits &&& Status.video ≠ 0 ∧ bits &&& Status.video &&& Status.faults = 0 ∧
      c.streaming = true ∧ c.fault = none ∧ c.queued ≠ [] ∧ c.active.length = 1 ∧
      c.headRuns (c.regs.read32 Register.programPointer) = .ok false ∧
      c.stopper.contains (c.regs.read32 Register.programPointer) = false
  | _ => False

instance (c : Channel δ) : ∀ operation, Decidable (c.Strands operation)
  | .status _ _ => inferInstanceAs (Decidable (_ ∧ _ ∧ _ ∧ _ ∧ _ ∧ _ ∧ _ ∧ _))
  | .request _ _ | .prepare _ _ _ | .enqueue _ _ | .dequeue | .streamOn _ | .streamOff
  | .timeout _ | .maskAll | .takeFault | .shutdown => .isFalse id

/-- Nothing but interrupt status strands buffers. -/
lemma Strands.exists_status {operation : Operation} (h : c.Strands operation) :
    ∃ now bits, operation = .status now bits := by
  cases operation with
  | status now bits => exact ⟨now, bits, rfl⟩
  | _ => exact h.elim

/-- Then nothing of the chain goes on, and nothing is started anew. -/
lemma Strands.not_goesOn {bits : UInt32} (h : c.Strands (.status now bits)) :
    ¬(c.active.tail ≠ [] ∨
      c.stopper.contains (c.regs.read32 Register.programPointer) = true) := by
  obtain ⟨-, -, -, -, -, hlength, -, hstopper⟩ := h
  rintro (htail | hinside)
  · refine htail (List.length_eq_zero_iff.mp ?_)
    rw [List.length_tail, hlength]
  · cases hinside.symm.trans hstopper

/-! ## Deadlines -/

/-- Starting the engine sets the deadline, or takes it back. -/
lemma timed_of_startHead (h : c.startHead now = .ok c') : c'.Timed := by
  by_cases hactive : c.active = []
  · obtain ⟨-, rfl⟩ | ⟨head, rest, _, _, _, _, hcons, -⟩ := startHead_cases h
    · exact CaptureQueue.timed_of_none hactive rfl
    · cases hcons.symm.trans hactive
  · have hsame := (lists_of_startHead h).1
    exact CaptureQueue.timed_of_some (hsame ▸ hactive) (started_of_startHead h hactive).1

/-- Starting what waits sets a deadline exactly if that makes a chain. -/
lemma timed_of_restart (h : c.restart now = .ok c') : c'.Timed := by
  obtain ⟨-, hstart⟩ | ⟨q, -, -, hstart⟩ := restart_cases h <;> exact timed_of_startHead hstart

/-- A buffer that starts a chain starts a deadline with it. -/
lemma timed_of_place {i : Nat} (h : c.place now i = .ok c') (hc : c.Timed) : c'.Timed := by
  obtain ⟨-, ⟨-, rfl⟩ | ⟨-, -, -, hstart⟩ |
    ⟨previous, spliced, -, -, hlast, -, hsplice, rfl⟩⟩ := place_cases h
  · exact hc
  · exact timed_of_startHead hstart
  · obtain ⟨-, -, target, -, -, rfl⟩ := CaptureQueue.splice_eq_ok.mp hsplice
    obtain ⟨deadline, hdeadline⟩ :=
      hc.exists_deadline (List.ne_nil_of_mem (List.mem_of_getLast? hlast))
    have hactive : c.active ++ [i] ≠ [] := List.concat_ne_nil _ _
    exact CaptureQueue.timed_of_some hactive hdeadline

/-- A deadline is set again if there is more of the chain, and taken back otherwise. -/
lemma timed_of_completeHead {q : CaptureQueue} (hc : c.Timed)
    (h : c.completeHead now = .ok q) : q.Timed := by
  obtain ⟨-, rfl⟩ | ⟨head, rest, setup, -, -, rfl⟩ := CaptureQueue.completeHead_cases h
  · exact hc
  · cases rest with
    | nil => exact CaptureQueue.timed_of_none rfl rfl
    | cons next rest => exact CaptureQueue.timed_of_some (List.cons_ne_nil next rest) rfl

/-- After a completion there is a deadline exactly if there is a chain. -/
lemma timed_of_handleCompletion (h : c.handleCompletion now = .ok c') (hc : c.Timed) :
    c'.Timed := by
  obtain ⟨-, rfl⟩ | ⟨q, -, hcomplete, ⟨-, hpark⟩ | ⟨-, rfl⟩⟩ := handleCompletion_cases h
  · exact hc
  · obtain ⟨hactive, -, rfl⟩ | ⟨-, hrestart⟩ := park_cases hpark
    · exact CaptureQueue.timed_of_none hactive rfl
    · exact timed_of_restart hrestart
  · exact timed_of_completeHead hc hcomplete

/-- After interrupt status there is a deadline exactly if there is a chain. -/
lemma timed_of_handleStatus {status : UInt32} {mine : Bool} (hc : c.Timed)
    (h : c.handleStatus now status = .ok (mine, c')) : c'.Timed := by
  obtain ⟨-, -, rfl⟩ | ⟨-, -, ⟨-, rfl⟩ | ⟨-, -, hfail⟩ | ⟨-, -, hcompletion⟩⟩ :=
    handleStatus_cases h
  · exact hc
  · exact hc
  · obtain ⟨q, backlog, hq, rfl⟩ := failStop_cases hfail
    exact CaptureQueue.timed_of_none (by rw [hq.rest]) (by rw [hq.rest])
  · exact timed_of_handleCompletion hcompletion hc

variable [DmaBackend δ]

/-- **No operation breaks the deadline off from the chain.**

**Proof sketch.** One case for each operation. The deadline is set with a chain and taken back
without one where the chain starts, goes on and ends; all other operations touch neither. -/
theorem keeping_timed : Keeping fun c : Channel δ => c.Timed where
  request hc h := by
    obtain ⟨-, -, rfl⟩ | ⟨-, _, _, -, -, rfl⟩ := requestBuffers_cases h <;> exact hc
  prepare hc h := by
    obtain ⟨_, -, rfl⟩ | ⟨_, _, _, -, -, -, -, rfl⟩ := prepare_cases h <;> exact hc
  enqueue hc h := by
    obtain ⟨_, -, rfl⟩ | ⟨-, -, -, ⟨-, hplace⟩ | ⟨-, rfl⟩⟩ := enqueue_cases h
    · exact hc
    · exact timed_of_place hplace hc
    · exact hc
  dequeue hc h := by
    obtain ⟨_, -, rfl⟩ | ⟨_, _, _, _, -, -, -, -, -, rfl⟩ := dequeue_cases h <;> exact hc
  streamOn hc h := by
    obtain ⟨-, -, -, rfl⟩ | ⟨-, -, -, hrestart⟩ | ⟨-, -, hplace⟩ := streamOn_cases h
    · exact hc
    · exact timed_of_restart hrestart
    · refine placeAll_keeps (P := fun c => c.Timed) (fun _ _ _ hc hone => ?_) hplace hc
      exact timed_of_place hone hc
  streamOff hc h := by
    obtain ⟨-, -, rfl⟩ | ⟨-, -, _, _, -, rfl⟩ := streamOff_cases h
    · exact hc
    · exact CaptureQueue.timed_of_none rfl rfl
  status := timed_of_handleStatus
  timeout hc h := by
    obtain ⟨-, rfl, -⟩ | ⟨-, hactive, rfl⟩ | ⟨-, -, q, -, hrestart⟩ := checkTimeout_cases h
    · exact hc
    · exact CaptureQueue.timed_of_none hactive rfl
    · exact timed_of_restart hrestart
  maskAll hc := hc
  report _ hc := hc

/-! ## Waiting -/

omit [DmaBackend δ] in
/-- Starting what waits lets the first of it into the chain at least. -/
lemma attended_of_restart (h : c.restart now = .ok c') : c'.Attended := by
  intro _ _ hqueued
  have hwaits : c.active ≠ [] ∨ c.queued ≠ [] := by
    by_contra hnone
    have hempty : c.active ++ c.queued = [] := by simpa using hnone
    rw [← inFlight_of_restart h] at hempty
    exact hqueued (List.append_eq_nil_iff.mp hempty).2
  exact (started_of_restart h hwaits).1

omit [DmaBackend δ] in
/-- A buffer waits only behind a chain, or while a fault is latched. -/
lemma attended_of_place {i : Nat} (h : c.place now i = .ok c') (hc : c.Attended) :
    c'.Attended := by
  obtain ⟨-, ⟨hreason, rfl⟩ | ⟨-, -, -, hstart⟩ |
    ⟨previous, spliced, -, -, -, -, hsplice, rfl⟩⟩ := place_cases h
  · intro hon hclear _
    by_cases hqueued : c.queued = []
    · exact hreason hqueued hclear
    · exact hc hon hclear hqueued
  · intro _ _ _
    rw [(lists_of_startHead hstart).1]
    exact List.cons_ne_nil i []
  · obtain ⟨-, -, target, -, -, rfl⟩ := CaptureQueue.splice_eq_ok.mp hsplice
    exact fun _ _ _ => List.concat_ne_nil _ _

omit [DmaBackend δ] in
/-- Interrupt status leaves nothing to wait without a chain, unless it strands it.

**Proof sketch.** A fault is latched, and then nothing need be attended. A completion that parks
restarts what waits; one that does not leaves buffers waiting without a chain only if it retires the
last of the chain, which is what stranding means. -/
lemma attended_of_handleStatus {bits : UInt32} {mine : Bool} (hc : c.Attended)
    (hstays : ¬c.Strands (.status now bits)) (h : c.handleStatus now bits = .ok (mine, c')) :
    c'.Attended := by
  obtain ⟨-, -, rfl⟩ | ⟨hvideo, -, ⟨-, rfl⟩ | ⟨-, -, hfail⟩ | ⟨-, hfault, hcompletion⟩⟩ :=
    handleStatus_cases h
  · exact hc
  · exact hc
  · obtain ⟨q, backlog, hq, rfl⟩ := failStop_cases hfail
    intro _ hclear
    have hlatched : q.fault = some (bits &&& Status.video &&& Status.faults) := by rw [hq.rest]
    cases hclear.symm.trans hlatched
  · obtain ⟨-, rfl⟩ | ⟨q, hruns, hcomplete, ⟨-, hpark⟩ | ⟨hstopper, rfl⟩⟩ :=
      handleCompletion_cases hcompletion
    · exact hc
    · obtain ⟨-, hqueued, rfl⟩ | ⟨-, hrestart⟩ := park_cases hpark
      · exact fun _ _ hne => absurd hqueued hne
      · exact attended_of_restart hrestart
    · obtain ⟨-, rfl⟩ | ⟨head, rest, setup, hactive, -, rfl⟩ :=
        CaptureQueue.completeHead_cases hcomplete
      · exact hc
      · -- the last of the chain is retired only if that strands nothing
        intro hon hclear hqueued hnil
        rw [read32_programPointer_write32] at hruns hstopper
        refine hstays ⟨hvideo, hfault, hon, hclear, hqueued, ?_, hruns, hstopper⟩
        have hrest : rest = [] := hnil
        rw [show c.active = head :: rest from hactive, hrest]
        rfl

/-- Replacing the buffers leaves what waits. -/
lemma attended_of_requestBuffers {count capacity : Nat} {result : Except Error Nat}
    (h : c.requestBuffers count capacity = .ok (result, c')) (hc : c.Attended) : c'.Attended := by
  obtain ⟨-, -, rfl⟩ | ⟨-, _, _, -, -, rfl⟩ := requestBuffers_cases h <;> exact hc

/-- When capture has been stopped nothing waits. -/
lemma attended_of_streamOff {result : Except Error Unit} (h : c.streamOff = .ok (result, c'))
    (hc : c.Attended) : c'.Attended := by
  obtain ⟨-, -, rfl⟩ | ⟨-, -, _, _, -, rfl⟩ := streamOff_cases h
  · exact hc
  · exact fun _ _ hne => absurd rfl hne

/-- **Nothing is left without a chain** but by interrupt status that strands it.

**Proof sketch.** One case for each operation. Placing a buffer and restarting begin a chain if
there is none, and all but status take none away without restarting. -/
theorem responding_attended : Responding fun operation _ (c c' : Channel δ) =>
    c.Settled → c.Attended → ¬c.Strands operation → c'.Attended where
  request h _ hc _ := attended_of_requestBuffers h hc
  prepare h _ hc _ := by
    obtain ⟨_, -, rfl⟩ | ⟨_, _, _, -, -, -, -, rfl⟩ := prepare_cases h <;> exact hc
  enqueue h _ hc _ := by
    obtain ⟨_, -, rfl⟩ | ⟨-, -, -, ⟨-, hplace⟩ | ⟨-, rfl⟩⟩ := enqueue_cases h
    · exact hc
    · exact attended_of_place hplace hc
    · exact hc
  dequeue h _ hc _ := by
    obtain ⟨_, -, rfl⟩ | ⟨_, _, _, _, -, -, -, -, -, rfl⟩ := dequeue_cases h <;> exact hc
  streamOn h hsettled hc _ := by
    obtain ⟨-, -, -, rfl⟩ | ⟨-, -, -, hrestart⟩ | ⟨hoff, -, hplace⟩ := streamOn_cases h
    · exact hc
    · exact attended_of_restart hrestart
    · have hqueued := (hsettled.off hoff).2.1
      refine placeAll_keeps (P := fun c => c.Attended) (fun _ _ _ hc hone => ?_) hplace ?_
      · exact attended_of_place hone hc
      · exact fun _ _ hne => absurd hqueued hne
  streamOff h _ hc _ := attended_of_streamOff h hc
  status h _ hc hstays := attended_of_handleStatus hc hstays h
  timeout h _ hc _ := by
    obtain ⟨-, rfl, -⟩ | ⟨-, -, rfl⟩ | ⟨-, -, q, -, hrestart⟩ := checkTimeout_cases h
    · exact hc
    · exact hc
    · exact attended_of_restart hrestart
  maskAll _ hc _ := hc
  report _ _ _ hc _ := hc
  shutdown h _ hc _ := by
    obtain ⟨c₁, ⟨-, rfl⟩ | ⟨-, _, hoff⟩, _, hrequest⟩ := shutdown_cases h
    · exact attended_of_requestBuffers hrequest hc
    · exact attended_of_requestBuffers hrequest (attended_of_streamOff hoff hc)

/-! ## Getting on -/

omit [DmaBackend δ] in
/-- **The timer gets waiting buffers on**: once the deadline has passed it gives the chain up and
lets the first of those that wait, at least, into a new one. -/
theorem promoted_of_checkTimeout {stalled : Bool} {deadline : Int} (hc : c.Timed)
    (hdeadline : c.deadline = some deadline) (hpassed : deadline ≤ now) (hqueued : c.queued ≠ [])
    (h : c.checkTimeout now = .ok (stalled, c')) :
    stalled = true ∧ c'.active ≠ [] ∧ c'.active ++ c'.queued = c.queued ∧
      c'.deadline = some (now + c.timeout) ∧ Engine.running c'.regs = true := by
  obtain ⟨-, -, hearly⟩ | ⟨-, hnil, -⟩ | ⟨rfl, -, q, hq, hrestart⟩ := checkTimeout_cases h
  · exact absurd (hearly deadline hdeadline) (Int.not_lt.mpr hpassed)
  · cases hdeadline.symm.trans (hc.mp hnil)
  · have hsame : q.queued = c.queued := by rw [hq.rest]; rfl
    have htimeout : q.timeout = c.timeout := by rw [hq.rest]; rfl
    have hactive : q.active = [] := by rw [hq.rest]
    have horder := inFlight_of_restart hrestart
    obtain ⟨hstarted, hnew, hrunning⟩ := started_of_restart hrestart (.inr (hsame ▸ hqueued))
    refine ⟨rfl, hstarted, ?_, htimeout ▸ hnew, hrunning⟩
    calc c'.active ++ c'.queued = q.active ++ q.queued := horder
      _ = c.queued := by rw [hactive, hsame, List.nil_append]

/-- What is stranded waits without a chain and without a deadline, although capture is on and no
fault has stopped it. -/
structure Stranded (c : Channel δ) : Prop where
  /-- Capture is on. -/
  streaming : c.streaming = true
  /-- No fault has stopped it. -/
  clear : c.fault = none
  /-- Buffers wait. -/
  waiting : c.queued ≠ []
  /-- There is no chain. -/
  idle : c.active = []
  /-- There is no deadline. -/
  unwatched : c.deadline = none

/-- **Interrupt status that is said to strand what waits does so.**

**Proof sketch.** The head is retired, and it was all of the chain. As the engine is not in the
stopper nothing is started, so what waits goes on waiting. -/
theorem stranded_of_strands {operation : Operation} {answer : Answer}
    (hstrands : c.Strands operation) (h : c.perform operation = .ok (answer, c')) :
    c'.Stranded := by
  cases operation with
  | status now bits =>
    obtain ⟨hvideo, hfault, hon, hclear, hqueued, hlength, hruns, hstopper⟩ := hstrands
    have hcompletion := handleCompletion_of_perform hvideo hfault hon h
    rw [← read32_programPointer_write32 c.regs Status.video] at hruns hstopper
    obtain ⟨hinside, -⟩ | ⟨q, -, hcomplete, hcase⟩ := handleCompletion_cases hcompletion
    · cases hruns.symm.trans hinside
    · obtain ⟨hnil, -⟩ | ⟨head, rest, setup, hactive, -, rfl⟩ :=
        CaptureQueue.completeHead_cases hcomplete
      · simp [show c.active = [] from hnil] at hlength
      · have hrest : rest = [] := by
          rw [show c.active = head :: rest from hactive] at hlength
          simpa using hlength
        obtain ⟨hin, -⟩ | ⟨-, rfl⟩ := hcase
        · cases hin.symm.trans hstopper
        · exact ⟨hon, hclear, hqueued, hrest, by rw [hrest]; rfl⟩
  | _ => exact hstrands.elim

/-- Buffers that wait get on, and only interrupt status that strands them can change that, as it
does. -/
structure Watched (c : Channel δ) : Prop where
  /-- While capture is on and no fault has stopped it, what waits waits behind a chain. -/
  attended : c.Attended
  /-- Such a chain has a deadline. -/
  timed : c.Timed
  /-- Once the deadline has passed, the timer starts those that wait, or the first of them, unless
  the numbers run out. -/
  recovers : ∀ deadline now, c.deadline = some deadline → deadline ≤ now → c.queued ≠ [] →
    (∃ c', c.checkTimeout now = .ok (true, c') ∧ c'.active ≠ [] ∧
      c'.active ++ c'.queued = c.queued ∧ c'.deadline = some (now + c.timeout) ∧
      Engine.running c'.regs = true) ∨ c.Exhausts now (c.checkTimeout now)
  /-- Interrupt status that strands what waits leaves it without a chain and a deadline. -/
  stranded : ∀ operation, c.Strands operation →
    ∃ answer c', c.perform operation = .ok (answer, c') ∧ c'.Stranded

variable {regs : RegisterFile} {dma dma' : δ} {config : Config} {c₀ c₁ : Channel δ}
  {drifts : RegisterFile → RegisterFile → Prop} {events : List Event}

/-- The deadline of every reachable queue goes with its chain. -/
lemma timed_of_reaches (hcreate : create regs dma config = (.ok c₀, dma')) (h : c₀.Reaches c) :
    c.Timed := by
  refine keeping_timed.of_reaches (fun _ _ hc => hc) ?_ h
  obtain ⟨stopper, -, rfl⟩ := create_eq_ok hcreate
  exact CaptureQueue.timed_of_none rfl rfl

/-- Where nothing waits at first, a session strands nothing unless interrupt status does. -/
lemma attended_of_session (hcreate : create regs dma config = (.ok c₀, dma'))
    (hreach : c₀.Reaches c₁) (hidle : c₁.queued = [])
    (h : c₁.Session (fun c operation => ¬c.Strands operation) drifts events c) : c.Attended := by
  refine h.keeps (P := fun c => c.Attended) (fun _ _ hne => absurd hidle hne) ?_ ?_
  · intro c₂ _ _ _ hbefore hstays hattended hperform
    have hsettled := settled_of_reaches hcreate (hreach.trans hbefore)
    exact responding_attended.of_perform hperform hsettled hattended hstays
  · exact fun _ _ _ hattended => hattended

/-- **Nothing waits unwatched**, unless interrupt status has stranded it.

**Proof sketch.** Deadlines belong to chains in every session, and a chain stands in front of what
waits as long as nothing has been stranded. The timer can always be served, as all that it relies on
holds. -/
theorem watched_of_session (hcreate : create regs dma config = (.ok c₀, dma'))
    (hreach : c₀.Reaches c₁) (hidle : c₁.queued = [])
    (h : c₁.Session (fun c operation => ¬c.Strands operation) drifts events c) : c.Watched := by
  have htimed := timed_of_reaches hcreate (hreach.trans h.reaches)
  have hserves := serves_of_reaches hcreate (hreach.trans h.reaches)
  have hequipped := equipped_of_reaches hcreate (hreach.trans h.reaches)
  have hsettled := settled_of_reaches hcreate (hreach.trans h.reaches)
  refine ⟨attended_of_session hcreate hreach hidle h, htimed, ?_, ?_⟩
  · intro deadline now hdeadline hpassed hqueued
    have hfails := (failsOnly_checkTimeout now hserves hequipped).mono fun _ hout =>
      hout.2.2.mono (Nat.le_add_left _ c.active.length)
    refine (hsettled.exists_or_exhausts hfails).imp_left fun ⟨⟨stalled, c'⟩, htimer⟩ => ?_
    obtain ⟨rfl, hrecovered⟩ :=
      promoted_of_checkTimeout htimed hdeadline hpassed hqueued htimer
    exact ⟨c', htimer, hrecovered⟩
  · intro operation hstrands
    obtain ⟨now, bits, rfl⟩ := hstrands.exists_status
    obtain ⟨⟨answer, c'⟩, hperform⟩ | ⟨fault, -, hgoesOn, -⟩ :=
      (failsOnly_perform_status now bits hserves hequipped).cases
    · exact ⟨answer, c', hperform, stranded_of_strands hstrands hperform⟩
    · exact absurd hgoesOn hstrands.not_goesOn

/-- Two buffers make the chain and a third waits. When the first is done the third still waits
behind a chain, but the interrupt of the second strands it while the engine fetches from where no
program is. -/
theorem watched_of_session_chained :
    ∃ c₀ dma events c, create {} HostDma.create {} = (.ok c₀, dma) ∧ c₀.Reaches c₀ ∧
      c₀.queued = [] ∧ c₀.Session (fun c operation => ¬c.Strands operation) (fun _ _ => True)
        events c ∧
      c.active = [1] ∧ c.queued = [2] ∧ c.Strands (.status 0 Status.program) ∧ c.Watched := by
  obtain ⟨c₀, dma, events, c, hcreate, hsession, hview⟩ :=
    exists_session_of_hostedRecord (fun _ _ => True)
      (show hostedRecord (fun c operation => ¬c.Strands operation)
        (chainedOperations ++ [.status 0 Status.program]) (fun _ c =>
          (c.active, c.queued, decide (c.Strands (.status 0 Status.program)))) =
        some ([1], [2], true) by decide +kernel)
  obtain ⟨hactive, hqueued, hstrands⟩ : c.active = [1] ∧ c.queued = [2] ∧
      c.Strands (.status 0 Status.program) := by simpa using hview
  have hidle : c₀.queued = [] := by
    obtain ⟨stopper, -, rfl⟩ := create_eq_ok hcreate
    rfl
  exact ⟨c₀, dma, events, c, hcreate, .refl, hidle, hsession, hactive, hqueued, hstrands,
    watched_of_session hcreate .refl hidle hsession⟩

end Channel

end VideoCapture
