import VideoCapture.Proofs.Engine.Switching
import VideoCapture.Proofs.Queue.Retirement
import VideoCapture.Proofs.Queue.Scheduling

/-!
# How a queue switches its engine

What an operation of a queue does to the engine depends on little of the queue: on whether there is
a chain, whether buffers wait for one, whether a fault is kept, and what interrupt status is
reported. For each step of the scheduler this module says how the engine is switched and whether its
interrupts are acknowledged, and under which conditions.

## Main definitions

* `VideoCapture.CaptureQueue.Busy` — buffers are in the chain or wait.
* `VideoCapture.Channel.Halts` — interrupt status that has the engine stopped.

## Main results

* `VideoCapture.Channel.driven_of_restart`, `VideoCapture.Channel.driven_of_place` — when the engine
  is started.
* `VideoCapture.Channel.driven_of_handleStatus` — what interrupt status does to it.
-/

set_option autoImplicit false

namespace VideoCapture

/-- Buffers are in the chain or wait. -/
def CaptureQueue.Busy (q : CaptureQueue) : Prop :=
  q.active ≠ [] ∨ q.queued ≠ []

instance (q : CaptureQueue) : Decidable q.Busy :=
  inferInstanceAs (Decidable (_ ∨ _))

/-- A queue is not busy if it has neither a chain nor anything that waits. -/
lemma CaptureQueue.not_busy_iff {q : CaptureQueue} :
    ¬q.Busy ↔ q.active = [] ∧ q.queued = [] := by
  rw [Busy, not_or, not_not, not_not]

namespace Channel

variable {δ : Type} {c c' : Channel δ} {now : Int}

/-! ## Starting -/

/-- Where there is a chain the engine is started. -/
lemma driven_of_startHead (h : c.startHead now = .ok c') :
    c.regs.Driven (if c.active = [] then [] else [true]) 0 c'.regs := by
  obtain ⟨hnil, rfl⟩ | ⟨_, _, _, _, _, _, hcons, -, -, hstart, rfl⟩ := startHead_cases h
  · rw [if_pos hnil]
    exact .refl c.regs
  · rw [if_neg (by rw [hcons]; exact nofun)]
    exact RegisterFile.driven_start hstart

/-- **Where there is a chain or a buffer waits the engine is started.** -/
theorem driven_of_restart (h : c.restart now = .ok c') :
    c.regs.Driven (if c.Busy then [true] else []) 0 c'.regs := by
  obtain ⟨hactive, hstart⟩ | ⟨q, hnil, hpromote, hstart⟩ := restart_cases h
  · have hdriven := driven_of_startHead hstart
    rw [if_neg hactive] at hdriven
    rwa [if_pos (.inl hactive)]
  · have hdriven := driven_of_startHead hstart
    obtain ⟨taken, hq⟩ := CaptureQueue.promoted_of_promote hpromote
    have hactive : q.active = taken := by rw [hq.rest, hnil, List.nil_append]
    by_cases hqueued : c.queued = []
    · -- nothing waits, and nothing is taken into the chain
      obtain ⟨htaken, -⟩ := List.append_eq_nil_iff.mp (hq.split.symm.trans hqueued)
      rw [if_pos (hactive.trans htaken)] at hdriven
      rwa [if_neg (CaptureQueue.not_busy_iff.mpr ⟨hnil, hqueued⟩)]
    · have htaken : taken ≠ [] := hq.progress hnil hqueued
      rw [if_neg (hactive ▸ htaken)] at hdriven
      rwa [if_pos (.inr hqueued)]

/-- A buffer that finds its place in a queue that is not busy has the engine started, unless a fault
is kept.

**Proof sketch.** The three cases in which a buffer finds its place: it waits behind others or for
the fault to be cleared, it starts the engine on a chain of its own, or it is spliced onto a chain
that runs. -/
theorem driven_of_place {i : Nat} (h : c.place now i = .ok c') :
    c.regs.Driven (if ¬c.Busy ∧ c.fault = none then [true] else []) 0 c'.regs ∧ c'.Busy := by
  obtain ⟨-, ⟨hwaits, rfl⟩ | ⟨hqueued, hfault, hactive, hstart⟩ |
    ⟨previous, spliced, hqueued, hfault, hlast, -, hsplice, rfl⟩⟩ := place_cases h
  · refine ⟨?_, .inr (List.append_ne_nil_of_right_ne_nil _ (List.cons_ne_nil _ _))⟩
    rw [if_neg]
    · exact .refl c.regs
    · rintro ⟨hidle, hfault⟩
      obtain ⟨hactive, hqueued⟩ := CaptureQueue.not_busy_iff.mp hidle
      exact hwaits hqueued hfault hactive
  · have hdriven := driven_of_startHead hstart
    rw [if_neg (List.cons_ne_nil _ _)] at hdriven
    refine ⟨?_, .inl ?_⟩
    · rwa [if_pos ⟨CaptureQueue.not_busy_iff.mpr ⟨hactive, hqueued⟩, hfault⟩]
    · rw [(lists_of_startHead hstart).1]
      exact List.cons_ne_nil _ _
  · have hactive : c.active ≠ [] := List.ne_nil_of_mem (List.mem_of_getLast? hlast)
    refine ⟨?_, .inl ?_⟩
    · rw [if_neg fun hidle => hidle.1 (.inl hactive)]
      exact .refl c.regs
    · obtain ⟨-, -, _, -, -, rfl⟩ := CaptureQueue.splice_eq_ok.mp hsplice
      exact List.append_ne_nil_of_right_ne_nil _ (List.cons_ne_nil _ _)

/-- Buffers that find their places in a queue that is busy leave the engine alone. -/
lemma driven_of_placeAll {ready : List Nat} (h : c.placeAll now ready = .ok c') (hbusy : c.Busy) :
    c.regs.Driven [] 0 c'.regs := by
  suffices hkept : c.regs.Driven [] 0 c'.regs ∧ c'.Busy from hkept.1
  refine placeAll_keeps (P := fun c₁ : Channel δ => c.regs.Driven [] 0 c₁.regs ∧ c₁.Busy) ?_ h
    ⟨.refl c.regs, hbusy⟩
  rintro c₁ c₂ i ⟨hdriven, hbusy⟩ hplace
  have hplaced := driven_of_place hplace
  rw [if_neg fun hidle => hidle.1 hbusy] at hplaced
  exact ⟨hdriven.trans hplaced.1, hplaced.2⟩

/-- Where buffers have been prepared for it capture that is started has the engine started.

**Proof sketch.** The first buffer starts the engine, and then the queue is busy, so that the others
leave it alone. -/
theorem driven_of_placeAll_idle {ready : List Nat} (h : c.placeAll now ready = .ok c')
    (hidle : ¬c.Busy) (hfault : c.fault = none)
    (hprepared : ∀ i ∈ ready, c.stateOf i = some .prepared) :
    c.regs.Driven (if ready = [] then [] else [true]) 0 c'.regs := by
  cases ready with
  | nil =>
    obtain rfl : c = c' := pure_eq_ok.mp h
    exact .refl c.regs
  | cons i ready =>
    simp only [placeAll, bind_eq_ok, CaptureQueue.resident_eq_ok] at h
    obtain ⟨buffer, hbuffer, h⟩ := h
    have hstate := hprepared i List.mem_cons_self
    rw [CaptureQueue.stateOf_of_getElem? hbuffer, Option.some.injEq] at hstate
    simp only [hstate, if_true, bind_eq_ok] at h
    obtain ⟨c₁, hplace, hrest⟩ := h
    -- the first buffer starts a chain, and all others find one
    obtain ⟨hfirst, hbusy⟩ := driven_of_place hplace
    rw [if_pos ⟨hidle, hfault⟩] at hfirst
    rw [if_neg (List.cons_ne_nil _ _)]
    exact hfirst.trans (driven_of_placeAll hrest hbusy)

/-! ## Interrupt status and the timer -/

/-- An engine that is parked is stopped, and started again if the queue is busy. -/
lemma driven_of_park (h : c.park now = .ok c') :
    c.regs.Driven (if c.Busy then [true, false] else [false]) Status.video c'.regs := by
  have hstopped := RegisterFile.driven_stop c.engine c.regs
  obtain ⟨hactive, hqueued, rfl⟩ | ⟨hbusy, hrestart⟩ := park_cases h
  · rwa [if_neg (CaptureQueue.not_busy_iff.mpr ⟨hactive, hqueued⟩)]
  · have hbusy : c.Busy := hbusy
    have hrestarted : (c.engine.stop c.regs).2.Driven (if c.Busy then [true] else []) 0 c'.regs :=
      driven_of_restart hrestart
    rw [if_pos hbusy] at hrestarted ⊢
    exact hstopped.trans hrestarted

/-- A fault has the engine stopped. -/
lemma driven_of_failStop {fault : UInt32} (h : c.failStop fault = .ok c') :
    c.regs.Driven [false] Status.video c'.regs := by
  obtain ⟨q, backlog, -, rfl⟩ := failStop_cases h
  exact RegisterFile.driven_stop c.engine c.regs

/-- The completion of a program finds the engine outside the program of the chain's head, and in the
stopper. -/
def Parks (c : Channel δ) : Prop :=
  c.headRuns (c.regs.read32 Register.programPointer) = .ok false ∧
    c.stopper.contains (c.regs.read32 Register.programPointer) = true

/-- Interrupt status has the engine stopped: it reports a fault, or else the completion of a
program that finds the engine in the stopper. -/
def Halts (c : Channel δ) (status : UInt32) : Prop :=
  status &&& Status.faults ≠ 0 ∨ status &&& Status.video ≠ 0 ∧ c.Parks

/-- The completion of a program has the engine stopped if it is in the stopper. -/
lemma driven_of_handleCompletion (h : c.handleCompletion now = .ok c') :
    ¬c.Parks ∧ c.regs.Driven [] 0 c'.regs ∨
      c.Parks ∧ ∃ commands, false ∈ commands ∧ c.regs.Driven commands Status.video c'.regs := by
  obtain ⟨hinside, rfl⟩ | ⟨q, houtside, hcomplete, hcase⟩ := handleCompletion_cases h
  · refine .inl ⟨fun hparks => ?_, .refl _⟩
    cases hinside.symm.trans hparks.1
  · have hstopper : q.stopper = c.stopper := by
      obtain ⟨_, _, _, _, _, rfl⟩ := CaptureQueue.completeHead_rest hcomplete
      rfl
    rw [hstopper] at hcase
    obtain ⟨hparked, hpark⟩ | ⟨helsewhere, rfl⟩ := hcase
    · have hdriven := driven_of_park hpark
      refine .inr ⟨⟨houtside, hparked⟩, _, ?_, hdriven⟩
      split <;> simp
    · refine .inl ⟨fun hparks => ?_, .refl c.regs⟩
      cases helsewhere.symm.trans hparks.2

/-- Acknowledging interrupts does not move the engine. -/
lemma parks_acknowledge (c : Channel δ) (bits : UInt32) :
    Parks { c with regs := c.regs.write32 Register.interruptStatus bits } ↔ c.Parks := by
  rw [Parks, Parks, read32_programPointer_write32]
  rfl

/-- Faults are interrupts of the capture path. -/
lemma and_video_and_faults (status : UInt32) :
    status &&& Status.video &&& Status.faults = status &&& Status.faults := by
  rw [UInt32.and_assoc]
  rfl

/-- Interrupt status that has the engine stopped reports an interrupt of the capture path. -/
lemma Halts.and_video_ne {status : UInt32} (h : c.Halts status) : status &&& Status.video ≠ 0 := by
  obtain hfault | ⟨hvideo, -⟩ := h
  · intro hnone
    rw [← and_video_and_faults, hnone] at hfault
    exact hfault rfl
  · exact hvideo

/-- **What interrupt status does to the engine**: its interrupts are acknowledged, all at once,
unless none is reported; while capture is on the engine is stopped if the status has it stopped. It
is started only where it has been stopped before.

**Proof sketch.** The interrupts are acknowledged first. A fault stops the engine, and so does a
completion if the engine is parked, before it may be started anew. -/
theorem driven_of_handleStatus {status : UInt32} {mine : Bool}
    (h : c.handleStatus now status = .ok (mine, c')) :
    ∃ commands,
      c.regs.Driven commands (if status &&& Status.video = 0 then 0 else Status.video) c'.regs ∧
      (false ∈ commands ↔ c.streaming = true ∧ c.Halts status) ∧
      (true ∈ commands → false ∈ commands) := by
  have hacknowledged := RegisterFile.driven_acknowledge c.regs Status.video
  obtain ⟨hnone, -, rfl⟩ | ⟨hsome, -, hcase⟩ := handleStatus_cases h
  · rw [if_pos hnone]
    exact ⟨[], .refl _, ⟨nofun, fun hboth => absurd hnone hboth.2.and_video_ne⟩, nofun⟩
  · rw [if_neg hsome]
    rw [and_video_and_faults] at hcase
    obtain ⟨hoff, rfl⟩ | ⟨hon, hfault, hfail⟩ | ⟨hon, hfault, hcompletion⟩ := hcase
    · refine ⟨[], hacknowledged, ⟨nofun, fun hboth => ?_⟩, nofun⟩
      cases hoff.symm.trans hboth.1
    · have hstopped := driven_of_failStop hfail
      exact ⟨[false], hacknowledged.trans hstopped, by simp [hon, Halts, hfault], by simp⟩
    · have hhalts : c.Halts status ↔ c.Parks := by
        rw [Halts, or_iff_right (not_not.mpr hfault), and_iff_right hsome]
      rw [hhalts, and_iff_right hon, ← parks_acknowledge c Status.video]
      obtain ⟨hparks, hdriven⟩ | ⟨hparks, commands, hstop, hdriven⟩ :=
        driven_of_handleCompletion hcompletion
      · exact ⟨[], hacknowledged.trans hdriven, iff_of_false nofun hparks, nofun⟩
      · refine ⟨commands, ?_, iff_of_true hstop hparks, fun _ => hstop⟩
        have hboth := hacknowledged.trans hdriven
        rwa [List.append_nil] at hboth

/-- The timer acknowledges the interrupts where it has the engine started. -/
theorem driven_of_checkTimeout {stalled : Bool} (h : c.checkTimeout now = .ok (stalled, c')) :
    ∃ commands bits, c.regs.Driven commands bits c'.regs ∧
      (true ∈ commands → bits = Status.video) := by
  obtain ⟨-, rfl, -⟩ | ⟨-, -, rfl⟩ | ⟨-, -, q, -, hrestart⟩ := checkTimeout_cases h
  · exact ⟨[], 0, .refl _, nofun⟩
  · exact ⟨[], 0, .refl _, nofun⟩
  · have hstopped := RegisterFile.driven_stop c.engine c.regs
    have hrestarted := driven_of_restart hrestart
    exact ⟨_, _, hstopped.trans hrestarted, fun _ => rfl⟩

end Channel

end VideoCapture
