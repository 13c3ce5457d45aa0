import VideoCapture.Proofs.Queue.Switching
import VideoCapture.Proofs.Queue.Unbroken

/-!
# What is still latched when the engine is started

Stopping the engine acknowledges what its interrupts have latched, so that it cannot be taken for a
sign of the program started next. The engine is not always stopped before it is started. When
capture is started, and when a buffer is handed in while the engine is idle, it is started afresh,
and what has been latched before is then reported of the program just started. Whatever else starts
the engine has stopped it or acknowledged its interrupts first.

## Main definitions

* `VideoCapture.Channel.StartsAfresh` — an operation starts the engine without stopping it first.
* `VideoCapture.Channel.stale` — the interrupts latched before an operation.
* `VideoCapture.Channel.Leaves` — what an operation leaves pending when it starts the engine.

## Main results

* `VideoCapture.Channel.leaves_of_reaches` — what has been latched before is still pending exactly
  if the engine is started afresh, in every reachable queue.
-/

set_option autoImplicit false

namespace VideoCapture

namespace Channel

open CaptureQueue (Operation Answer)

variable {δ : Type} {c c' : Channel δ} {now : Int}

/-! ## What starts the engine -/

/-- An operation starts the engine afresh: a buffer is handed in while capture is on and the engine
is idle, or capture is started with buffers handed in. -/
def StartsAfresh (c : Channel δ) : Operation → Prop
  | .enqueue _ i => c.streaming = true ∧ ¬c.Busy ∧ c.fault = none ∧ i ∉ c.stream ∧
      c.stateOf i = some .prepared
  | .streamOn _ => c.streaming = false ∧ c.stream ≠ []
  | _ => False

/-- The interrupts of the capture path that are latched, apart from those that are held up. -/
def stale (c : Channel δ) : UInt32 :=
  c.regs.read32 Register.interruptStatus &&& Status.video &&& ~~~c.regs.stuck

/-- How an operation switches the engine: one that starts it afresh acknowledges nothing, and any
other that starts it acknowledges its interrupts. -/
def Switches (c : Channel δ) (operation : Operation) (c' : Channel δ) : Prop :=
  ∃ commands bits, c.regs.Driven commands bits c'.regs ∧
    (c.StartsAfresh operation → true ∈ commands ∧ bits = 0) ∧
    (¬c.StartsAfresh operation → true ∈ commands → operation.canStart = true ∧ bits = Status.video)

/-- An operation that does not start the engine. -/
lemma switches_of_not_mem {operation : Operation} {commands : List Bool} {bits : UInt32}
    (h : c.regs.Driven commands bits c'.regs) (hnot : ¬c.StartsAfresh operation)
    (hmem : true ∉ commands) : c.Switches operation c' :=
  ⟨commands, bits, h, fun hafresh => absurd hafresh hnot, fun _ hstart => absurd hstart hmem⟩

/-- Handing a buffer in starts the engine afresh, if it does.

**Proof sketch.** The engine is started if nothing was busy and no fault was latched, and otherwise
it is left alone. Just in the first case the start is afresh. -/
lemma switches_of_enqueue {i : Nat} {result : Except Error Unit}
    (h : c.enqueue now i = .ok (result, c')) : c.Switches (.enqueue now i) c' := by
  obtain ⟨error, rfl, rfl⟩ | ⟨-, hstream, hprepared, ⟨hon, hplace⟩ | ⟨hoff, rfl⟩⟩ :=
    enqueue_cases h
  · refine switches_of_not_mem (.refl _) ?_ nofun
    rintro ⟨hon, -, -, hstream, hprepared⟩
    rw [enqueue_of_ready now hprepared hstream, if_pos hon] at h
    obtain ⟨_, -, h⟩ := bind_eq_ok.mp h
    cases h
  · have hdriven : c.regs.Driven (if ¬c.Busy ∧ c.fault = none then [true] else []) 0 c'.regs :=
      (driven_of_place hplace).1
    by_cases hidle : ¬c.Busy ∧ c.fault = none
    · rw [if_pos hidle] at hdriven
      refine ⟨[true], 0, hdriven, fun _ => ⟨List.mem_singleton_self true, rfl⟩, fun hnot => ?_⟩
      exact absurd ⟨hon, hidle.1, hidle.2, hstream, hprepared⟩ hnot
    · rw [if_neg hidle] at hdriven
      exact switches_of_not_mem hdriven (fun hafresh => hidle ⟨hafresh.2.1, hafresh.2.2.1⟩) nofun
  · refine switches_of_not_mem (.refl c.regs) (fun hafresh => ?_) nofun
    cases hoff.symm.trans hafresh.1

/-- Starting capture starts the engine afresh, if it does. Resuming it has stopped the engine
first.

**Proof sketch.** Resuming stops the engine before it starts it again. Starting finds places for
buffers on an idle engine, and the first of them starts it. -/
lemma switches_of_streamOn {result : Except Error Unit} (hsettled : c.Settled)
    (h : c.streamOn now = .ok (result, c')) : c.Switches (.streamOn now) c' := by
  have hresumed : c.streaming = true → ¬c.StartsAfresh (.streamOn now) := by
    rintro hon ⟨hoff, -⟩
    cases hon.symm.trans hoff
  obtain ⟨hon, -, -, rfl⟩ | ⟨hon, -, -, hrestart⟩ | ⟨hoff, -, hplace⟩ := streamOn_cases h
  · exact switches_of_not_mem (.refl _) (hresumed hon) nofun
  · have hstopped := RegisterFile.driven_stop c.engine c.regs
    have hrestarted := driven_of_restart hrestart
    exact ⟨_, _, hstopped.trans hrestarted, fun hafresh => absurd hafresh (hresumed hon),
      fun _ _ => ⟨rfl, rfl⟩⟩
  · obtain ⟨hactive, hqueued, hprepared⟩ := hsettled.arranged.stopped hoff
    have hidle : ¬c.Busy := CaptureQueue.not_busy_iff.mpr ⟨hactive, hqueued⟩
    have hdriven := driven_of_placeAll_idle hplace hidle rfl hprepared
    by_cases hstream : c.stream = []
    · rw [if_pos hstream] at hdriven
      exact switches_of_not_mem hdriven (fun hafresh => hafresh.2 hstream) nofun
    · rw [if_neg hstream] at hdriven
      exact ⟨[true], 0, hdriven, fun _ => ⟨List.mem_singleton_self true, rfl⟩,
        fun hnot => absurd ⟨hoff, hstream⟩ hnot⟩

/-- Interrupt status that has the engine started has acknowledged its interrupts. -/
lemma switches_of_handleStatus {status : UInt32} {mine : Bool}
    (h : c.handleStatus now status = .ok (mine, c')) : c.Switches (.status now status) c' := by
  obtain ⟨commands, hdriven, hstop, hstart⟩ := driven_of_handleStatus h
  refine ⟨commands, _, hdriven, False.elim, fun _ hmem => ⟨rfl, if_neg ?_⟩⟩
  exact (hstop.mp (hstart hmem)).2.and_video_ne

/-- So has the timer. -/
lemma switches_of_checkTimeout {stalled : Bool} (h : c.checkTimeout now = .ok (stalled, c')) :
    c.Switches (.timeout now) c' := by
  obtain ⟨commands, bits, hdriven, hstart⟩ := driven_of_checkTimeout h
  exact ⟨commands, bits, hdriven, False.elim, fun _ hmem => ⟨rfl, hstart hmem⟩⟩

/-- Stopping capture does not start the engine. -/
lemma driven_of_streamOff [DmaBackend δ] {result : Except Error Unit}
    (h : c.streamOff = .ok (result, c')) :
    ∃ commands bits, c.regs.Driven commands bits c'.regs ∧ true ∉ commands := by
  obtain ⟨-, -, rfl⟩ | ⟨-, -, _, _, -, rfl⟩ := streamOff_cases h
  · exact ⟨[], 0, .refl _, nofun⟩
  · exact ⟨[false], _, RegisterFile.driven_stop c.engine c.regs, by simp⟩

/-- **How every operation switches the engine.**

**Proof sketch.** One case for each operation. Those that cannot start the engine are shown to drive
the registers without starting it, and the others have a lemma each. -/
theorem responding_switches [DmaBackend δ] :
    Responding fun operation _ (c c' : Channel δ) => c.Settled → c.Switches operation c' where
  request h _ := by
    obtain ⟨-, -, rfl⟩ | ⟨-, _, _, -, -, rfl⟩ := requestBuffers_cases h <;>
      exact switches_of_not_mem (.refl _) id nofun
  prepare h _ := by
    obtain ⟨_, -, rfl⟩ | ⟨_, _, _, -, -, -, -, rfl⟩ := prepare_cases h <;>
      exact switches_of_not_mem (.refl _) id nofun
  enqueue h _ := switches_of_enqueue h
  dequeue h _ := by
    obtain ⟨_, -, rfl⟩ | ⟨_, _, _, _, -, -, -, -, -, rfl⟩ := dequeue_cases h <;>
      exact switches_of_not_mem (.refl _) id nofun
  streamOn h hsettled := switches_of_streamOn hsettled h
  streamOff h _ := by
    obtain ⟨_, _, hdriven, hmem⟩ := driven_of_streamOff h
    exact switches_of_not_mem hdriven id hmem
  status h _ := switches_of_handleStatus h
  timeout h _ := switches_of_checkTimeout h
  maskAll {c} _ := switches_of_not_mem (RegisterFile.driven_maskAll c.engine c.regs) id nofun
  report {c} _ _ _ := switches_of_not_mem (.refl c.regs) id nofun
  shutdown {c c'} h _ := by
    obtain ⟨c₁, hoff, _, hrequest⟩ := shutdown_cases h
    have hregs : c'.regs = c₁.regs := by
      obtain ⟨-, -, rfl⟩ | ⟨-, _, _, -, -, rfl⟩ := requestBuffers_cases hrequest <;> rfl
    rw [Switches, hregs]
    obtain ⟨-, rfl⟩ | ⟨-, _, hoff⟩ := hoff
    · exact switches_of_not_mem (.refl _) id nofun
    · obtain ⟨_, _, hdriven, hmem⟩ := driven_of_streamOff hoff
      exact switches_of_not_mem hdriven id hmem

/-! ## What is left pending -/

/-- Only operations that can start the engine start it afresh. -/
lemma StartsAfresh.canStart {operation : Operation} (h : c.StartsAfresh operation) :
    operation.canStart = true := by
  cases operation with
  | enqueue _ _ | streamOn _ => rfl
  | request _ _ | prepare _ _ _ | dequeue | streamOff | status _ _ | timeout _ | maskAll
  | takeFault | shutdown => exact h.elim

/-- What an operation leaves pending when it starts the engine. -/
structure Leaves (c : Channel δ) (operation : Operation) (c' : Channel δ) : Prop where
  /-- Only some operations start the engine. -/
  starts : c.regs.Switched true c'.regs → operation.canStart = true
  /-- What starts it afresh does start it, and leaves the interrupt status as it was. -/
  afresh : c.StartsAfresh operation → c.regs.Switched true c'.regs ∧
    c'.regs.read32 Register.interruptStatus = c.regs.read32 Register.interruptStatus
  /-- Once it is started nothing is pending that was latched before, unless it has been started
  afresh and there was something. -/
  pending : c.regs.Switched true c'.regs →
    (c.stale &&& c'.regs.read32 Register.interruptStatus = 0 ↔
      ¬(c.StartsAfresh operation ∧ c.stale ≠ 0))

/-- How an operation switches the engine decides on what it leaves pending.

**Proof sketch.** A start afresh acknowledges nothing, so that all stale bits are still there. Any
other start comes behind an acknowledgement of all of them. -/
lemma Switches.leaves {operation : Operation} (h : c.Switches operation c') :
    c.Leaves operation c' := by
  obtain ⟨commands, bits, hdriven, hafresh, hafter⟩ := h
  by_cases hstarts : c.StartsAfresh operation
  · obtain ⟨hmem, rfl⟩ := hafresh hstarts
    refine ⟨fun _ => hstarts.canStart,
      fun _ => ⟨(hdriven.switched_iff true).mpr hmem, hdriven.same⟩, fun _ => ?_⟩
    have hall : c.stale &&& c.regs.read32 Register.interruptStatus = c.stale :=
      calc c.regs.read32 Register.interruptStatus &&& Status.video &&& ~~~c.regs.stuck &&&
            c.regs.read32 Register.interruptStatus
          = c.regs.read32 Register.interruptStatus &&& c.regs.read32 Register.interruptStatus &&&
              Status.video &&& ~~~c.regs.stuck := by ac_rfl
        _ = c.stale := by rw [UInt32.and_self, stale]
    rw [hdriven.same, hall, and_iff_right hstarts, not_not]
  · refine ⟨fun hstart => (hafter hstarts ((hdriven.switched_iff true).mp hstart)).1,
      fun hyes => absurd hyes hstarts, fun hstart => ?_⟩
    obtain ⟨-, rfl⟩ := hafter hstarts ((hdriven.switched_iff true).mp hstart)
    refine iff_of_true (hdriven.acknowledged ?_) fun hboth => hstarts hboth.1
    rw [UInt32.and_assoc, UInt32.and_self]

/-- **What has been latched before is still pending exactly if the engine is started afresh**: in
every reachable queue, whatever its registers hold. The operations that can start the engine
succeed unless the numbers run out. -/
theorem leaves_of_reaches [DmaBackend δ] {regs : RegisterFile} {dma dma' : δ} {config : Config}
    {c₀ : Channel δ} (hcreate : create regs dma config = (.ok c₀, dma')) (h : c₀.Reaches c)
    (operation : Operation) :
    (operation.canStart = true →
        (∃ answer c', c.perform operation = .ok (answer, c')) ∨ c.Exhausted operation) ∧
      ∀ answer c', c.perform operation = .ok (answer, c') → c.Leaves operation c' := by
  have hsettled := settled_of_reaches hcreate h
  refine ⟨?_, fun answer c' hperform => ?_⟩
  · exact exists_or_exhausted (serves_of_reaches hcreate h) (equipped_of_reaches hcreate h)
      (staged_of_reaches hcreate h) hsettled
  · exact (responding_switches.of_perform hperform hsettled).leaves

/-- Capture is on with nothing handed in, and an overflow of the pixel queue is latched: it is still
pending when the first buffer has been handed in and its program started. -/
theorem leaves_of_reaches_idle :
    ∃ c₀ dma, ∃ c : Channel HostDma, create {} HostDma.create {} = (.ok c₀, dma) ∧
      c₀.Reaches c ∧ c.StartsAfresh (.enqueue 0 0) ∧ c.stale = Status.pixelOverflow ∧
      ∃ answer c', c.perform (.enqueue 0 0) = .ok (answer, c') ∧
        c.Leaves (.enqueue 0 0) c' := by
  let narrow : Geometry := { width := 48, height := 32, format := .initial, field := .bottom }
  obtain ⟨c₀, dma, c, hcreate, hreach, hview⟩ := exists_session_of_viewFrom
    (show viewFrom HostDma.create
        [.request 1 8192, .prepare 0 narrow .initial, .streamOn 0] (fun c =>
      let raised := { c with regs := c.regs.raise Status.pixelOverflow }
      (c.streaming && (raised.perform (.enqueue 0 0)).toOption.isSome, c.fault,
        c.active ++ c.queued ++ c.stream, c.stateOf 0, raised.stale)) =
      some (true, none, [], some .prepared, Status.pixelOverflow) by decide +kernel)
  simp only [Prod.mk.injEq, List.append_eq_nil_iff, Bool.and_eq_true, Option.isSome_iff_exists,
    toOption_eq_some] at hview
  obtain ⟨⟨hon, ⟨answer, c'⟩, hperform⟩, hfault, ⟨⟨hactive, hqueued⟩, hstream⟩, hprepared,
    hstale⟩ := hview
  have hraised := hreach.change (c.regs.raise Status.pixelOverflow)
  obtain ⟨-, hleaves⟩ := leaves_of_reaches hcreate hraised (.enqueue 0 0)
  have hidle : ¬c.Busy := CaptureQueue.not_busy_iff.mpr ⟨hactive, hqueued⟩
  have hout : 0 ∉ c.stream := by
    rw [hstream]
    exact List.not_mem_nil
  exact ⟨c₀, dma, _, hcreate, hraised, ⟨hon, hidle, hfault, hout, hprepared⟩, hstale, answer, c',
    hperform, hleaves answer c' hperform⟩

end Channel

end VideoCapture
