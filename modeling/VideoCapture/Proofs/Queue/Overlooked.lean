import VideoCapture.Proofs.Queue.Recovery
import VideoCapture.Proofs.Queue.Switching

/-!
# Faults between a reading and its acknowledgement

Interrupt status is read first and acted on then, and the chip can latch a fault in between. Acting
on a status acknowledges all interrupts of the capture path, and not those alone that the status
reports. A fault that has come up since is acknowledged with them, so that no later reading shows
it. Nothing is lost by this if the engine is stopped at the same time. If it goes on, the fault is
overlooked.

## Main definitions

* `VideoCapture.Channel.unreported` — the faults latched that a status does not report.
* `VideoCapture.Channel.Overlooks` — acting on a status overlooks some of them.
* `VideoCapture.Channel.Heeds` — what acting on a status does about what is latched.

## Main results

* `VideoCapture.Channel.handleStatus_of_reaches` — when faults are overlooked, and what becomes of
  them, in every reachable queue that captures.
-/

set_option autoImplicit false

namespace VideoCapture

namespace Channel

variable {δ : Type} {c c' : Channel δ} {now : Int} {latched status : UInt32}

/-- The faults among `latched` that a status does not report. -/
def unreported (latched status : UInt32) : UInt32 :=
  latched &&& Status.faults &&& ~~~status

/-- Acting on a status overlooks faults among `latched`: it acknowledges the interrupts and does not
have the engine stopped, and there are faults that it does not report and that nothing holds up. -/
def Overlooks (c : Channel δ) (latched status : UInt32) : Prop :=
  status &&& Status.video ≠ 0 ∧ ¬c.Halts status ∧ unreported latched status &&& ~~~c.regs.stuck ≠ 0

/-- What acting on a status does about what is latched. -/
structure Heeds (c : Channel δ) (latched status : UInt32) (c' : Channel δ) : Prop where
  /-- The engine is stopped if the status has it stopped. -/
  stops : c.regs.Switched false c'.regs ↔ c.Halts status
  /-- Unless it is stopped the faults that are not reported are still latched, if none is
  overlooked. -/
  kept : c.regs.Switched false c'.regs ∨ unreported latched status &&&
      c'.regs.read32 Register.interruptStatus = unreported latched status ↔
    ¬c.Overlooks latched status
  /-- No later reading shows faults that are overlooked. -/
  lost : c.Overlooks latched status → unreported latched status &&& ~~~c.regs.stuck &&&
    c'.regs.read32 Register.interruptStatus = 0
  /-- Nor are they kept or counted: capture goes on. -/
  goesOn : c.Overlooks latched status → c'.streaming = true ∧ c'.fault = c.fault ∧
    c'.backlog = c.backlog ∧ c'.stats.faults = c.stats.faults

/-- Faults are interrupts of the capture path. -/
lemma unreported_and_video (latched status : UInt32) :
    unreported latched status &&& Status.video = unreported latched status :=
  calc latched &&& Status.faults &&& ~~~status &&& Status.video
      = latched &&& (Status.faults &&& Status.video) &&& ~~~status := by ac_rfl
    _ = latched &&& Status.faults &&& ~~~status := rfl

/-- A completion leaves faults alone that are kept or counted, if it leaves the engine alone. -/
lemma goesOn_of_handleCompletion (h : c.handleCompletion now = .ok c') (hparks : ¬c.Parks) :
    c'.streaming = c.streaming ∧ c'.fault = c.fault ∧ c'.backlog = c.backlog ∧
      c'.stats.faults = c.stats.faults := by
  obtain ⟨-, rfl⟩ | ⟨q, houtside, hcomplete, hcase⟩ := handleCompletion_cases h
  · exact ⟨rfl, rfl, rfl, rfl⟩
  · obtain ⟨hparked, -⟩ | ⟨-, rfl⟩ := hcase
    · obtain ⟨_, _, _, _, _, rfl⟩ := CaptureQueue.completeHead_rest hcomplete
      exact absurd ⟨houtside, hparked⟩ hparks
    · obtain ⟨-, rfl⟩ | ⟨_, _, _, -, -, rfl⟩ := CaptureQueue.completeHead_cases hcomplete <;>
        exact ⟨rfl, rfl, rfl, rfl⟩

/-- **What acting on a status does about what is latched.**

**Proof sketch.** How the engine is switched is known, and what is acknowledged. A fault that was
latched and not reported is lost just if video bits are acknowledged without the engine being
stopped. -/
theorem heeds_of_handleStatus {mine : Bool} (h : c.handleStatus now status = .ok (mine, c'))
    (hstreaming : c.streaming = true)
    (hlatched : latched &&& c.regs.read32 Register.interruptStatus = latched) :
    c.Heeds latched status c' := by
  obtain ⟨commands, hdriven, hstop, -⟩ := driven_of_handleStatus h
  have hstops : c.regs.Switched false c'.regs ↔ c.Halts status := by
    rw [hdriven.switched_iff, hstop, and_iff_right hstreaming]
  refine ⟨hstops, ?_, fun hoverlooks => ?_, fun hoverlooks => ?_⟩
  · rw [hstops]
    by_cases hhalts : c.Halts status
    · exact iff_of_true (.inl hhalts) fun hoverlooks => hoverlooks.2.1 hhalts
    · rw [or_iff_right hhalts]
      by_cases hnone : status &&& Status.video = 0
      · -- nothing is acknowledged
        refine iff_of_true ?_ fun hoverlooks => hoverlooks.1 hnone
        rw [if_pos hnone] at hdriven
        rw [hdriven.same, unreported]
        calc latched &&& Status.faults &&& ~~~status &&& c.regs.read32 Register.interruptStatus
            = latched &&& c.regs.read32 Register.interruptStatus &&& Status.faults &&& ~~~status :=
              by ac_rfl
          _ = latched &&& Status.faults &&& ~~~status := by rw [hlatched]
      · rw [if_neg hnone] at hdriven
        rw [hdriven.interruptStatus,
          and_acknowledged_eq_iff _ _ (unreported_and_video latched status), Overlooks,
          and_iff_right hnone, and_iff_right hhalts, not_not]
  · rw [if_neg hoverlooks.1] at hdriven
    exact hdriven.acknowledged (unreported_and_video latched status)
  · obtain ⟨hsome, hhalts, -⟩ := hoverlooks
    obtain ⟨hnone, -⟩ | ⟨-, -, ⟨hoff, -⟩ | ⟨-, hfault, -⟩ | ⟨-, -, hcompletion⟩⟩ :=
      handleStatus_cases h
    · exact absurd hnone hsome
    · cases hoff.symm.trans hstreaming
    · rw [and_video_and_faults] at hfault
      exact absurd (.inl hfault) hhalts
    · have hparks : ¬Parks { c with
          regs := c.regs.write32 Register.interruptStatus Status.video } := by
        rw [parks_acknowledge]
        exact fun hparks => hhalts (.inr ⟨hsome, hparks⟩)
      have hgoesOn := goesOn_of_handleCompletion hcompletion hparks
      rw [← hstreaming]
      exact hgoesOn

/-- **When faults are overlooked, and what becomes of them**: in every reachable queue that
captures, whatever is latched and whatever of it a status reports, acting on the status succeeds,
unless the numbers run out on a chain that goes on. -/
theorem handleStatus_of_reaches [DmaBackend δ] {regs : RegisterFile} {dma dma' : δ}
    {config : Config} {c₀ : Channel δ} (hcreate : create regs dma config = (.ok c₀, dma'))
    (h : c₀.Reaches c) (hstreaming : c.streaming = true)
    (hlatched : latched &&& c.regs.read32 Register.interruptStatus = latched) (now : Int)
    (status : UInt32) :
    (∃ mine c', c.handleStatus now status = .ok (mine, c') ∧ c.Heeds latched status c') ∨
      c.Exhausts now (c.handleStatus now status) := by
  have hfails := (failsOnly_handleStatus now status (serves_of_reaches hcreate h)
    (equipped_of_reaches hcreate h)).mono fun _ hout => hout.2
  refine ((settled_of_reaches hcreate h).exists_or_exhausts hfails).imp_left ?_
  rintro ⟨⟨mine, c'⟩, hstatus⟩
  exact ⟨mine, c', hstatus, heeds_of_handleStatus hstatus hstreaming hlatched⟩

/-- While a chain runs the completion of a program is read, and an overflow of the pixel queue is
latched before it is acted on: the overflow is overlooked. -/
theorem handleStatus_of_reaches_overlooked :
    let latched := Status.program ||| Status.pixelOverflow
    ∃ c₀ dma, ∃ c : Channel HostDma, create {} HostDma.create {} = (.ok c₀, dma) ∧
      c₀.Reaches c ∧ c.streaming = true ∧
      latched &&& c.regs.read32 Register.interruptStatus = latched ∧
      c.Overlooks latched Status.program ∧
      ∃ mine c', c.handleStatus 0 Status.program = .ok (mine, c') ∧
        c.Heeds latched Status.program c' := by
  intro latched
  obtain ⟨c₀, dma, c, hcreate, hreach, hview⟩ := exists_session_of_viewFrom
    (show viewFrom HostDma.create chainedOperations (fun c =>
      let regs := c.regs.raise latched
      (c.streaming, regs.read32 Register.interruptStatus, regs.stuck,
        c.stopper.contains (regs.read32 Register.programPointer),
        (handleStatus { c with regs } 0 Status.program).toOption.isSome)) =
      some (true, latched, 0, false, true) by decide +kernel)
  simp only [Prod.mk.injEq, Option.isSome_iff_exists, toOption_eq_some] at hview
  obtain ⟨hstreaming, hread, hstuck, hstopper, served, hserved⟩ := hview
  have hlatched : latched &&& (c.regs.raise latched).read32 Register.interruptStatus = latched := by
    rw [hread, UInt32.and_self]
  have hraised := hreach.change (c.regs.raise latched)
  have hheeds := (handleStatus_of_reaches hcreate hraised hstreaming hlatched 0
    Status.program).resolve_right (CaptureQueue.not_exhausts_of_ok hserved)
  refine ⟨c₀, dma, _, hcreate, hraised, hstreaming, hlatched, ⟨by decide, ?_, ?_⟩, hheeds⟩
  · rintro (hfault | ⟨-, -, hparks⟩)
    · exact hfault rfl
    · cases hstopper.symm.trans hparks
  · rw [show (c.regs.raise latched).stuck = 0 from hstuck]
    decide

end Channel

end VideoCapture
