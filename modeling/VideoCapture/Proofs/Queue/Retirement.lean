import VideoCapture.Proofs.Queue.Order

/-!
# How buffers become done

A buffer becomes done in one way only: it is the head of the chain, a program's interrupt is served,
and the address that the engine fetches from is not in its program. Nothing else that happens to a
queue makes a buffer done, although much of it makes buffers active or gives them up.

## Main definitions

* `VideoCapture.CaptureQueue.NoneDone` — no buffer has become done.
* `VideoCapture.Channel.MayComplete` — the buffer that interrupt status may make done.

## Main results

* `VideoCapture.Channel.relating_done` — no operation makes any other buffer done.
-/

set_option autoImplicit false

namespace VideoCapture

namespace CaptureQueue

/-- No buffer is done in the second queue that is not done in the first. -/
def NoneDone (q q' : CaptureQueue) : Prop :=
  ∀ i, q'.stateOf i = some .done → q.stateOf i = some .done

variable {q q' q'' : CaptureQueue}

/-- If no step finishes a buffer, neither do all of them. -/
lemma NoneDone.trans (h : q.NoneDone q') (h' : q'.NoneDone q'') : q.NoneDone q'' :=
  fun i hi => h i (h' i hi)

/-- Stages that do not change make nothing done. -/
lemma noneDone_of_stateOf_eq (h : ∀ i, q'.stateOf i = q.stateOf i) : q.NoneDone q' :=
  fun i hi => (h i).symm.trans hi

/-- Neither does a change of some buffers to another stage. -/
lemma noneDone_of_restage (chain : List Nat) {s : BufferState} (hs : s ≠ .done)
    (hchain : ∀ i ∈ chain, q'.stateOf i = some s)
    (hothers : ∀ i, i ∉ chain → q'.stateOf i = q.stateOf i) : q.NoneDone q' := by
  intro i hi
  by_cases hmem : i ∈ chain
  · rw [hchain i hmem, Option.some.injEq] at hi
    exact absurd hi hs
  · exact (hothers i hmem).symm.trans hi

/-- Neither does a change of one buffer to another stage. -/
lemma noneDone_modify (q : CaptureQueue) (i : Nat) {f : CaptureBuffer → CaptureBuffer}
    {s : BufferState} (hs : s ≠ .done) (hf : ∀ buffer, (f buffer).state = s) :
    q.NoneDone (q.modify i f) := by
  intro j hj
  by_cases hij : i = j
  · subst hij
    have hlength : i < q.buffers.length := by
      have hlength := lt_length_of_stateOf hj
      rwa [modify, List.length_modify] at hlength
    rw [stateOf_modify_self q i f hlength hf, Option.some.injEq] at hj
    exact absurd hj hs
  · rwa [stateOf_modify_ne q i j f hij] at hj

/-- Giving a chain up makes nothing done. -/
lemma Failed.noneDone {chain : List Nat} (h : q.Failed chain q') : q.NoneDone q' :=
  noneDone_of_restage chain (by decide) (fun i => h.stateOf_eq)
    fun i hi => congrArg (Option.map CaptureBuffer.state) (h.others i hi)

/-- Retiring the head of the chain makes only that buffer done. -/
lemma done_of_completeHead {now : Int} (h : q.completeHead now = .ok q') {i : Nat}
    (hi : q'.stateOf i = some .done) :
    q.stateOf i = some .done ∨ ∃ rest, q.active = i :: rest := by
  obtain ⟨-, rfl⟩ | ⟨head, rest, setup, hactive, -, rfl⟩ := completeHead_cases h
  · exact .inl hi
  · by_cases heq : head = i
    · exact .inr ⟨rest, heq ▸ hactive⟩
    · exact .inl ((stateOf_modify_ne q head i _ heq).symm.trans hi)

end CaptureQueue

namespace Channel

open CaptureQueue (NoneDone noneDone_of_stateOf_eq)

variable {δ : Type} {c c' : Channel δ} {now : Int}

/-! ## Scheduling makes nothing done -/

/-- Starting a chain finishes no buffer. -/
lemma noneDone_of_startHead (h : c.startHead now = .ok c') : c.NoneDone c'.toCaptureQueue := by
  obtain ⟨-, -, -, -, hstage, hothers⟩ := stages_of_startHead h
  exact CaptureQueue.noneDone_of_restage c.active (by decide) hstage hothers

/-- Starting what waits finishes no buffer. -/
lemma noneDone_of_restart (h : c.restart now = .ok c') : c.NoneDone c'.toCaptureQueue := by
  obtain ⟨-, hstart⟩ | ⟨q, -, hpromote, hstart⟩ := restart_cases h
  · exact noneDone_of_startHead hstart
  · obtain ⟨taken, hq⟩ := CaptureQueue.promoted_of_promote hpromote
    have hpromoted : c.NoneDone q := noneDone_of_stateOf_eq hq.states
    exact hpromoted.trans (noneDone_of_startHead hstart)

/-- A buffer that finds its place is not finished. -/
lemma noneDone_of_place {i : Nat} (h : c.place now i = .ok c') : c.NoneDone c'.toCaptureQueue := by
  obtain ⟨-, hcase⟩ := place_cases h
  have hpointed : c.NoneDone (c.pointTail i c.stopper.address) :=
    noneDone_of_stateOf_eq fun j => CaptureQueue.stateOf_pointTail _ i j _
  dsimp only at hcase
  obtain ⟨-, rfl⟩ | ⟨-, -, -, hstart⟩ | ⟨previous, spliced, -, -, -, -, hsplice, rfl⟩ := hcase
  · exact hpointed.trans (CaptureQueue.noneDone_modify _ i (by decide) fun _ => rfl)
  · have hstarted := noneDone_of_startHead hstart
    exact hpointed.trans hstarted
  · obtain ⟨-, -, target, -, -, rfl⟩ := CaptureQueue.splice_eq_ok.mp hsplice
    have hactive := CaptureQueue.noneDone_modify (c.pointTail i c.stopper.address) i
      (show BufferState.active ≠ .done by decide)
      (f := fun buffer => { buffer with state := .active, position := c.count }) fun _ => rfl
    refine hpointed.trans (hactive.trans (noneDone_of_stateOf_eq fun j => ?_))
    exact CaptureQueue.stateOf_pointTail _ _ j _

/-- Buffers that find their places are not finished. -/
lemma noneDone_of_placeAll {ready : List Nat} (h : c.placeAll now ready = .ok c') :
    c.NoneDone c'.toCaptureQueue :=
  placeAll_keeps (P := fun c' => c.NoneDone c'.toCaptureQueue)
    (fun _ _ _ hc hplace => hc.trans (noneDone_of_place hplace)) h fun _ => id

/-! ## Operations -/

/-- Handing a buffer in finishes none. -/
lemma noneDone_of_enqueue {i : Nat} {result : Except Error Unit}
    (h : c.enqueue now i = .ok (result, c')) : c.NoneDone c'.toCaptureQueue := by
  obtain ⟨_, -, rfl⟩ | ⟨-, -, -, ⟨-, hplace⟩ | ⟨-, rfl⟩⟩ := enqueue_cases h
  · exact fun _ => id
  · have hplaced := noneDone_of_place hplace
    exact hplaced
  · exact fun _ => id

/-- Taking a buffer back finishes none. -/
lemma noneDone_of_dequeue {result : Except Error Frame} (h : c.dequeue = .ok (result, c')) :
    c.NoneDone c'.toCaptureQueue := by
  obtain ⟨_, -, rfl⟩ | ⟨_, _, _, _, -, -, -, -, -, rfl⟩ := dequeue_cases h <;> exact fun _ => id

/-- Starting or resuming capture finishes no buffer. -/
lemma noneDone_of_streamOn {result : Except Error Unit} (h : c.streamOn now = .ok (result, c')) :
    c.NoneDone c'.toCaptureQueue := by
  obtain ⟨-, -, -, rfl⟩ | ⟨-, -, -, hrestart⟩ | ⟨-, -, hplace⟩ := streamOn_cases h
  · exact fun _ => id
  · have hrestarted := noneDone_of_restart hrestart
    exact hrestarted
  · have hplaced := noneDone_of_placeAll hplace
    exact hplaced

/-- A stall finishes no buffer: what stalled is in error. -/
lemma noneDone_of_checkTimeout {stalled : Bool} (h : c.checkTimeout now = .ok (stalled, c')) :
    c.NoneDone c'.toCaptureQueue := by
  obtain ⟨-, rfl, -⟩ | ⟨-, -, rfl⟩ | ⟨-, -, q, hq, hrestart⟩ := checkTimeout_cases h
  · exact fun _ => id
  · exact fun _ => id
  · have hrestarted := noneDone_of_restart hrestart
    have hfailed := hq.noneDone
    exact hfailed.trans hrestarted

/-- Once the engine is not inside the program of the chain's head any more, interrupt status may
make that buffer done. -/
def MayComplete (c : Channel δ) (i : Nat) : Prop :=
  ∃ rest, c.active = i :: rest ∧ c.headRuns (c.regs.read32 Register.programPointer) = .ok false

/-- Acknowledging interrupt status does not move the program pointer. -/
lemma read32_programPointer_write32 (regs : RegisterFile) (value : UInt32) :
    (regs.write32 Register.interruptStatus value).read32 Register.programPointer =
      regs.read32 Register.programPointer := by
  have hslot : Register.interruptStatus / 4 ≠ Register.programPointer / 4 := by decide
  exact RegisterFile.slot_setSlot_ne regs _ hslot

/-- Interrupt status makes nothing done but the head of the chain.

**Proof sketch.** Stopping on a fault finishes nothing. A completion retires the head, if the engine
is outside its program, and what follows finishes no other. -/
lemma done_of_handleStatus {status : UInt32} {mine : Bool}
    (h : c.handleStatus now status = .ok (mine, c')) {i : Nat} (hi : c'.stateOf i = some .done) :
    c.stateOf i = some .done ∨ c.MayComplete i := by
  obtain ⟨-, -, rfl⟩ | ⟨-, -, ⟨-, rfl⟩ | ⟨-, -, hfail⟩ | ⟨-, -, hcompletion⟩⟩ :=
    handleStatus_cases h
  · exact .inl hi
  · exact .inl hi
  · obtain ⟨q, backlog, hq, rfl⟩ := failStop_cases hfail
    have hbefore := hq.noneDone i hi
    exact .inl hbefore
  · obtain ⟨-, rfl⟩ | ⟨q, hruns, hcomplete, hcase⟩ := handleCompletion_cases hcompletion
    · exact .inl hi
    · -- once the head is retired nothing more becomes done
      have hretired : q.stateOf i = some .done := by
        obtain ⟨-, hpark⟩ | ⟨-, rfl⟩ := hcase
        · obtain ⟨-, -, rfl⟩ | ⟨-, hrestart⟩ := park_cases hpark
          · exact hi
          · have hbefore := noneDone_of_restart hrestart i hi
            exact hbefore
        · exact hi
      obtain hdone | ⟨rest, hactive⟩ := CaptureQueue.done_of_completeHead hcomplete hretired
      · exact .inl hdone
      · rw [read32_programPointer_write32] at hruns
        exact .inr ⟨rest, hactive, hruns⟩

variable [DmaBackend δ]

/-- Interrupt status that reports a program's interrupt and no fault is served as a completion. -/
lemma handleCompletion_of_perform {bits : UInt32} {answer : CaptureQueue.Answer}
    (hvideo : bits &&& Status.video ≠ 0) (hfault : bits &&& Status.video &&& Status.faults = 0)
    (hon : c.streaming = true) (h : c.perform (.status now bits) = .ok (answer, c')) :
    handleCompletion { c with regs := c.regs.write32 Register.interruptStatus Status.video } now =
      .ok c' := by
  simp only [perform, bind_eq_ok, pure_eq_ok, Prod.mk.injEq] at h
  obtain ⟨⟨mine, c₂⟩, hstatus, -, rfl⟩ := h
  obtain ⟨hnone, -⟩ | ⟨-, -, ⟨hoff, -⟩ | ⟨-, hfaults, -⟩ | ⟨-, -, hcompletion⟩⟩ :=
    handleStatus_cases hstatus
  · exact absurd hnone hvideo
  · cases hoff.symm.trans hon
  · exact absurd hfault hfaults
  · exact hcompletion

/-- New buffers are not finished. -/
lemma noneDone_of_requestBuffers {count capacity : Nat} {result : Except Error Nat}
    (h : c.requestBuffers count capacity = .ok (result, c')) : c.NoneDone c'.toCaptureQueue := by
  obtain ⟨-, -, rfl⟩ | ⟨-, released, dma, -, -, rfl⟩ := requestBuffers_cases h
  · exact fun _ => id
  · intro i hi
    obtain ⟨buffer, hbuffer, hstate⟩ := Option.map_eq_some_iff.mp hi
    rw [(List.mem_replicate.mp (List.mem_of_getElem? hbuffer)).2] at hstate
    cases hstate

/-- Stopping capture finishes no buffer. -/
lemma noneDone_of_streamOff {result : Except Error Unit} (h : c.streamOff = .ok (result, c')) :
    c.NoneDone c'.toCaptureQueue := by
  obtain ⟨-, -, rfl⟩ | ⟨-, -, buffers, dma, hrelease, rfl⟩ := streamOff_cases h
  · exact fun _ => id
  · obtain ⟨rfl, -⟩ := released_of_releaseAll hrelease
    intro i hi
    obtain ⟨buffer, hbuffer, hstate⟩ := Option.map_eq_some_iff.mp hi
    obtain ⟨_, -, rfl⟩ := List.mem_map.mp (List.mem_of_getElem? hbuffer)
    cases hstate

/-- Preparing a buffer finishes none. -/
lemma noneDone_of_prepare {i : Nat} {geometry : Geometry} {norm : Norm}
    {result : Except Error Unit} (h : c.prepare i geometry norm = .ok (result, c')) :
    c.NoneDone c'.toCaptureQueue := by
  obtain ⟨_, -, rfl⟩ | ⟨buffer, buffer', dma, -, hbuffer, -, hprepare, rfl⟩ := prepare_cases h
  · exact fun _ => id
  · have hlength : i < c.buffers.length := (List.getElem?_eq_some_iff.mp hbuffer).1
    refine CaptureQueue.noneDone_of_restage [i] (s := buffer'.state) ?_ ?_ ?_
    · obtain hstate | hstate := CaptureBuffer.state_of_prepare hprepare <;> rw [hstate] <;> decide
    · intro j hj
      obtain rfl := List.mem_singleton.mp hj
      exact congrArg (Option.map CaptureBuffer.state) (List.getElem?_set_self hlength)
    · intro j hj
      have hne : i ≠ j := fun heq => hj (by simp [heq])
      exact congrArg (Option.map CaptureBuffer.state) (List.getElem?_set_ne hne)

/-- **Buffers become done in one way only**: no operation makes a buffer done but the head of the
chain, once the engine is not inside its program any more. -/
theorem relating_done : Relating fun c c' : Channel δ => ∀ i, c'.stateOf i = some .done →
    c.stateOf i = some .done ∨ c.MayComplete i where
  request h i hi := .inl (noneDone_of_requestBuffers h i hi)
  prepare h i hi := .inl (noneDone_of_prepare h i hi)
  enqueue h i hi := .inl (noneDone_of_enqueue h i hi)
  dequeue h i hi := .inl (noneDone_of_dequeue h i hi)
  streamOn h i hi := .inl (noneDone_of_streamOn h i hi)
  streamOff h i hi := .inl (noneDone_of_streamOff h i hi)
  status h _ hi := done_of_handleStatus h hi
  timeout h i hi := .inl (noneDone_of_checkTimeout h i hi)
  maskAll _ hi := .inl hi
  report _ _ hi := .inl hi
  shutdown h i hi := by
    obtain ⟨c₁, hoff, _, hrequest⟩ := shutdown_cases h
    have hrequested := noneDone_of_requestBuffers hrequest i hi
    obtain ⟨-, rfl⟩ | ⟨-, _, hoff⟩ := hoff
    · exact .inl hrequested
    · exact .inl (noneDone_of_streamOff hoff i hrequested)

end Channel

end VideoCapture
