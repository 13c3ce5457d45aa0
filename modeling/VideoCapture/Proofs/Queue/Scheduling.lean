import VideoCapture.Proofs.Engine.Sequencer
import VideoCapture.Proofs.Queue.Operations

/-!
# What scheduling leaves alone

Users give buffers memory and take it back by preparing and releasing them. All other operations
only schedule: they change stages, positions, links and counters, but not where anything lies in
memory or what the backend has handed out.

When a buffer finds its place or the engine is started, even less changes. Which buffers are in the
stream, which number the next frame gets, whether capture is on and whether a fault has stopped it
are decided elsewhere.

## Main definitions

* `VideoCapture.Channel.SameHoldings` — two channels hold the same memory.
* `VideoCapture.Channel.Steady` — two channels are at the same point of the stream.

## Main results

* `VideoCapture.Channel.steady_of_place`, `VideoCapture.Channel.steady_of_restart`,
  `VideoCapture.Channel.steady_of_placeAll` — what buffers that enter the chain leave alone.
* `VideoCapture.Channel.started_of_restart` — what waits is started.
* `VideoCapture.Channel.sameHoldings_of_place`, `VideoCapture.Channel.sameHoldings_of_restart` —
  buffers enter the chain.
* `VideoCapture.Channel.sameHoldings_of_streamOn`, `VideoCapture.Channel.sameHoldings_of_enqueue`,
  `VideoCapture.Channel.sameHoldings_of_dequeue`,
  `VideoCapture.Channel.sameHoldings_of_handleStatus`,
  `VideoCapture.Channel.sameHoldings_of_checkTimeout` — the operations that only schedule.
-/

set_option autoImplicit false

namespace VideoCapture

namespace CaptureQueue

variable {q q' : CaptureQueue} {chain : List Nat} {α : Type} {view : CaptureBuffer → α}

/-- A part of a buffer is the same in two queues if it is for each buffer. -/
lemma map_buffers_eq_of_getElem?
    (h : ∀ i : Nat, q'.buffers[i]?.map view = q.buffers[i]?.map view) :
    q'.buffers.map view = q.buffers.map view := by
  apply List.ext_getElem?
  intro i
  rw [List.getElem?_map, List.getElem?_map]
  exact h i

/-- Numbering a chain shows in stages and positions only. -/
lemma Numbered.map_buffers {position : Nat} (h : q.Numbered position chain q')
    (hview : ∀ buffer state position,
      view { buffer with state := state, position := position } = view buffer) :
    q'.buffers.map view = q.buffers.map view := by
  refine map_buffers_eq_of_getElem? fun i => ?_
  by_cases hi : i ∈ chain
  · obtain ⟨buffer, p, hbuffer, hbuffer'⟩ := h.changed i hi
    rw [hbuffer, hbuffer', Option.map_some, Option.map_some, hview]
  · rw [h.others i hi]

/-- Giving buffers up shows in stages only. -/
lemma Failed.map_buffers (h : q.Failed chain q')
    (hview : ∀ buffer state, view { buffer with state := state } = view buffer) :
    q'.buffers.map view = q.buffers.map view := by
  refine map_buffers_eq_of_getElem? fun i => ?_
  by_cases hi : i ∈ chain
  · obtain ⟨buffer, hbuffer, hbuffer'⟩ := h.changed i hi
    rw [hbuffer, hbuffer', Option.map_some, Option.map_some, hview]
  · rw [h.others i hi]

/-- Numbering a chain leaves the fixtures alone. -/
lemma Numbered.fixtures_eq {position : Nat} (h : q.Numbered position chain q') :
    q'.fixtures = q.fixtures :=
  h.map_buffers fun _ _ _ => rfl

/-- Giving buffers up leaves the fixtures alone. -/
lemma Failed.fixtures_eq (h : q.Failed chain q') : q'.fixtures = q.fixtures :=
  h.map_buffers fun _ _ => rfl

end CaptureQueue

namespace Channel

variable {δ : Type}

/-- Two channels hold the same memory. -/
structure SameHoldings (c c' : Channel δ) : Prop where
  /-- The buffers hold the same. -/
  fixtures : c'.fixtures = c.fixtures
  /-- The stopper is the same. -/
  stopper : c'.stopper = c.stopper
  /-- The backend has handed out the same. -/
  dma : c'.dma = c.dma

/-- A channel holds what it holds. -/
lemma SameHoldings.refl (c : Channel δ) : c.SameHoldings c :=
  ⟨rfl, rfl, rfl⟩

/-- The same memory is held over one step after the other. -/
lemma SameHoldings.trans {c c₁ c₂ : Channel δ} (h : c.SameHoldings c₁) (h' : c₁.SameHoldings c₂) :
    c.SameHoldings c₂ :=
  ⟨h'.fixtures.trans h.fixtures, h'.stopper.trans h.stopper, h'.dma.trans h.dma⟩

variable {c c' : Channel δ} {now : Int}

/-! ## The chain -/

/-- Starting a chain leaves alone what is held in memory. -/
lemma sameHoldings_of_startHead (h : c.startHead now = .ok c') : c.SameHoldings c' := by
  obtain ⟨-, rfl⟩ | ⟨head, rest, q, setup, engine, regs, -, hq, -, -, rfl⟩ := startHead_cases h
  · exact ⟨rfl, rfl, rfl⟩
  · exact ⟨hq.fixtures_eq, by rw [hq.rest], rfl⟩

/-- Starting what waits changes where tails point, and nothing else that is held in memory. -/
lemma sameHoldings_of_restart (h : c.restart now = .ok c') : c.SameHoldings c' := by
  obtain ⟨-, hstart⟩ | ⟨q, -, hpromote, hstart⟩ := restart_cases h
  · exact sameHoldings_of_startHead hstart
  · obtain ⟨taken, hq⟩ := CaptureQueue.promoted_of_promote hpromote
    have hpromoted : c.SameHoldings { c with toCaptureQueue := q } :=
      ⟨hq.fixtures, by rw [hq.rest], rfl⟩
    exact hpromoted.trans (sameHoldings_of_startHead hstart)

/-- Finding a buffer its place only points tails. -/
lemma sameHoldings_of_place {i : Nat} (h : c.place now i = .ok c') : c.SameHoldings c' := by
  have hpointed : (c.pointTail i c.stopper.address).fixtures = c.fixtures :=
    CaptureQueue.fixtures_pointTail _ _ _
  obtain ⟨-, ⟨-, rfl⟩ | ⟨-, -, -, hstart⟩ |
    ⟨previous, spliced, -, -, -, -, hsplice, rfl⟩⟩ := place_cases h
  · refine ⟨Eq.trans ?_ hpointed, rfl, rfl⟩
    exact CaptureQueue.fixtures_modify _ i _ fun _ => rfl
  · have hchained : c.SameHoldings { c with
        toCaptureQueue := { c.pointTail i c.stopper.address with active := [i] } } :=
      ⟨hpointed, rfl, rfl⟩
    exact hchained.trans (sameHoldings_of_startHead hstart)
  · obtain ⟨-, -, target, -, -, rfl⟩ := CaptureQueue.splice_eq_ok.mp hsplice
    refine ⟨(CaptureQueue.fixtures_pointTail _ _ _).trans (Eq.trans ?_ hpointed), rfl, rfl⟩
    exact CaptureQueue.fixtures_modify _ i _ fun _ => rfl

/-- Buffers that find their places keep what they hold. -/
lemma sameHoldings_of_placeAll {ready : List Nat} (h : c.placeAll now ready = .ok c') :
    c.SameHoldings c' :=
  placeAll_keeps (P := c.SameHoldings)
    (fun _ _ _ hc hplace => hc.trans (sameHoldings_of_place hplace)) h (.refl c)

/-- A buffer that is finished keeps what it holds. -/
lemma sameHoldings_of_completeHead {q : CaptureQueue} (h : c.completeHead now = .ok q) :
    c.SameHoldings { c with toCaptureQueue := q } := by
  obtain ⟨-, rfl⟩ | ⟨head, rest, setup, -, -, rfl⟩ := CaptureQueue.completeHead_cases h
  · exact .refl c
  · exact ⟨CaptureQueue.fixtures_modify _ head _ fun _ => rfl, rfl, rfl⟩

/-! ## The point of the stream -/

/-- Two channels are at the same point of the stream, and the same interrupts are wanted besides
those of the capture path. -/
structure Steady (c c' : Channel δ) : Prop where
  /-- The same buffers are handed in. -/
  stream : c'.stream = c.stream
  /-- The next frame gets the same number. -/
  sequence : c'.sequence = c.sequence
  /-- Capture is on in both or off in both. -/
  streaming : c'.streaming = c.streaming
  /-- The same fault has stopped the engine, or none. -/
  fault : c'.fault = c.fault
  /-- The other interrupt sources are wanted or not. -/
  foreign : c'.engine.mask &&& ~~~Status.video = c.engine.mask &&& ~~~Status.video

/-- A channel is at its own point of the stream. -/
lemma Steady.refl (c : Channel δ) : c.Steady c :=
  ⟨rfl, rfl, rfl, rfl, rfl⟩

/-- The point of the stream is kept over one step after the other. -/
lemma Steady.trans {c c₁ c₂ : Channel δ} (h : c.Steady c₁) (h' : c₁.Steady c₂) : c.Steady c₂ :=
  ⟨h'.stream.trans h.stream, h'.sequence.trans h.sequence, h'.streaming.trans h.streaming,
    h'.fault.trans h.fault, h'.foreign.trans h.foreign⟩

/-- Stopping the engine leaves the stream where it is. -/
lemma steady_stopEngine (c : Channel δ) : c.Steady c.stopEngine := by
  refine ⟨rfl, rfl, rfl, rfl, ?_⟩
  show c.engine.mask &&& ~~~Status.video &&& ~~~Status.video = _
  rw [UInt32.and_assoc, UInt32.and_self]

/-- Starting a chain keeps to the point of the stream. -/
lemma steady_of_startHead (h : c.startHead now = .ok c') : c.Steady c' := by
  obtain ⟨-, rfl⟩ | ⟨head, rest, q, setup, engine, regs, -, hq, -, hstart, rfl⟩ :=
    startHead_cases h
  · exact ⟨rfl, rfl, rfl, rfl, rfl⟩
  · obtain ⟨-, -, hmask, -⟩ := Engine.start_eq_ok hstart
    refine ⟨by rw [hq.rest], by rw [hq.rest], by rw [hq.rest], by rw [hq.rest], ?_⟩
    show engine.mask &&& ~~~Status.video = _
    rw [hmask, or_and_of_apart UInt32.and_not_self]

/-- Starting what waits keeps to the point of the stream. -/
lemma steady_of_restart (h : c.restart now = .ok c') : c.Steady c' := by
  obtain ⟨-, hstart⟩ | ⟨q, -, hpromote, hstart⟩ := restart_cases h
  · exact steady_of_startHead hstart
  · obtain ⟨taken, hq⟩ := CaptureQueue.promoted_of_promote hpromote
    have hpromoted : c.Steady { c with toCaptureQueue := q } :=
      ⟨by rw [hq.rest], by rw [hq.rest], by rw [hq.rest], by rw [hq.rest], by rw [hq.rest]⟩
    exact hpromoted.trans (steady_of_startHead hstart)

/-- A buffer that finds its place is in the stream already. -/
lemma steady_of_place {i : Nat} (h : c.place now i = .ok c') : c.Steady c' := by
  obtain ⟨-, ⟨-, rfl⟩ | ⟨-, -, -, hstart⟩ |
    ⟨previous, spliced, -, -, -, -, hsplice, rfl⟩⟩ := place_cases h
  · exact ⟨rfl, rfl, rfl, rfl, rfl⟩
  · have hstarted := steady_of_startHead hstart
    exact ⟨hstarted.stream, hstarted.sequence, hstarted.streaming, hstarted.fault,
      hstarted.foreign⟩
  · obtain ⟨-, -, target, -, -, rfl⟩ := CaptureQueue.splice_eq_ok.mp hsplice
    exact ⟨rfl, rfl, rfl, rfl, rfl⟩

/-- Buffers that find their places are in the stream already. -/
lemma steady_of_placeAll {ready : List Nat} (h : c.placeAll now ready = .ok c') : c.Steady c' :=
  placeAll_keeps (P := c.Steady) (fun _ _ _ hc hplace => hc.trans (steady_of_place hplace)) h
    (.refl c)

/-- Parking leaves the stream where it is. -/
lemma steady_of_park (h : c.park now = .ok c') : c.Steady c' := by
  have hstopped := steady_stopEngine c
  obtain ⟨-, -, rfl⟩ | ⟨-, hrestart⟩ := park_cases h
  · exact ⟨rfl, rfl, rfl, rfl, hstopped.foreign⟩
  · have hsteady := steady_of_restart hrestart
    exact ⟨hsteady.stream, hsteady.sequence, hsteady.streaming, hsteady.fault,
      hsteady.foreign.trans hstopped.foreign⟩

/-! ## Progress -/

/-- Starting the engine leaves the lists alone. -/
lemma lists_of_startHead (h : c.startHead now = .ok c') :
    c'.active = c.active ∧ c'.queued = c.queued := by
  obtain ⟨-, rfl⟩ | ⟨head, rest, q, setup, engine, regs, -, hq, -, -, rfl⟩ := startHead_cases h
  · exact ⟨rfl, rfl⟩
  · exact ⟨by rw [hq.rest], by rw [hq.rest]⟩

/-- Starting the engine on a chain enables it and sets the deadline. -/
lemma started_of_startHead (h : c.startHead now = .ok c') (hactive : c.active ≠ []) :
    c'.deadline = some (now + c.timeout) ∧ Engine.running c'.regs = true := by
  obtain ⟨hnil, -⟩ | ⟨head, rest, q, setup, engine, regs, -, -, -, hstart, rfl⟩ :=
    startHead_cases h
  · exact absurd hnil hactive
  · exact ⟨rfl, Engine.running_start hstart⟩

/-- Starting the engine anew keeps the order of the buffers that run or wait. -/
lemma inFlight_of_restart (h : c.restart now = .ok c') :
    c'.active ++ c'.queued = c.active ++ c.queued := by
  obtain ⟨-, hstart⟩ | ⟨q, hnil, hpromote, hstart⟩ := restart_cases h
  · obtain ⟨hactive, hqueued⟩ := lists_of_startHead hstart
    rw [hactive, hqueued]
  · obtain ⟨taken, hq⟩ := CaptureQueue.promoted_of_promote hpromote
    have htaken : q.active = taken := by rw [hq.rest, hnil]; rfl
    obtain ⟨hactive, hqueued⟩ := lists_of_startHead hstart
    rw [hactive, hqueued, hnil, hq.split]
    exact congrArg (· ++ q.queued) htaken

/-- **Where a buffer is in the chain or waits, starting the engine anew starts it on a chain.** -/
theorem started_of_restart (h : c.restart now = .ok c')
    (hwaits : c.active ≠ [] ∨ c.queued ≠ []) :
    c'.active ≠ [] ∧ c'.deadline = some (now + c.timeout) ∧ Engine.running c'.regs = true := by
  obtain ⟨hactive, hstart⟩ | ⟨q, hnil, hpromote, hstart⟩ := restart_cases h
  · have hsame := (lists_of_startHead hstart).1
    exact ⟨hsame ▸ hactive, started_of_startHead hstart hactive⟩
  · obtain ⟨taken, hq⟩ := CaptureQueue.promoted_of_promote hpromote
    have hactive : q.active ≠ [] := by
      rw [hq.rest, hnil, List.nil_append]
      exact hq.progress hnil (hwaits.resolve_left fun hne => hne hnil)
    have htimeout : q.timeout = c.timeout := by rw [hq.rest]
    have hsame := (lists_of_startHead hstart).1
    obtain ⟨hdeadline, hrunning⟩ := started_of_startHead hstart hactive
    exact ⟨hsame ▸ hactive, htimeout ▸ hdeadline, hrunning⟩

/-! ## Operations -/

/-- Starting or resuming capture leaves alone what is held in memory. -/
lemma sameHoldings_of_streamOn {result : Except Error Unit}
    (h : c.streamOn now = .ok (result, c')) : c.SameHoldings c' := by
  obtain ⟨-, -, -, rfl⟩ | ⟨-, -, -, hrestart⟩ | ⟨-, -, hplace⟩ := streamOn_cases h
  · exact .refl _
  · have hsame := sameHoldings_of_restart hrestart
    exact ⟨hsame.fixtures, hsame.stopper, hsame.dma⟩
  · have hsame := sameHoldings_of_placeAll hplace
    exact ⟨hsame.fixtures, hsame.stopper, hsame.dma⟩

/-- A buffer that is handed in keeps what it holds. -/
lemma sameHoldings_of_enqueue {i : Nat} {result : Except Error Unit}
    (h : c.enqueue now i = .ok (result, c')) : c.SameHoldings c' := by
  obtain ⟨_, -, rfl⟩ | ⟨-, -, -, ⟨-, hplace⟩ | ⟨-, rfl⟩⟩ := enqueue_cases h
  · exact .refl _
  · have hsame := sameHoldings_of_place hplace
    exact ⟨hsame.fixtures, hsame.stopper, hsame.dma⟩
  · exact ⟨rfl, rfl, rfl⟩

/-- A buffer that is taken back keeps what it holds. -/
lemma sameHoldings_of_dequeue {result : Except Error Frame} (h : c.dequeue = .ok (result, c')) :
    c.SameHoldings c' := by
  obtain ⟨_, -, rfl⟩ | ⟨_, _, _, _, -, -, -, -, -, rfl⟩ := dequeue_cases h
  · exact .refl _
  · exact ⟨rfl, rfl, rfl⟩

/-- Stopping on a fault leaves alone what is held in memory. -/
lemma sameHoldings_of_failStop {fault : UInt32} (h : c.failStop fault = .ok c') :
    c.SameHoldings c' := by
  obtain ⟨q, backlog, hq, rfl⟩ := failStop_cases h
  exact ⟨hq.fixtures_eq, by rw [hq.rest]; rfl, rfl⟩

/-- What is done while the engine is in the stopper leaves alone what is held in memory. -/
lemma sameHoldings_of_park (h : c.park now = .ok c') : c.SameHoldings c' := by
  obtain ⟨-, -, rfl⟩ | ⟨-, hrestart⟩ := park_cases h
  · exact ⟨rfl, rfl, rfl⟩
  · have hsame := sameHoldings_of_restart hrestart
    exact ⟨hsame.fixtures, hsame.stopper, hsame.dma⟩

/-- A completion leaves alone what is held in memory. -/
lemma sameHoldings_of_handleCompletion (h : c.handleCompletion now = .ok c') :
    c.SameHoldings c' := by
  obtain ⟨-, rfl⟩ | ⟨q, -, hcomplete, ⟨-, hpark⟩ | ⟨-, rfl⟩⟩ := handleCompletion_cases h
  · exact .refl _
  · exact (sameHoldings_of_completeHead hcomplete).trans (sameHoldings_of_park hpark)
  · exact sameHoldings_of_completeHead hcomplete

/-- Interrupt status leaves alone what is held in memory. -/
lemma sameHoldings_of_handleStatus {status : UInt32} {mine : Bool}
    (h : c.handleStatus now status = .ok (mine, c')) : c.SameHoldings c' := by
  obtain ⟨-, -, rfl⟩ | ⟨-, -, ⟨-, rfl⟩ | ⟨-, -, hfail⟩ | ⟨-, -, hcompletion⟩⟩ :=
    handleStatus_cases h
  · exact .refl _
  · exact ⟨rfl, rfl, rfl⟩
  · have hsame := sameHoldings_of_failStop hfail
    exact ⟨hsame.fixtures, hsame.stopper, hsame.dma⟩
  · have hsame := sameHoldings_of_handleCompletion hcompletion
    exact ⟨hsame.fixtures, hsame.stopper, hsame.dma⟩

/-- Recovering from a stall leaves alone what is held in memory. -/
lemma sameHoldings_of_checkTimeout {stalled : Bool}
    (h : c.checkTimeout now = .ok (stalled, c')) : c.SameHoldings c' := by
  obtain ⟨-, rfl, -⟩ | ⟨-, -, rfl⟩ | ⟨-, -, q, hq, hrestart⟩ := checkTimeout_cases h
  · exact .refl _
  · exact ⟨rfl, rfl, rfl⟩
  · have hsame := sameHoldings_of_restart hrestart
    have hstopper : q.stopper = c.stopper := by rw [hq.rest]; rfl
    exact ⟨hsame.fixtures.trans hq.fixtures_eq, hsame.stopper.trans hstopper, hsame.dma⟩

end Channel

end VideoCapture
