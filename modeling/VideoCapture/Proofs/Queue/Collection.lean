import VideoCapture.Proofs.Queue.Order
import VideoCapture.Proofs.Queue.Record
import VideoCapture.Proofs.Queue.Staging

/-!
# Taking buffers back

Users take buffers back from the head of the stream. If the oldest buffer is finished its frame is
handed back, and otherwise an error tells why there is nothing to take, and nothing is removed.

A fault that has stopped the engine is to be reported as soon as no finished buffer is at the head
of the stream. So it is while anything is left there. An empty stream, however, counts as one that
does not capture, with or without a fault: once a user has taken back every buffer that was given up
because of a fault, and no other waits, the fault is not reported any more, although it is still
latched and keeps the engine from being started.

## Main definitions

* `VideoCapture.CaptureQueue.ripe?` — the frame that can be taken back.
* `VideoCapture.CaptureQueue.holdup` — why there is none.
* `VideoCapture.CaptureQueue.Explains` — what an error is to tell users in place of a frame.
* `VideoCapture.Channel.Yields` — what comes of taking buffers back.

## Main results

* `VideoCapture.Channel.dequeue_eq` — what taking one buffer back comes to.
* `VideoCapture.Channel.exists_drained` — taking buffers back as long as they are finished.
* `VideoCapture.Channel.yields_of_reaches` — in every session, what an error tells in place of a
  frame, and when it conceals a fault.
-/

set_option autoImplicit false

namespace VideoCapture

/-- The frame in the buffer of an index, if the buffer is finished. -/
def CaptureBuffer.frame? (buffer : CaptureBuffer) (index : Nat) : Option Frame :=
  if buffer.state.finished then
    some {
      index, state := buffer.state, sequence := buffer.sequence, timestamp := buffer.timestamp
      bytesUsed := if buffer.state = .done then
        buffer.setup.elim 0 fun setup => setup.geometry.imageBytes else 0 }
  else none

namespace CaptureQueue

/-- The frame in the oldest buffer handed in, if that buffer is finished. -/
def ripe? (q : CaptureQueue) : Option Frame :=
  match q.stream with
  | [] => none
  | i :: _ => q.buffers[i]?.bind (CaptureBuffer.frame? · i)

/-- Why there is no frame to take back. -/
def holdup (q : CaptureQueue) : Error :=
  match q.stream, q.fault with
  | [], _ => .notStreaming
  | _ :: _, some fault => .hardwareFault fault
  | _ :: _, none => if q.streaming then .wouldBlock else .notStreaming

/-- An error tells users what they are to be told in place of a frame: the fault that is latched, if
there is one, and otherwise that capture is off, if it is. -/
structure Explains (q : CaptureQueue) (error : Error) : Prop where
  /-- A fault is reported. -/
  fault : ∀ fault, q.fault = some fault → error = .hardwareFault fault
  /-- Without a fault it is reported that capture is off. -/
  off : q.fault = none → q.streaming = false → error = .notStreaming

variable {q : CaptureQueue} {i : Nat} {f r w p : List Nat}

/-- **Why there is no frame is told, unless the stream is empty and a fault is latched.** -/
theorem explains_holdup_iff : q.Explains q.holdup ↔ (q.stream = [] → q.fault = none) := by
  constructor
  · intro h hstream
    refine Option.eq_none_iff_forall_ne_some.mpr fun fault hfault => ?_
    have htold := h.fault fault hfault
    rw [holdup, hstream] at htold
    cases htold
  · intro h
    cases hstream : q.stream with
    | nil =>
      have hclear := h hstream
      refine ⟨fun fault hfault => ?_, fun _ _ => ?_⟩
      · cases hclear.symm.trans hfault
      · rw [holdup, hstream]
    | cons i rest =>
      refine ⟨fun fault hfault => ?_, fun hclear hoff => ?_⟩
      · rw [holdup, hstream, hfault]
      · rw [holdup, hstream, hclear, hoff]
        rfl

/-- A frame can be taken back if and only if the oldest buffer is done or in error. -/
lemma isSome_ripe?_iff : q.ripe?.isSome ↔
    ∃ i ∈ q.stream.head?, q.stateOf i = some .done ∨ q.stateOf i = some .error := by
  cases hstream : q.stream with
  | nil => simp [ripe?, hstream]
  | cons i rest =>
    cases hbuffer : q.buffers[i]? with
    | none => simp [ripe?, hstream, hbuffer, stateOf]
    | some buffer =>
      cases hstate : buffer.state <;>
        simp [ripe?, hstream, hbuffer, stateOf, CaptureBuffer.frame?, hstate, BufferState.finished]

/-- Some of the finished buffers may leave the stream in front. -/
lemma Placed.drop {taken : List Nat} (h : q.Placed (taken ++ f) r w p) :
    Placed { q with stream := f ++ (r ++ (w ++ p)) } f r w p := by
  have hnodup := h.nodup
  rw [h.stream, List.append_assoc] at hnodup
  exact ⟨rfl, (List.nodup_append.mp hnodup).2.1, fun i hi => h.done i (List.mem_append_right _ hi),
    h.active, h.queued, h.prepared, h.inFlight⟩

/-- Between two operations the finished buffers are followed by the chain and by those that wait, if
capture is on. -/
lemma Settled.exists_placed (h : q.Settled) : ∃ f r w p, q.Placed f r w p ∧
    (q.streaming = true → r ++ (w ++ p) = q.active ++ q.queued) := by
  cases hon : q.streaming with
  | true =>
    obtain ⟨f, hplaced⟩ := h.on hon
    exact ⟨f, _, _, _, hplaced, fun _ => by rw [List.append_nil]⟩
  | false =>
    obtain ⟨-, -, hplaced⟩ := h.off hon
    exact ⟨_, _, _, _, hplaced, nofun⟩

/-- The first of the finished buffers can be taken back. -/
lemma Placed.exists_ripe (h : q.Placed (i :: f) r w p) :
    ∃ frame, q.ripe? = some frame ∧ frame.index = i := by
  obtain ⟨state, hstate, hfinished⟩ := h.done i List.mem_cons_self
  obtain ⟨buffer, hbuffer, rfl⟩ := Option.map_eq_some_iff.mp hstate
  rw [ripe?, h.stream]
  simp only [List.cons_append, hbuffer, Option.bind_some, CaptureBuffer.frame?, hfinished, if_true]
  exact ⟨_, rfl, rfl⟩

/-- Once no buffer of the stream is finished there is nothing to take back. -/
lemma Placed.ripe?_eq_none (h : q.Placed [] r w p) : q.ripe? = none := by
  refine Option.not_isSome_iff_eq_none.mp fun hripe => ?_
  obtain ⟨i, hhead, hstate⟩ := isSome_ripe?_iff.mp hripe
  have hi := List.mem_of_mem_head? hhead
  rw [h.stream] at hi
  obtain hr | hw | hp : i ∈ r ∨ i ∈ w ∨ i ∈ p := by simpa using hi
  · simp [h.active i hr] at hstate
  · simp [h.queued i hw] at hstate
  · simp [h.prepared i hp] at hstate

end CaptureQueue

namespace Channel

open CaptureQueue (Operation Answer Event)

variable {δ : Type} {c : Channel δ} {f r w p : List Nat}

/-- **Taking a buffer back** hands back the frame of the oldest one, if that can be taken back, and
removes nothing otherwise.

**Proof sketch.** The oldest buffer exists. If it is finished its frame tells the size of the image
just if it was captured, and then it has a setup to tell it from. -/
theorem dequeue_eq (hstaged : c.Staged) (hsettled : c.Settled) :
    c.dequeue = .ok (match c.ripe? with
      | some frame => (.ok frame, { c with stream := c.stream.tail })
      | none => (.error c.holdup, c)) := by
  unfold dequeue CaptureQueue.ripe? CaptureQueue.holdup
  cases hstream : c.stream with
  | nil => rfl
  | cons i rest =>
    have hi : i < c.buffers.length := hsettled.arranged.resident i (hstream ▸ List.mem_cons_self)
    obtain ⟨buffer, hbuffer⟩ : ∃ buffer, c.buffers[i]? = some buffer :=
      ⟨_, List.getElem?_eq_getElem hi⟩
    have hresident := CaptureQueue.resident_eq_ok.mpr hbuffer
    simp only [hresident, hbuffer, Option.bind_some, CaptureBuffer.frame?, List.tail_cons]
    show (if buffer.state.finished = true then _ else _) = Except.ok _
    cases hfinished : buffer.state.finished with
    | true =>
      by_cases hdone : buffer.state = .done
      · obtain ⟨setup, hsetup⟩ := hstaged.exists_setupOf (i := i)
          ((CaptureQueue.stateOf_of_getElem? hbuffer).trans (congrArg some hdone)) (by decide)
        have hheld := (CaptureQueue.setupOf_of_getElem? hbuffer).symm.trans hsetup
        simp only [if_true, if_pos hdone, CaptureQueue.scheduled_eq_ok.mpr hsetup, hheld,
          Option.elim_some]
        rfl
      · simp only [if_true, if_neg hdone]
        rfl
    | false =>
      simp only [Bool.false_eq_true, if_false]
      cases c.fault with
      | some fault => rfl
      | none => cases c.streaming <;> rfl

variable [DmaBackend δ]

/-- What is on record of taking these frames back. -/
def takings (frames : List Frame) : List Event :=
  frames.map fun frame => ⟨.dequeue, .frame frame⟩

/-- **Taking buffers back as long as they are finished** hands them back in order, and leaves the
rest of the stream.

**Proof sketch.** Induction on the finished part of the stream. -/
theorem exists_drained (before : List Event) (hstaged : c.Staged) (hsettled : c.Settled)
    (hplaced : c.Placed f r w p) : ∃ frames : List Frame, frames.map Frame.index = f ∧
      c.record (fun _ _ => True) before (List.replicate f.length .dequeue) =
        some (before ++ takings frames, { c with stream := r ++ (w ++ p) }) := by
  induction f generalizing c before with
  | nil =>
    refine ⟨[], rfl, ?_⟩
    rw [show r ++ (w ++ p) = c.stream from hplaced.stream.symm]
    exact congrArg (fun events => some (events, c)) (List.append_nil before).symm
  | cons i f ih =>
    obtain ⟨frame, hripe, hindex⟩ := hplaced.exists_ripe
    have hdequeue : c.dequeue = .ok (.ok frame, { c with stream := f ++ (r ++ (w ++ p)) }) := by
      rw [dequeue_eq hstaged hsettled, hripe, hplaced.stream]
      rfl
    have hleft : CaptureQueue.Placed { c.toCaptureQueue with stream := f ++ (r ++ (w ++ p)) }
        f r w p := CaptureQueue.Placed.drop (show c.Placed ([i] ++ f) r w p from hplaced)
    obtain ⟨frames, hframes, hrecord⟩ :=
      ih (c := { c with stream := f ++ (r ++ (w ++ p)) }) (before ++ takings [frame]) hstaged
        (settled_of_dequeue hsettled hdequeue) hleft
    refine ⟨frame :: frames, by rw [List.map_cons, hindex, hframes], ?_⟩
    have hperform : c.perform .dequeue =
        .ok (.frame frame, { c with stream := f ++ (r ++ (w ++ p)) }) :=
      bind_eq_ok.mpr ⟨_, hdequeue, rfl⟩
    rw [List.append_assoc] at hrecord
    simp only [List.length_cons, List.replicate_succ, record, hperform, if_true]
    exact hrecord

/-! ## Sessions -/

/-- What comes of taking buffers back from a queue. -/
structure Yields (c : Channel δ) : Prop where
  /-- The frame of the oldest buffer is handed back and the buffer leaves the stream, if it can be
  taken back; otherwise an error tells why not, and nothing is removed. -/
  answers : c.dequeue = .ok (match c.ripe? with
    | some frame => (.ok frame, { c with stream := c.stream.tail })
    | none => (.error c.holdup, c))
  /-- It can be taken back if and only if it is done or in error. -/
  ripe : c.ripe?.isSome ↔
    ∃ i ∈ c.stream.head?, c.stateOf i = some .done ∨ c.stateOf i = some .error
  /-- The error tells what it is to tell, unless the stream is empty and a fault is latched. -/
  explains : c.Explains c.holdup ↔ (c.stream = [] → c.fault = none)
  /-- All finished buffers can be taken back, which leaves the chain and those that wait. If a fault
  is latched it is reported then if and only if anything is left. -/
  drains : ∃ (frames : List Frame) (rest : List Nat),
    c.record (fun _ _ => True) [] (List.replicate frames.length .dequeue) =
      some (takings frames, { c with stream := rest }) ∧
    c.stream = frames.map Frame.index ++ rest ∧
    (c.streaming = true → rest = c.active ++ c.queued) ∧
    ∀ fault, c.fault = some fault → dequeue { c with stream := rest } =
      .ok (.error (if rest = [] then .notStreaming else .hardwareFault fault),
        { c with stream := rest })

variable {regs : RegisterFile} {dma dma' : δ} {config : Config} {c₀ : Channel δ}

/-- **What users are told when they take buffers back**, whatever was done with the queue before:
the oldest buffer is handed back once it is finished, and until then they are told of the fault that
has stopped the engine, or that capture is off, unless a fault is latched and nothing is left in the
stream.

**Proof sketch.** Finished buffers come first in the stream, so that they can be taken back one
after the other. This is a session, too, and after it the oldest buffer is not finished. -/
theorem yields_of_reaches (hcreate : create regs dma config = (.ok c₀, dma'))
    (h : c₀.Reaches c) : c.Yields := by
  have hstaged := staged_of_reaches hcreate h
  have hsettled := settled_of_reaches hcreate h
  refine ⟨dequeue_eq hstaged hsettled, CaptureQueue.isSome_ripe?_iff,
    CaptureQueue.explains_holdup_iff, ?_⟩
  obtain ⟨f, r, w, p, hplaced, hrest⟩ := hsettled.exists_placed
  obtain ⟨frames, rfl, hrecord⟩ := exists_drained [] hstaged hsettled hplaced
  rw [List.length_map] at hrecord
  refine ⟨frames, r ++ (w ++ p), hrecord, hplaced.stream, hrest, fun fault hfault => ?_⟩
  -- taking the finished buffers back goes on with the session
  have hdrain : c.Session (fun _ _ => True) (fun _ _ => True) (takings frames)
      { c with stream := r ++ (w ++ p) } := session_of_record .refl hrecord
  have hreach := h.trans hdrain.reaches
  have hdrained : CaptureQueue.Placed { c.toCaptureQueue with stream := r ++ (w ++ p) } [] r w p :=
    CaptureQueue.Placed.drop (by rwa [List.append_nil])
  rw [dequeue_eq (staged_of_reaches hcreate hreach) (settled_of_reaches hcreate hreach),
    hdrained.ripe?_eq_none, CaptureQueue.holdup]
  cases r ++ (w ++ p) with
  | nil => rfl
  | cons i rest => simp only [hfault, reduceCtorEq, if_false]

/-- A buffer is given up because of a fault and taken back. Asked for another one, the queue tells
that it does not capture, although capture is on and the fault is still latched. -/
theorem yields_of_reaches_drained : ∃ c₀ dma c, create {} HostDma.create {} = (.ok c₀, dma) ∧
    c₀.Reaches c ∧ c.stream = [] ∧ c.fault = some Status.faults ∧ c.streaming = true ∧
      c.dequeue = .ok (.error .notStreaming, c) ∧ c.Yields := by
  let narrow : Geometry := { width := 48, height := 32, format := .initial, field := .bottom }
  obtain ⟨c₀, dma, c, hcreate, hreach, hview⟩ := exists_session_of_viewFrom
    (show viewFrom HostDma.create [.request 1 8192, .prepare 0 narrow .initial, .enqueue 0 0,
        .streamOn 0, .status 0 Status.faults, .dequeue]
      (fun c => (c.stream, c.fault, c.streaming)) =
      some ([], some Status.faults, true) by decide +kernel)
  obtain ⟨hstream, hlater⟩ := Prod.mk.inj hview
  obtain ⟨hfault, hon⟩ := Prod.mk.inj hlater
  have hyields := yields_of_reaches hcreate hreach
  refine ⟨c₀, dma, c, hcreate, hreach, hstream, hfault, hon, ?_, hyields⟩
  have hanswer := hyields.answers
  rwa [CaptureQueue.ripe?, CaptureQueue.holdup, hstream] at hanswer

end Channel

end VideoCapture
