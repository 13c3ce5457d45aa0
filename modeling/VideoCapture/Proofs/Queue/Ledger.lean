import VideoCapture.Proofs.Queue.Order
import VideoCapture.Proofs.Queue.Record
import VideoCapture.Proofs.Queue.Scheduling

/-!
# Buffers in and frames out

A queue owes its users an account. Every buffer handed in comes back once, in the order in which it
was handed in, unless the stream is cleared in between; and the frames among them that were captured
are numbered from zero on, without a gap, however many others are given up.

The account balances at every event: what was in the stream before, together with what is handed in,
is what is handed back together with the stream afterwards. Numbers are given to buffers in the
order of the stream, because only the head of the chain is ever captured, and everything in front of
it is finished.

## Main definitions

* `VideoCapture.CaptureQueue.captures` — the numbers of the captured frames in the stream.
* `VideoCapture.CaptureQueue.Posted` — what an event changes in the account.
* `VideoCapture.CaptureQueue.Balanced` — the account of a session.
* `VideoCapture.CaptureQueue.Delivered` — what this means to a user of the queue.

## Main results

* `VideoCapture.Channel.captures_of_completeHead` — retiring the head of the chain gives it the next
  number, behind all numbers given before.
* `VideoCapture.Channel.responding_posted` — what each operation changes in the account.
* `VideoCapture.Channel.delivered_of_session` — the account of every session.
-/

set_option autoImplicit false

namespace VideoCapture

/-- The number of the frame that a buffer has captured, if it is done. -/
def CaptureBuffer.capture (buffer : CaptureBuffer) : Option UInt32 :=
  if buffer.state = .done then some buffer.sequence else none

namespace CaptureQueue

/-! ## Captured frames -/

/-- The number of the frame that is in a buffer, if there is one. -/
def captureOf (q : CaptureQueue) (i : Nat) : Option UInt32 :=
  q.buffers[i]?.bind CaptureBuffer.capture

/-- The numbers of the captured frames in the stream. -/
def captures (q : CaptureQueue) : List UInt32 :=
  q.stream.filterMap q.captureOf

/-- The same frames are captured in two queues. -/
def SameCaptures (q q' : CaptureQueue) : Prop :=
  ∀ i, q'.captureOf i = q.captureOf i

variable {q q' q'' : CaptureQueue} {i : Nat} {f r w p : List Nat}

/-- The same frames stay captured over one step after the other. -/
lemma SameCaptures.trans (h : q.SameCaptures q') (h' : q'.SameCaptures q'') : q.SameCaptures q'' :=
  fun i => (h' i).trans (h i)

/-- What is captured in the stream stays so while the stream does. -/
lemma SameCaptures.captures_eq (h : q.SameCaptures q') (hstream : q'.stream = q.stream) :
    q'.captures = q.captures := by
  rw [captures, captures, hstream]
  exact congrArg (List.filterMap · _) (funext h)

/-- A buffer that is not done holds no frame. -/
lemma captureOf_eq_none (h : q.stateOf i ≠ some .done) : q.captureOf i = none := by
  cases hbuffer : q.buffers[i]? with
  | none => simp [captureOf, hbuffer]
  | some buffer =>
    have hstate : buffer.state ≠ .done := by
      simpa [stateOf, hbuffer] using h
    simp [captureOf, hbuffer, CaptureBuffer.capture, hstate]

/-- Buffers that hold the same frames one by one make queues that do. -/
lemma sameCaptures_of_map
    (h : q'.buffers.map CaptureBuffer.capture = q.buffers.map CaptureBuffer.capture) :
    q.SameCaptures q' := by
  intro i
  have hi : q'.buffers[i]?.map CaptureBuffer.capture = q.buffers[i]?.map CaptureBuffer.capture := by
    simpa using congrArg (fun l => l[i]?) h
  have hjoin := congrArg (Option.bind · id) hi
  simpa [captureOf, Option.bind_map, Function.comp_def] using hjoin

/-- Where tails point does not matter to frames. -/
lemma sameCaptures_pointTail (q : CaptureQueue) (i : Nat) (target : UInt32) :
    q.SameCaptures (q.pointTail i target) :=
  sameCaptures_of_map (map_buffers_modify q i _ fun _ => rfl)

/-- Buffers that change their stage hold no frame if they are not done before or afterwards. -/
lemma sameCaptures_of_restage (chain : List Nat)
    (hbefore : ∀ i ∈ chain, q.stateOf i ≠ some .done)
    (hafter : ∀ i ∈ chain, q'.stateOf i ≠ some .done)
    (hothers : ∀ i, i ∉ chain → q'.buffers[i]? = q.buffers[i]?) : q.SameCaptures q' := by
  intro i
  by_cases hi : i ∈ chain
  · rw [captureOf_eq_none (hbefore i hi), captureOf_eq_none (hafter i hi)]
  · rw [captureOf, hothers i hi, captureOf]

/-- A buffer that changes from one stage to another holds no frame if neither is done. -/
lemma sameCaptures_modify {g : CaptureBuffer → CaptureBuffer} {s : BufferState}
    (hbefore : q.stateOf i ≠ some .done) (hs : s ≠ .done)
    (hg : ∀ buffer, (g buffer).state = s) : q.SameCaptures (q.modify i g) := by
  refine sameCaptures_of_restage [i] (by simpa using hbefore) ?_ ?_
  · intro j hj
    obtain rfl := List.mem_singleton.mp hj
    rw [stateOf, getElem?_modify, if_pos rfl, Option.map_map]
    cases q.buffers[j]? with
    | none => simp
    | some buffer => simpa [hg] using hs
  · intro j hj
    rw [getElem?_modify, if_neg fun heq => hj (by simp [heq])]

/-- Giving buffers up that are not done loses no frame. -/
lemma Failed.sameCaptures {chain : List Nat} (h : q.Failed chain q')
    (hchain : ∀ i ∈ chain, q.stateOf i ≠ some .done) : q.SameCaptures q' := by
  refine sameCaptures_of_restage chain hchain ?_ h.others
  intro i hi
  rw [h.stateOf_eq hi]
  decide

/-- No frame is in the unfinished parts of the stream. -/
lemma Placed.captureOf_eq_none (h : q.Placed f r w p) :
    ∀ i ∈ r ++ (w ++ p), q.captureOf i = none := by
  intro i hi
  apply CaptureQueue.captureOf_eq_none
  rcases List.mem_append.mp hi with hi | hi
  · simp [h.active i hi]
  · rcases List.mem_append.mp hi with hi | hi
    · simp [h.queued i hi]
    · simp [h.prepared i hi]

/-- The frames in the stream are all in its finished part. -/
lemma Placed.captures_eq (h : q.Placed f r w p) : q.captures = f.filterMap q.captureOf := by
  rw [captures, h.stream, List.filterMap_append,
    List.filterMap_eq_nil_iff.mpr h.captureOf_eq_none, List.append_nil]

/-- A frame in the first unfinished buffer is the last of the stream. -/
lemma Placed.captures_eq_append {head : Nat} {number : UInt32} (h : q.Placed f (head :: r) w p)
    (hstream : q'.stream = q.stream) (hhead : q'.captureOf head = some number)
    (hothers : ∀ i, i ≠ head → q'.captureOf i = q.captureOf i) :
    q'.captures = q.captures ++ [number] := by
  have hnodup := h.nodup
  rw [h.stream] at hnodup
  have hfront : f.filterMap q'.captureOf = f.filterMap q.captureOf := by
    refine List.filterMap_congr fun i hi => hothers i ?_
    rintro rfl
    grind
  have hbehind : (r ++ (w ++ p)).filterMap q'.captureOf = [] := by
    rw [List.filterMap_eq_nil_iff]
    intro i hi
    rw [← h.captureOf_eq_none i (List.mem_cons_of_mem head hi)]
    refine hothers i ?_
    rintro rfl
    grind
  rw [h.captures_eq, captures, hstream, h.stream, List.filterMap_append, hfront, List.cons_append,
    List.filterMap_cons_some hhead, hbehind]

/-- While capture is off there is no frame in the stream. -/
lemma Settled.captures_eq_nil (h : q.Settled) (hoff : q.streaming = false) : q.captures = [] :=
  (h.off hoff).2.2.captures_eq

/-- What runs is not done. -/
lemma Placed.not_done_of_running (h : q.Placed f r w p) :
    ∀ i ∈ r, q.stateOf i ≠ some .done := by
  intro i hi
  rw [h.active i hi]
  decide

/-- What waits is not done. -/
lemma Placed.not_done_of_waiting (h : q.Placed f r w p) :
    ∀ i ∈ w, q.stateOf i ≠ some .done := by
  intro i hi
  rw [h.queued i hi]
  decide

end CaptureQueue

namespace Channel

variable {δ : Type} {c c' : Channel δ} {now : Int} {f p : List Nat}

/-! ## Scheduling captures nothing -/

/-- Starting a chain captures no frame, if none of its buffers is done. -/
lemma sameCaptures_of_startHead (h : c.startHead now = .ok c')
    (hchain : ∀ i ∈ c.active, c.stateOf i ≠ some .done) : c.SameCaptures c'.toCaptureQueue := by
  obtain ⟨-, rfl⟩ | ⟨head, rest, q, setup, engine, regs, -, hq, -, -, rfl⟩ := startHead_cases h
  · exact fun _ => rfl
  · refine CaptureQueue.sameCaptures_of_restage c.active hchain ?_ hq.others
    intro i hi
    have hactive : q.stateOf i = some .active := hq.stateOf_eq hi
    rw [CaptureQueue.stateOf] at hactive ⊢
    rw [hactive]
    decide

/-- Starting what waits captures no frame.

**Proof sketch.** Buffers that run or wait hold no frame, so that starting them is no loss. -/
lemma sameCaptures_of_restart (h : c.restart now = .ok c')
    (hplaced : c.Placed f c.active c.queued p) : c.SameCaptures c'.toCaptureQueue := by
  obtain ⟨-, hstart⟩ | ⟨q, hnil, hpromote, hstart⟩ := restart_cases h
  · exact sameCaptures_of_startHead hstart hplaced.not_done_of_running
  · obtain ⟨taken, hq⟩ := CaptureQueue.promoted_of_promote hpromote
    have hpromoted : c.SameCaptures q :=
      CaptureQueue.sameCaptures_of_map
        (CaptureQueue.map_buffers_of_promote (fun _ _ => rfl) hpromote)
    refine hpromoted.trans (sameCaptures_of_startHead hstart ?_)
    intro i hi
    have htaken : i ∈ taken := by
      have hactive : q.active = taken := by rw [hq.rest, hnil]; rfl
      rwa [← hactive]
    have hwaiting : i ∈ c.queued := by
      rw [hq.split]
      exact List.mem_append_left _ htaken
    show q.stateOf i ≠ some .done
    rw [hq.states]
    exact hplaced.not_done_of_waiting i hwaiting

/-- A buffer that finds its place is not captured by that. -/
lemma sameCaptures_of_place {i : Nat} (h : c.place now i = .ok c')
    (hready : c.stateOf i ≠ some .done) : c.SameCaptures c'.toCaptureQueue := by
  have hpointed := CaptureQueue.sameCaptures_pointTail c.toCaptureQueue i c.stopper.address
  have hready' : (c.pointTail i c.stopper.address).stateOf i ≠ some .done := by
    rwa [CaptureQueue.stateOf_pointTail]
  obtain ⟨-, ⟨-, rfl⟩ | ⟨-, -, -, hstart⟩ |
    ⟨previous, spliced, -, -, -, -, hsplice, rfl⟩⟩ := place_cases h
  · have hwaits := CaptureQueue.sameCaptures_modify hready'
      (show BufferState.queued ≠ .done by decide)
      (g := fun buffer => { buffer with state := .queued }) fun _ => rfl
    exact hpointed.trans hwaits
  · refine hpointed.trans (sameCaptures_of_startHead hstart ?_)
    intro j hj
    obtain rfl : j = i := List.mem_singleton.mp hj
    exact hready'
  · obtain ⟨-, -, target, -, -, rfl⟩ := CaptureQueue.splice_eq_ok.mp hsplice
    have hjoins := CaptureQueue.sameCaptures_modify hready'
      (show BufferState.active ≠ .done by decide)
      (g := fun buffer => { buffer with state := .active, position := c.count }) fun _ => rfl
    refine hpointed.trans (hjoins.trans ?_)
    exact CaptureQueue.sameCaptures_pointTail _ previous _

/-- **Retiring the head of the chain gives it the next number**, behind all numbers given before.
Without a chain nothing is retired. -/
theorem captures_of_completeHead {q : CaptureQueue} (h : c.completeHead now = .ok q)
    (hplaced : c.Placed f c.active c.queued p) :
    q.stream = c.stream ∧ q.streaming = c.streaming ∧
      (q.captures = c.captures ∧ q.sequence = c.sequence ∨
       q.captures = c.captures ++ [c.sequence] ∧ q.sequence = c.sequence + 1) := by
  obtain ⟨-, rfl⟩ | ⟨head, rest, setup, hactive, -, rfl⟩ := CaptureQueue.completeHead_cases h
  · exact ⟨rfl, rfl, .inl ⟨rfl, rfl⟩⟩
  · refine ⟨rfl, rfl, .inr ⟨?_, rfl⟩⟩
    rw [hactive] at hplaced
    obtain ⟨buffer, hbuffer, -⟩ :=
      Option.map_eq_some_iff.mp (hplaced.active head List.mem_cons_self)
    refine hplaced.captures_eq_append rfl ?_ fun i hi => ?_
    · refine (congrArg (Option.bind · _) (CaptureQueue.getElem?_modify _ head head _)).trans ?_
      rw [if_pos rfl, hbuffer]
      rfl
    · refine (congrArg (Option.bind · _) (CaptureQueue.getElem?_modify _ head i _)).trans ?_
      rw [if_neg (Ne.symm hi)]
      rfl

/-- Buffers that find their places are not captured by that. -/
lemma sameCaptures_of_placeAll {ready : List Nat} (h : c.placeAll now ready = .ok c')
    (hplaced : c.Placed f c.active c.queued ready) : c.SameCaptures c'.toCaptureQueue := by
  refine (placeAll_induct (P := fun c' => c.SameCaptures c'.toCaptureQueue) ?_ h hplaced
    fun _ => rfl).2
  intro c₁ c₂ i p hp hsame hplace
  refine hsame.trans (sameCaptures_of_place hplace ?_)
  simp [hp.prepared i List.mem_cons_self]

end Channel

namespace CaptureQueue

/-! ## The account -/

/-- A stop clears the stream. -/
lemma Event.clears_of_stops {event : Event} (h : event.stops = true) : event.clears = true := by
  unfold clears
  split
  · rfl
  · exact h

/-- While capture is off the next frame is the first. -/
def Fresh (q : CaptureQueue) : Prop :=
  q.streaming = false → q.sequence = 0

/-- What an event changes in the account of a queue. -/
structure Posted (event : Event) (q q' : CaptureQueue) : Prop where
  /-- What is handed in joins the stream at its end, and what is handed back leaves it in front. -/
  conserved : event.clears = false →
    q.stream ++ event.handedIn.toList = (event.handedBack.map Frame.index).toList ++ q'.stream
  /-- A stream that is cleared is empty. -/
  cleared : event.clears = true → q'.stream = []
  /-- What is handed back is finished. -/
  finished : ∀ frame ∈ event.handedBack, frame.state.finished = true
  /-- The numbers handed back and in the stream stay, but one more may have been given. -/
  numbered : event.stops = false →
    (captured [event]).map Frame.sequence ++ q'.captures = q.captures ∧
      q'.sequence = q.sequence ∨
    (captured [event]).map Frame.sequence ++ q'.captures = q.captures ++ [q.sequence] ∧
      q'.sequence = q.sequence + 1
  /-- After a stop the next frame is the first. -/
  renumbered : event.stops = true → q'.sequence = 0
  /-- While capture is off the next frame is the first. -/
  fresh : q'.Fresh

variable {q q' : CaptureQueue} {event : Event} {events : List Event}

/-- No frame was captured where none is handed back. -/
lemma captured_eq_nil (h : event.handedBack = none) : captured [event] = [] := by
  simp [captured, handedBack, h]

/-- An event that hands nothing in or back and does not clear the stream leaves the stream as it is
and gives out one number at most. -/
lemma posted_of_numbered (hin : event.handedIn = none) (hback : event.handedBack = none)
    (hclears : event.clears = false) (hstream : q'.stream = q.stream)
    (hnumbered : q'.captures = q.captures ∧ q'.sequence = q.sequence ∨
      q'.captures = q.captures ++ [q.sequence] ∧ q'.sequence = q.sequence + 1)
    (hfresh : q'.Fresh) : Posted event q q' where
  conserved _ := by rw [hin, hback, hstream]; simp
  cleared h := by rw [hclears] at h; cases h
  finished := by simp [hback]
  numbered _ := by
    rw [captured_eq_nil hback]
    exact hnumbered
  renumbered h := by
    rw [Event.clears_of_stops h] at hclears
    cases hclears
  fresh := hfresh

/-- An event that hands nothing in or back, does not clear the stream and captures nothing leaves
the account as it is. -/
lemma posted_of_same (hin : event.handedIn = none) (hback : event.handedBack = none)
    (hclears : event.clears = false) (hstream : q'.stream = q.stream)
    (hsame : q.SameCaptures q') (hsequence : q'.sequence = q.sequence)
    (hfresh : q'.Fresh) : Posted event q q' :=
  posted_of_numbered hin hback hclears hstream (.inl ⟨hsame.captures_eq hstream, hsequence⟩) hfresh

/-- While capture is on nothing is asked of the next number. -/
lemma fresh_of_streaming (h : q.streaming = true) : q.Fresh := by
  intro hoff
  rw [h] at hoff
  cases hoff

end CaptureQueue

namespace Channel

open CaptureQueue (Operation Answer Event Posted)

variable {δ : Type} {c c' : Channel δ} {now : Int} {f p : List Nat}

/-! ## What operations change in the account -/

/-- A buffer that is handed in is posted at the end of the stream.

**Proof sketch.** The buffer joins the stream at its end. It was prepared, so it holds no frame, and
neither placing it nor leaving it to wait changes what the others hold. -/
lemma posted_of_enqueue {i : Nat} {result : Except Error Unit} (hfresh : c.Fresh)
    (h : c.enqueue now i = .ok (result, c')) :
    Posted ⟨.enqueue now i, .of (fun _ => .done) result⟩ c.toCaptureQueue c'.toCaptureQueue := by
  obtain ⟨error, rfl, rfl⟩ | ⟨rfl, hi, hstate, hcase⟩ := enqueue_cases h
  · exact CaptureQueue.posted_of_same rfl rfl rfl rfl (fun _ => rfl) rfl hfresh
  · have hready : c.stateOf i ≠ some .done := by
      rw [hstate]
      decide
    -- the buffer handed in is the last of the stream, and holds no frame
    obtain ⟨hstream, hsame, hsequence, hstreaming⟩ : c'.stream = c.stream ++ [i] ∧
        c.SameCaptures c'.toCaptureQueue ∧ c'.sequence = c.sequence ∧
        c'.streaming = c.streaming := by
      obtain ⟨-, hplace⟩ | ⟨-, rfl⟩ := hcase
      · have hsteady := steady_of_place hplace
        have hsame := sameCaptures_of_place hplace hready
        exact ⟨hsteady.stream, hsame, hsteady.sequence, hsteady.streaming⟩
      · exact ⟨rfl, fun _ => rfl, rfl, rfl⟩
    refine ⟨fun _ => ?_, nofun, nofun, fun _ => .inl ⟨?_, hsequence⟩, nofun, fun hoff => ?_⟩
    · rw [hstream]
      rfl
    · have hnone : c.captureOf i = none := CaptureQueue.captureOf_eq_none hready
      rw [CaptureQueue.captured_eq_nil rfl, CaptureQueue.captures, hstream, funext hsame,
        List.filterMap_append]
      simp [hnone, CaptureQueue.captures]
    · exact hsequence.trans (hfresh (hstreaming.symm.trans hoff))

/-- A buffer that is handed back is posted as the first of the stream, with the frame it holds.

**Proof sketch.** A refusal posts nothing. The buffer that is handed back is the first of the
stream, so its frame, if it was captured, is the first of those held. -/
lemma posted_of_dequeue {result : Except Error Frame} (hfresh : c.Fresh)
    (h : c.dequeue = .ok (result, c')) :
    Posted ⟨.dequeue, .of .frame result⟩ c.toCaptureQueue c'.toCaptureQueue := by
  obtain ⟨error, rfl, rfl⟩ | ⟨i, rest, buffer, bytesUsed, hstream, hbuffer, hfinished, rfl, -,
    rfl⟩ := dequeue_cases h
  · exact CaptureQueue.posted_of_same rfl rfl rfl rfl (fun _ => rfl) rfl hfresh
  · refine ⟨fun _ => ?_, nofun, fun frame hframe => ?_, fun _ => .inl ⟨?_, rfl⟩, nofun, hfresh⟩
    · rw [hstream]
      exact List.append_nil _
    · obtain rfl := Option.some.inj hframe
      exact hfinished
    · -- the frame handed back is the first in the stream if it was captured
      have hcaptures : c.captures = (c.captureOf i).toList ++ rest.filterMap c.captureOf := by
        rw [CaptureQueue.captures, hstream, List.filterMap_cons]
        cases c.captureOf i <;> rfl
      rw [hcaptures]
      refine congrArg (· ++ rest.filterMap c.captureOf) ?_
      by_cases hdone : buffer.state = .done
      · simp [CaptureQueue.captured, CaptureQueue.handedBack, Event.handedBack, Answer.of,
          CaptureQueue.captureOf, hbuffer, CaptureBuffer.capture, hdone]
      · simp [CaptureQueue.captured, CaptureQueue.handedBack, Event.handedBack, Answer.of,
          CaptureQueue.captureOf, hbuffer, CaptureBuffer.capture, hdone]

/-- Starting or resuming capture is posted as such, and captures nothing by itself. -/
lemma posted_of_streamOn {result : Except Error Unit} (hc : c.Settled) (hfresh : c.Fresh)
    (h : c.streamOn now = .ok (result, c')) :
    Posted ⟨.streamOn now, .of (fun _ => .done) result⟩ c.toCaptureQueue c'.toCaptureQueue := by
  obtain ⟨-, -, rfl, rfl⟩ | ⟨hon, -, rfl, hrestart⟩ | ⟨hoff, rfl, hplace⟩ := streamOn_cases h
  · exact CaptureQueue.posted_of_same rfl rfl rfl rfl (fun _ => rfl) rfl hfresh
  · obtain ⟨f, hplaced⟩ := hc.on hon
    have hsteady := steady_of_restart hrestart
    have hsame := sameCaptures_of_restart hrestart (hplaced.congr rfl fun _ => rfl)
    exact CaptureQueue.posted_of_same rfl rfl rfl hsteady.stream hsame hsteady.sequence
      (CaptureQueue.fresh_of_streaming (hsteady.streaming.trans hon))
  · obtain ⟨hactive, hqueued, hplaced⟩ := hc.off hoff
    have hready : CaptureQueue.Placed { c.toCaptureQueue with fault := none, streaming := true } []
        c.active c.queued c.stream := by
      rw [hactive, hqueued]
      exact hplaced.congr rfl fun _ => rfl
    have hsteady := steady_of_placeAll hplace
    have hsame := sameCaptures_of_placeAll hplace hready
    exact CaptureQueue.posted_of_same rfl rfl rfl hsteady.stream hsame hsteady.sequence
      (CaptureQueue.fresh_of_streaming hsteady.streaming)

/-- A completion is posted as one frame more at most.

**Proof sketch.** Retiring the head numbers one frame. What follows, a new start or nothing,
captures nothing. -/
lemma posted_of_handleCompletion (bits : UInt32) (h : c.handleCompletion now = .ok c')
    (hon : c.streaming = true) (hplaced : c.Placed f c.active c.queued []) :
    Posted ⟨.status now bits, .flag true⟩ c.toCaptureQueue c'.toCaptureQueue := by
  obtain ⟨-, rfl⟩ | ⟨q, -, hcomplete, hcase⟩ := handleCompletion_cases h
  · exact CaptureQueue.posted_of_same rfl rfl rfl rfl (fun _ => rfl) rfl
      (CaptureQueue.fresh_of_streaming hon)
  · obtain ⟨hstream, hstreaming, hnumbered⟩ := captures_of_completeHead hcomplete hplaced
    obtain ⟨f', hplaced', -⟩ := placed_of_completeHead hcomplete hplaced
    -- nothing is captured once the head is retired
    obtain ⟨hstream', hsame, hsequence, hstreaming'⟩ : c'.stream = q.stream ∧
        q.SameCaptures c'.toCaptureQueue ∧ c'.sequence = q.sequence ∧
        c'.streaming = q.streaming := by
      obtain ⟨-, hpark⟩ | ⟨-, rfl⟩ := hcase
      · obtain ⟨-, -, rfl⟩ | ⟨-, hrestart⟩ := park_cases hpark
        · exact ⟨rfl, fun _ => rfl, rfl, rfl⟩
        · have hsteady := steady_of_restart hrestart
          have hsame := sameCaptures_of_restart hrestart (hplaced'.congr rfl fun _ => rfl)
          exact ⟨hsteady.stream, hsame, hsteady.sequence, hsteady.streaming⟩
      · exact ⟨rfl, fun _ => rfl, rfl, rfl⟩
    refine CaptureQueue.posted_of_numbered rfl rfl rfl (hstream'.trans hstream) ?_
      (CaptureQueue.fresh_of_streaming (hstreaming'.trans (hstreaming.trans hon)))
    rw [hsame.captures_eq hstream', hsequence]
    exact hnumbered

/-- Interrupt status is posted as the completion that it reports, if it reports one. -/
lemma posted_of_handleStatus {bits : UInt32} {mine : Bool} (hc : c.Settled) (hfresh : c.Fresh)
    (h : c.handleStatus now bits = .ok (mine, c')) :
    Posted ⟨.status now bits, .flag mine⟩ c.toCaptureQueue c'.toCaptureQueue := by
  obtain ⟨-, -, rfl⟩ | ⟨-, rfl, ⟨-, rfl⟩ | ⟨hon, -, hfail⟩ | ⟨hon, -, hcompletion⟩⟩ :=
    handleStatus_cases h
  · exact CaptureQueue.posted_of_same rfl rfl rfl rfl (fun _ => rfl) rfl hfresh
  · exact CaptureQueue.posted_of_same rfl rfl rfl rfl (fun _ => rfl) rfl hfresh
  · obtain ⟨f, hplaced⟩ := hc.on hon
    obtain ⟨q, backlog, hq, rfl⟩ := failStop_cases hfail
    have hsame := hq.sameCaptures hplaced.not_done_of_running
    have hstreaming : q.streaming = c.streaming := by rw [hq.rest]; rfl
    exact CaptureQueue.posted_of_same rfl rfl rfl (by rw [hq.rest]; rfl) hsame
      (by rw [hq.rest]; rfl) (CaptureQueue.fresh_of_streaming (hstreaming.trans hon))
  · obtain ⟨f, hplaced⟩ := hc.on hon
    have hposted := posted_of_handleCompletion bits hcompletion hon (hplaced.congr rfl fun _ => rfl)
    exact hposted

/-- A stall is posted as no frame: what stalled is given up. -/
lemma posted_of_checkTimeout {stalled : Bool} (hc : c.Settled) (hfresh : c.Fresh)
    (h : c.checkTimeout now = .ok (stalled, c')) :
    Posted ⟨.timeout now, .flag stalled⟩ c.toCaptureQueue c'.toCaptureQueue := by
  obtain ⟨-, rfl, -⟩ | ⟨-, -, rfl⟩ | ⟨-, hactive, q, hq, hrestart⟩ := checkTimeout_cases h
  · exact CaptureQueue.posted_of_same rfl rfl rfl rfl (fun _ => rfl) rfl hfresh
  · exact CaptureQueue.posted_of_same rfl rfl rfl rfl (fun _ => rfl) rfl hfresh
  · have hon : c.streaming = true := hc.streaming_eq hactive
    obtain ⟨f, hplaced⟩ := hc.on hon
    have hfailed := hq.sameCaptures hplaced.not_done_of_running
    have hplaced' : q.Placed (f ++ c.active) q.active q.queued [] := by
      have hparts := placed_of_failed hq (hplaced.congr rfl fun _ => rfl)
      have hnil : q.active = [] := by rw [hq.rest]
      have hqueued : q.queued = c.queued := by rw [hq.rest]; rfl
      rwa [hnil, hqueued]
    have hsteady := steady_of_restart hrestart
    have hrestarted := sameCaptures_of_restart hrestart (hplaced'.congr rfl fun _ => rfl)
    have hstream : q.stream = c.stream := by rw [hq.rest]; rfl
    have hsequence : q.sequence = c.sequence := by rw [hq.rest]; rfl
    have hstreaming : q.streaming = c.streaming := by rw [hq.rest]; rfl
    exact CaptureQueue.posted_of_same rfl rfl rfl (hsteady.stream.trans hstream)
      (hfailed.trans hrestarted) (hsteady.sequence.trans hsequence)
      (CaptureQueue.fresh_of_streaming (hsteady.streaming.trans (hstreaming.trans hon)))

variable [DmaBackend δ]

/-- Replacing the buffers is posted as the end of the stream. -/
lemma posted_of_requestBuffers {count capacity : Nat} {result : Except Error Nat}
    (hc : c.Settled) (hfresh : c.Fresh) (h : c.requestBuffers count capacity = .ok (result, c')) :
    Posted ⟨.request count capacity, .of (fun _ => .done) result⟩ c.toCaptureQueue
      c'.toCaptureQueue := by
  obtain ⟨-, rfl, rfl⟩ | ⟨hoff, released, dma, -, rfl, rfl⟩ := requestBuffers_cases h
  · exact CaptureQueue.posted_of_same rfl rfl rfl rfl (fun _ => rfl) rfl hfresh
  · refine ⟨nofun, fun _ => rfl, nofun, fun _ => .inl ⟨?_, rfl⟩, nofun, hfresh⟩
    exact (hc.captures_eq_nil hoff).symm

/-- Preparing a buffer is nothing to be posted. -/
lemma posted_of_prepare {i : Nat} {geometry : Geometry} {norm : Norm} {result : Except Error Unit}
    (hfresh : c.Fresh) (h : c.prepare i geometry norm = .ok (result, c')) :
    Posted ⟨.prepare i geometry norm, .of (fun _ => .done) result⟩ c.toCaptureQueue
      c'.toCaptureQueue := by
  have hquiet : Event.handedIn ⟨.prepare i geometry norm, .of (fun _ => .done) result⟩ = none ∧
      Event.handedBack ⟨.prepare i geometry norm, .of (fun _ => .done) result⟩ = none ∧
      Event.clears ⟨.prepare i geometry norm, .of (fun _ => .done) result⟩ = false := by
    cases result <;> exact ⟨rfl, rfl, rfl⟩
  obtain ⟨hin, hback, hclears⟩ := hquiet
  obtain ⟨_, -, rfl⟩ | ⟨buffer, buffer', dma, hi, -, -, -, rfl⟩ := prepare_cases h
  · exact CaptureQueue.posted_of_same hin hback hclears rfl (fun _ => rfl) rfl hfresh
  · -- only a buffer outside the stream has changed
    refine CaptureQueue.posted_of_numbered hin hback hclears rfl (.inl ⟨?_, rfl⟩) hfresh
    refine List.filterMap_congr fun j hj => ?_
    have hne : i ≠ j := by
      rintro rfl
      exact hi hj
    exact congrArg (Option.bind · CaptureBuffer.capture) (List.getElem?_set_ne hne)

/-- Stopping capture is posted as the end of the stream. -/
lemma posted_of_streamOff {result : Except Error Unit} (hfresh : c.Fresh)
    (h : c.streamOff = .ok (result, c')) :
    Posted ⟨.streamOff, .of (fun _ => .done) result⟩ c.toCaptureQueue c'.toCaptureQueue := by
  obtain ⟨-, rfl, rfl⟩ | ⟨-, rfl, buffers, dma, -, rfl⟩ := streamOff_cases h
  · exact CaptureQueue.posted_of_same rfl rfl rfl rfl (fun _ => rfl) rfl hfresh
  · exact ⟨nofun, fun _ => rfl, nofun, nofun, fun _ => rfl, fun _ => rfl⟩

/-- Shutting down is posted as the end of the stream. -/
lemma posted_of_shutdown (hfresh : c.Fresh) (h : c.shutdown = .ok c') :
    Posted ⟨.shutdown, .done⟩ c.toCaptureQueue c'.toCaptureQueue := by
  obtain ⟨c₁, hoff, _, hrequest⟩ := shutdown_cases h
  obtain ⟨hstreaming, hsequence⟩ : c₁.streaming = false ∧ c₁.sequence = 0 := by
    obtain ⟨hoff, rfl⟩ | ⟨hon, _, hoff⟩ := hoff
    · exact ⟨hoff, hfresh hoff⟩
    · obtain ⟨hoff, -, -⟩ | ⟨-, -, buffers, dma, -, rfl⟩ := streamOff_cases hoff
      · cases hoff.symm.trans hon
      · exact ⟨rfl, rfl⟩
  obtain ⟨hon, -, -⟩ | ⟨-, released, dma, -, -, rfl⟩ := requestBuffers_cases hrequest
  · cases hstreaming.symm.trans hon
  · exact ⟨nofun, fun _ => rfl, nofun, nofun, fun _ => hsequence, fun _ => hsequence⟩

/-- **What each operation changes in the account of a queue.** -/
theorem responding_posted : Responding fun operation answer (c c' : Channel δ) =>
    c.Settled → c.Fresh → Posted ⟨operation, answer⟩ c.toCaptureQueue c'.toCaptureQueue where
  request h hc hfresh := posted_of_requestBuffers hc hfresh h
  prepare h _ hfresh := posted_of_prepare hfresh h
  enqueue h _ hfresh := posted_of_enqueue hfresh h
  dequeue h _ hfresh := posted_of_dequeue hfresh h
  streamOn h hc hfresh := posted_of_streamOn hc hfresh h
  streamOff h _ hfresh := posted_of_streamOff hfresh h
  status h hc hfresh := posted_of_handleStatus hc hfresh h
  timeout h hc hfresh := posted_of_checkTimeout hc hfresh h
  maskAll _ hfresh := CaptureQueue.posted_of_same rfl rfl rfl rfl (fun _ => rfl) rfl hfresh
  report _ _ _ hfresh := CaptureQueue.posted_of_same rfl rfl rfl rfl (fun _ => rfl) rfl hfresh
  shutdown h _ hfresh := posted_of_shutdown hfresh h

end Channel

namespace CaptureQueue

/-! ## The account of a session -/

/-- The account of a queue after the events given. -/
structure Balanced (events : List Event) (q : CaptureQueue) : Prop where
  /-- What was handed in since the stream was cleared has been handed back, or is in the stream. -/
  order : handedIn (since Event.clears events) =
    (handedBack (since Event.clears events)).map Frame.index ++ q.stream
  /-- What was handed back was finished. -/
  finished : ∀ frame ∈ handedBack events, frame.state.finished = true
  /-- The numbers given since capture was stopped, to frames handed back or in the stream, count up
  to the next. -/
  numbered : ∃ n : Nat, q.sequence = UInt32.ofNat n ∧
    (captured (since Event.stops events)).map Frame.sequence ++ q.captures =
      (List.range n).map UInt32.ofNat
  /-- While capture is off the next frame is the first. -/
  fresh : q.Fresh

variable {q q' : CaptureQueue} {event : Event} {events : List Event}

/-- An account that balances goes on balancing.

**Proof sketch.** If the event clears the stream, the account begins anew. Otherwise what was handed
in is still what was handed back and what is left, and a frame that is captured takes the next
number. -/
theorem Balanced.post (h : q.Balanced events) (hpost : Posted event q q') :
    q'.Balanced (events ++ [event]) where
  order := by
    rw [since_concat]
    cases hclears : event.clears with
    | true =>
      rw [hpost.cleared hclears]
      rfl
    | false =>
      have hconserved := hpost.conserved hclears
      simp only [Bool.false_eq_true, if_false]
      rw [handedIn_concat, handedBack_concat, h.order, List.append_assoc, hconserved,
        List.map_append, List.append_assoc]
      cases event.handedBack <;> rfl
  finished := by
    rw [handedBack_concat]
    intro frame hframe
    rcases List.mem_append.mp hframe with hframe | hframe
    · exact h.finished frame hframe
    · exact hpost.finished frame (Option.mem_toList.mp hframe)
  numbered := by
    obtain ⟨n, hsequence, hnumbers⟩ := h.numbered
    rw [since_concat]
    cases hstops : event.stops with
    | true =>
      have hstream := hpost.cleared (Event.clears_of_stops hstops)
      refine ⟨0, hpost.renumbered hstops, ?_⟩
      rw [captures, hstream]
      rfl
    | false =>
      simp only [Bool.false_eq_true, if_false]
      rw [captured_concat, List.map_append]
      obtain ⟨hcaptures, hsame⟩ | ⟨hcaptures, hnext⟩ := hpost.numbered hstops
      · exact ⟨n, hsame.trans hsequence, by rw [List.append_assoc, hcaptures, hnumbers]⟩
      · refine ⟨n + 1, ?_, ?_⟩
        · rw [hnext, hsequence, UInt32.ofNat_add]
          rfl
        · rw [List.append_assoc, hcaptures, ← List.append_assoc, hnumbers, hsequence,
            List.range_succ, List.map_append]
          rfl
  fresh := hpost.fresh

/-- What a user can tell from a session: the buffers come back in the order in which they were
handed in, finished, and the captured ones are numbered from zero on. -/
structure Delivered (events : List Event) (q : CaptureQueue) : Prop where
  /-- Since the stream was cleared, the buffers handed in are those handed back, followed by the
  stream. -/
  order : handedIn (since Event.clears events) =
    (handedBack (since Event.clears events)).map Frame.index ++ q.stream
  /-- Every buffer handed back is done or in error. -/
  finished : ∀ frame ∈ handedBack events, frame.state = .done ∨ frame.state = .error
  /-- The frames captured and handed back since capture was stopped count up from zero. -/
  numbered : (captured (since Event.stops events)).map Frame.sequence =
    (List.range (captured (since Event.stops events)).length).map UInt32.ofNat

/-- An account that balances is what users are owed. -/
lemma Balanced.delivered (h : q.Balanced events) : q.Delivered events where
  order := h.order
  finished frame hframe := by
    have hfinished := h.finished frame hframe
    cases hstate : frame.state <;> simp [hstate, BufferState.finished] at hfinished ⊢
  numbered := by
    -- the numbers handed back come first among all numbers given
    obtain ⟨n, -, hnumbers⟩ := h.numbered
    have hlength := congrArg List.length hnumbers
    simp only [List.length_append, List.length_map, List.length_range] at hlength
    have htake := congrArg (List.take (captured (since Event.stops events)).length) hnumbers
    rw [List.take_left' (List.length_map _), ← List.map_take, List.take_range] at htake
    rw [htake, Nat.min_eq_left (by omega)]

end CaptureQueue

namespace Channel

open CaptureQueue (Operation Event)

variable {δ : Type} [DmaBackend δ] {regs : RegisterFile} {dma dma' : δ} {config : Config}
  {c₀ c : Channel δ} {admits : Channel δ → Operation → Prop}
  {drifts : RegisterFile → RegisterFile → Prop} {events : List Event}

/-- The account of a new queue. -/
lemma balanced_of_create (h : create regs dma config = (.ok c, dma')) : c.Balanced [] := by
  obtain ⟨stopper, -, rfl⟩ := create_eq_ok h
  exact ⟨rfl, nofun, ⟨0, rfl, rfl⟩, fun _ => rfl⟩

/-- The account of every session balances.

**Proof sketch.** Induction on the session. -/
theorem balanced_of_session (hcreate : create regs dma config = (.ok c₀, dma'))
    (h : c₀.Session admits drifts events c) : c.Balanced events := by
  induction h with
  | refl => exact balanced_of_create hcreate
  | perform hsession _ hperform ih =>
    have hsettled := settled_of_reaches hcreate hsession.reaches
    exact ih.post (responding_posted.of_perform hperform hsettled ih.fresh)
  | drift _ _ ih => exact ⟨ih.order, ih.finished, ih.numbered, ih.fresh⟩

/-- **Every buffer handed in comes back once, in order, and the captured frames are numbered without
a gap**: whatever is done with a queue, and whatever its registers hold meanwhile. -/
theorem delivered_of_session (hcreate : create regs dma config = (.ok c₀, dma'))
    (h : c₀.Session admits drifts events c) : c.Delivered events :=
  (balanced_of_session hcreate h).delivered

/-- Of three buffers the first is captured, the second is given up because of a fault, and the third
is captured after capture is resumed, while the first is handed in again. -/
theorem delivered_of_session_resumed :
    ∃ c₀ dma events c, create {} HostDma.create {} = (.ok c₀, dma) ∧
      c₀.Session (fun _ _ => True) (fun _ _ => True) events c ∧
      (CaptureQueue.handedIn events,
        (CaptureQueue.handedBack events).map fun frame =>
          (frame.index, frame.state, frame.sequence),
        c.stream) =
        ([0, 1, 2, 0], [(0, .done, 0), (1, .error, 0), (2, .done, 1)], [0]) ∧
      c.Delivered events := by
  let narrow : Geometry := { width := 48, height := 32, format := .initial, field := .bottom }
  let operations : List Operation := chainedOperations ++
    [.status 0 Status.program, .dequeue, .status 0 Status.faults, .dequeue, .streamOn 0,
      .prepare 0 narrow .initial, .enqueue 0 0, .status 0 Status.program, .dequeue]
  obtain ⟨c₀, dma, events, c, hcreate, hsession, hview⟩ :=
    exists_session_of_hostedRecord (fun _ _ => True)
      (show hostedRecord (fun _ _ => True) operations (fun events c =>
        (CaptureQueue.handedIn events,
          (CaptureQueue.handedBack events).map fun frame =>
            (frame.index, frame.state, frame.sequence),
          c.stream)) =
        some ([0, 1, 2, 0], [(0, .done, 0), (1, .error, 0), (2, .done, 1)], [0]) by decide +kernel)
  exact ⟨c₀, dma, events, c, hcreate, hsession, hview, delivered_of_session hcreate hsession⟩

end Channel

end VideoCapture
