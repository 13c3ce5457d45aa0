import VideoCapture.Proofs.Queue.Operations
import VideoCapture.Proofs.Queue.Session

/-!
# The order of the stream

The stream of a queue always consists of four parts: buffers that are finished, those in the chain,
those that wait, and those that have not found their place yet. The parts follow each other in this
order, every buffer is in the stage of its part, and no buffer outside is in flight. Operations move
buffers from one part to another, always at the border of the two, so the order of the stream never
changes while the stages do.

## Main definitions

* `VideoCapture.CaptureQueue.Placed` — the four parts of the stream.
* `VideoCapture.CaptureQueue.Settled` — the parts as they are between two operations.
* `VideoCapture.CaptureQueue.Arranged` — what this means to a user of the queue.

## Main results

* `VideoCapture.CaptureQueue.Placed.restage` — how buffers move between the parts.
* `VideoCapture.Channel.keeping_settled` — no operation breaks the parts.
* `VideoCapture.Channel.arranged_of_reaches` — the stream of every reachable queue is arranged.
-/

set_option autoImplicit false

namespace VideoCapture

namespace CaptureQueue

/-! ## The parts of the stream -/

/-- The stream consists of finished buffers, running ones, waiting ones and ready ones, and no other
buffer is in flight. -/
structure Placed (q : CaptureQueue) (finished running waiting ready : List Nat) : Prop where
  /-- The parts follow each other. -/
  stream : q.stream = finished ++ (running ++ (waiting ++ ready))
  /-- No buffer is handed in twice. -/
  nodup : q.stream.Nodup
  /-- The finished ones are done or in error. -/
  done : ∀ i ∈ finished, ∃ s, q.stateOf i = some s ∧ s.finished = true
  /-- The running ones are active. -/
  active : ∀ i ∈ running, q.stateOf i = some .active
  /-- The waiting ones are queued. -/
  queued : ∀ i ∈ waiting, q.stateOf i = some .queued
  /-- The ready ones are prepared. -/
  prepared : ∀ i ∈ ready, q.stateOf i = some .prepared
  /-- What is in flight is running or waiting. -/
  inFlight : ∀ i s, q.stateOf i = some s → s.inFlight = true → i ∈ running ∨ i ∈ waiting

/-- **Buffers move between the parts.** When the buffers of a chain take on one stage and all others
keep theirs, the stream may be parted anew so that the chain is where its stage belongs, and the
others are where they were. -/
theorem Placed.restage {q q' : CaptureQueue} {f r w p f' r' w' p' : List Nat}
    (chain : List Nat) (s : BufferState) (h : q.Placed f r w p) (hstream : q'.stream = q.stream)
    (hchain : ∀ i ∈ chain, q'.stateOf i = some s)
    (hothers : ∀ i, i ∉ chain → q'.stateOf i = q.stateOf i)
    (hparts : f' ++ (r' ++ (w' ++ p')) = f ++ (r ++ (w ++ p)))
    (hf : ∀ i ∈ f', i ∈ chain ∧ s.finished = true ∨ i ∉ chain ∧ i ∈ f)
    (hr : ∀ i ∈ r', i ∈ chain ∧ s = .active ∨ i ∉ chain ∧ i ∈ r)
    (hw : ∀ i ∈ w', i ∈ chain ∧ s = .queued ∨ i ∉ chain ∧ i ∈ w)
    (hp : ∀ i ∈ p', i ∉ chain ∧ i ∈ p)
    (hflight : ∀ i, i ∈ r ∨ i ∈ w → i ∉ chain → i ∈ r' ∨ i ∈ w')
    (hs : s.inFlight = true → ∀ i ∈ chain, i ∈ r' ∨ i ∈ w') : q'.Placed f' r' w' p' where
  stream := by rw [hstream, h.stream, hparts]
  nodup := hstream ▸ h.nodup
  done i hi := by
    obtain ⟨hmem, hfinished⟩ | ⟨hmem, hi⟩ := hf i hi
    · exact ⟨s, hchain i hmem, hfinished⟩
    · rw [hothers i hmem]
      exact h.done i hi
  active i hi := by
    obtain ⟨hmem, rfl⟩ | ⟨hmem, hi⟩ := hr i hi
    · exact hchain i hmem
    · exact (hothers i hmem).trans (h.active i hi)
  queued i hi := by
    obtain ⟨hmem, rfl⟩ | ⟨hmem, hi⟩ := hw i hi
    · exact hchain i hmem
    · exact (hothers i hmem).trans (h.queued i hi)
  prepared i hi := by
    obtain ⟨hmem, hi⟩ := hp i hi
    exact (hothers i hmem).trans (h.prepared i hi)
  inFlight i t ht hflying := by
    by_cases hmem : i ∈ chain
    · rw [hchain i hmem, Option.some.injEq] at ht
      exact hs (ht ▸ hflying) i hmem
    · rw [hothers i hmem] at ht
      exact hflight i (h.inFlight i t ht hflying) hmem

/-- What neither the stream nor the stages depend on may change. -/
lemma Placed.congr {q q' : CaptureQueue} {f r w p : List Nat} (h : q.Placed f r w p)
    (hstream : q'.stream = q.stream) (hstate : ∀ i, q'.stateOf i = q.stateOf i) :
    q'.Placed f r w p :=
  ⟨by rw [hstream, h.stream], hstream ▸ h.nodup, by simpa only [hstate] using h.done,
    by simpa only [hstate] using h.active, by simpa only [hstate] using h.queued,
    by simpa only [hstate] using h.prepared, by simpa only [hstate] using h.inFlight⟩

/-- Numbered buffers are active. -/
lemma Numbered.stateOf_eq {q q' : CaptureQueue} {position : Nat} {chain : List Nat}
    (h : q.Numbered position chain q') {i : Nat} (hi : i ∈ chain) :
    q'.stateOf i = some .active := by
  obtain ⟨buffer, p, -, hbuffer⟩ := h.changed i hi
  rw [stateOf, hbuffer]
  rfl

/-- Buffers given up are in error. -/
lemma Failed.stateOf_eq {q q' : CaptureQueue} {chain : List Nat} (h : q.Failed chain q') {i : Nat}
    (hi : i ∈ chain) : q'.stateOf i = some .error := by
  obtain ⟨buffer, -, hbuffer⟩ := h.changed i hi
  rw [stateOf, hbuffer]
  rfl

end CaptureQueue

namespace Channel

variable {δ : Type} {c c' : Channel δ} {now : Int} {f r w p p' : List Nat}

/-! ## Starting the engine -/

/-- Starting the engine makes the buffers of the chain active, and no other changes its stage. -/
lemma stages_of_startHead (h : c.startHead now = .ok c') :
    c'.stream = c.stream ∧ c'.active = c.active ∧ c'.queued = c.queued ∧
      c'.streaming = c.streaming ∧ (∀ i ∈ c.active, c'.stateOf i = some .active) ∧
      ∀ i, i ∉ c.active → c'.stateOf i = c.stateOf i := by
  obtain ⟨hnil, rfl⟩ | ⟨head, rest, q, setup, engine, regs, -, hq, -, -, rfl⟩ := startHead_cases h
  · exact ⟨rfl, rfl, rfl, rfl, by simp [hnil], fun _ _ => rfl⟩
  · have hrest := hq.rest
    refine ⟨by rw [hrest], by rw [hrest], by rw [hrest], by rw [hrest], fun i hi => ?_,
      fun i hi => ?_⟩
    · exact hq.stateOf_eq hi
    · exact congrArg (Option.map CaptureBuffer.state) (hq.others i hi)

/-- Buffers that wait or are ready may have been made the chain before the engine is started. -/
lemma placed_of_startHead (h : c.startHead now = .ok c') (hplaced : c.Placed f r w p)
    (hparts : c.active ++ (c.queued ++ p') = r ++ (w ++ p)) (hqueued : ∀ i ∈ c.queued, i ∈ w)
    (hready : ∀ i ∈ p', i ∈ p) (hchain : ∀ i ∈ r, i ∈ c.active)
    (hwait : ∀ i ∈ w, i ∈ c.active ∨ i ∈ c.queued) :
    c'.Placed f c'.active c'.queued p' ∧ c'.streaming = c.streaming := by
  obtain ⟨hstream, hactive, hqueue, hstreaming, hstage, hothers⟩ := stages_of_startHead h
  have hnodup := hplaced.nodup
  rw [hplaced.stream, ← hparts] at hnodup
  refine ⟨?_, hstreaming⟩
  rw [hactive, hqueue]
  refine hplaced.restage c.active .active hstream hstage hothers (by rw [hparts]) ?_ ?_ ?_ ?_ ?_ ?_
  all_goals grind

/-- Starting the engine anew keeps the parts of the stream. -/
lemma placed_of_restart (h : c.restart now = .ok c') (hplaced : c.Placed f c.active c.queued p) :
    c'.Placed f c'.active c'.queued p ∧ c'.streaming = c.streaming := by
  obtain ⟨-, hstart⟩ | ⟨q, hnil, hpromote, hstart⟩ := restart_cases h
  · exact placed_of_startHead hstart hplaced rfl (fun _ => id) (fun _ => id) (fun _ => id)
      fun _ => .inr
  · obtain ⟨taken, hq⟩ := CaptureQueue.promoted_of_promote hpromote
    have hactive : q.active = taken := by rw [hq.rest, hnil]; rfl
    have hstreaming : q.streaming = c.streaming := by rw [hq.rest]
    rw [hnil] at hplaced
    have hplaced' : q.Placed f [] c.queued p := hplaced.congr (by rw [hq.rest]) hq.states
    rw [← hstreaming]
    refine placed_of_startHead hstart hplaced' ?_ ?_ (fun _ => id) (by simp) ?_
    · rw [hactive, hq.split, List.nil_append, List.append_assoc]
    · rw [hq.split]
      exact fun i hi => List.mem_append_right _ hi
    · rw [hq.split, hactive]
      exact fun i hi => List.mem_append.mp hi

/-! ## Finding a place -/

/-- **A ready buffer finds its place** behind the chain or behind those that wait.

**Proof sketch.** It is appended to those that wait, it becomes the chain, or it is appended to the
chain. The other buffers keep their stages, and pointing tails does not show in any. -/
theorem placed_of_place {i : Nat} (h : c.place now i = .ok c')
    (hplaced : c.Placed f c.active c.queued (i :: p)) :
    c'.Placed f c'.active c'.queued p ∧ c'.streaming = c.streaming := by
  obtain ⟨⟨setup, hsetup⟩, hcase⟩ := place_cases h
  have hlength : i < c.buffers.length :=
    CaptureQueue.lt_length_of_stateOf (hplaced.prepared i List.mem_cons_self)
  -- pointing the tail at the stopper does not show in the stages
  have hpointed : (c.pointTail i c.stopper.address).Placed f c.active c.queued (i :: p) :=
    hplaced.congr rfl fun j => CaptureQueue.stateOf_pointTail _ i j _
  have hlength' : i < (c.pointTail i c.stopper.address).buffers.length :=
    CaptureQueue.lt_length_of_stateOf (hpointed.prepared i List.mem_cons_self)
  have hnodup := hplaced.nodup
  rw [hplaced.stream] at hnodup
  dsimp only at hcase
  obtain ⟨-, rfl⟩ | ⟨hqueued, -, hactive, hstart⟩ |
    ⟨previous, spliced, hqueued, -, -, -, hsplice, rfl⟩ := hcase
  · refine ⟨?_, rfl⟩
    show CaptureQueue.Placed _ f c.active (c.queued ++ [i]) p
    refine hpointed.restage [i] .queued rfl ?_ ?_ (by simp) ?_ ?_ ?_ ?_ ?_ ?_
    · intro j hj
      obtain rfl := List.mem_singleton.mp hj
      exact CaptureQueue.stateOf_modify_self _ j _ hlength' fun _ => rfl
    · intro j hj
      exact CaptureQueue.stateOf_modify_ne _ i j _ fun heq => hj (by simp [heq])
    all_goals grind
  · have hparts : [i] ++ (c.queued ++ p) = c.active ++ (c.queued ++ i :: p) := by
      rw [hactive, hqueued]
      rfl
    have hstarted := placed_of_startHead hstart (hpointed.congr rfl fun _ => rfl) hparts
      (fun _ => id) (fun j hj => List.mem_cons_of_mem i hj) (by simp [hactive]) (fun _ => .inr)
    exact hstarted
  · obtain ⟨-, -, target, -, -, rfl⟩ := CaptureQueue.splice_eq_ok.mp hsplice
    refine ⟨?_, rfl⟩
    show CaptureQueue.Placed _ f (c.active ++ [i]) c.queued p
    rw [hqueued] at hpointed hnodup ⊢
    refine hpointed.restage [i] .active rfl ?_ ?_ (by simp) ?_ ?_ ?_ ?_ ?_ ?_
    · intro j hj
      obtain rfl := List.mem_singleton.mp hj
      refine (CaptureQueue.stateOf_pointTail _ _ _ _).trans ?_
      exact CaptureQueue.stateOf_modify_self _ j _ hlength' fun _ => rfl
    · intro j hj
      refine (CaptureQueue.stateOf_pointTail _ _ _ _).trans ?_
      exact CaptureQueue.stateOf_modify_ne _ i j _ fun heq => hj (by simp [heq])
    all_goals grind

/-- **Induction over the buffers that find their place when capture starts.** A property that the
step from a ready buffer to the next keeps holds once all have found their place.

**Proof sketch.** Along the ready buffers. Each is prepared as long as it has no place, so it finds
one, and placing it keeps the others ready (`placed_of_place`). -/
theorem placeAll_induct {P : Channel δ → Prop}
    (hstep : ∀ c c' : Channel δ, ∀ i p, c.Placed f c.active c.queued (i :: p) → P c →
      c.place now i = .ok c' → P c') {ready : List Nat}
    (h : c.placeAll now ready = .ok c') (hplaced : c.Placed f c.active c.queued ready) (hP : P c) :
    c'.Placed f c'.active c'.queued [] ∧ P c' := by
  induction ready generalizing c with
  | nil =>
    obtain rfl : c = c' := pure_eq_ok.mp h
    exact ⟨hplaced, hP⟩
  | cons i ready ih =>
    simp only [placeAll, bind_eq_ok, CaptureQueue.resident_eq_ok] at h
    obtain ⟨buffer, hbuffer, h⟩ := h
    have hprepared : buffer.state = .prepared := by
      have hstate := hplaced.prepared i List.mem_cons_self
      rwa [CaptureQueue.stateOf_of_getElem? hbuffer, Option.some.injEq] at hstate
    simp only [hprepared, if_true, bind_eq_ok] at h
    obtain ⟨c₁, hplace, hrest⟩ := h
    exact ih hrest (placed_of_place hplace hplaced).1 (hstep c c₁ i ready hplaced hP hplace)

/-! ## Leaving the chain -/

/-- The head of the chain becomes the last of the finished. -/
lemma placed_of_completeHead {q : CaptureQueue} (h : c.completeHead now = .ok q)
    (hplaced : c.Placed f c.active c.queued p) :
    ∃ f', q.Placed f' q.active q.queued p ∧ q.streaming = c.streaming := by
  obtain ⟨hnil, rfl⟩ | ⟨head, rest, setup, hactive, -, rfl⟩ :=
    CaptureQueue.completeHead_cases h
  · exact ⟨f, hplaced, rfl⟩
  · rw [hactive] at hplaced
    have hlength : head < c.buffers.length :=
      CaptureQueue.lt_length_of_stateOf (hplaced.active head List.mem_cons_self)
    have hnodup := hplaced.nodup
    rw [hplaced.stream] at hnodup
    clear h
    refine ⟨f ++ [head], ?_, rfl⟩
    show CaptureQueue.Placed _ (f ++ [head]) rest c.queued p
    refine hplaced.restage [head] .done rfl ?_ ?_ (by simp) ?_ ?_ ?_ ?_ ?_ ?_
    · intro j hj
      obtain rfl := List.mem_singleton.mp hj
      exact CaptureQueue.stateOf_modify_self _ j _ hlength fun _ => rfl
    · intro j hj
      exact CaptureQueue.stateOf_modify_ne _ head j _ fun heq => hj (by simp [heq])
    all_goals grind [BufferState.finished, BufferState.inFlight]

/-- A chain that is given up is finished. -/
lemma placed_of_failed {q q' : CaptureQueue} {chain : List Nat} (h : q.Failed chain q')
    (hplaced : q.Placed f chain w p) : q'.Placed (f ++ chain) [] w p := by
  have hnodup := hplaced.nodup
  rw [hplaced.stream] at hnodup
  refine hplaced.restage chain .error (by rw [h.rest]) (fun i => h.stateOf_eq)
    (fun i hi => congrArg (Option.map CaptureBuffer.state) (h.others i hi)) (by simp) ?_ ?_ ?_ ?_
    ?_ ?_
  all_goals grind [BufferState.finished, BufferState.inFlight]

end Channel

namespace CaptureQueue

/-! ## Entering and leaving the stream -/

/-- Without a stream nothing may be in flight. -/
lemma placed_nil {q : CaptureQueue} (hstream : q.stream = [])
    (hidle : ∀ buffer ∈ q.buffers, buffer.state.inFlight = false) : q.Placed [] [] [] [] where
  stream := hstream
  nodup := by rw [hstream]; exact List.nodup_nil
  done := by simp
  active := by simp
  queued := by simp
  prepared := by simp
  inFlight i s hs hflying := by
    obtain ⟨buffer, hbuffer, rfl⟩ := Option.map_eq_some_iff.mp hs
    rw [hidle buffer (List.mem_of_getElem? hbuffer)] at hflying
    cases hflying

variable {q : CaptureQueue} {i : Nat} {f r w p : List Nat}

/-- A buffer that is handed in is the last of the ready ones. -/
lemma Placed.append (h : q.Placed f r w p) (hi : i ∉ q.stream)
    (hstate : q.stateOf i = some .prepared) :
    { q with stream := q.stream ++ [i] }.Placed f r w (p ++ [i]) where
  stream := by simp only [h.stream, List.append_assoc]
  nodup := by
    have hnodup := h.nodup
    show (q.stream ++ [i]).Nodup
    grind
  done := h.done
  active := h.active
  queued := h.queued
  prepared j hj := by
    obtain hj | hj := List.mem_append.mp hj
    · exact h.prepared j hj
    · obtain rfl := List.mem_singleton.mp hj
      exact hstate
  inFlight := h.inFlight

/-- The oldest buffer, if it is finished, may be handed back.

**Proof sketch.** The finished buffers come first, so that it is one of them: any buffer behind them
is not finished. -/
lemma Placed.take {rest : List Nat} {s : BufferState} (h : q.Placed f r w p)
    (hstream : q.stream = i :: rest) (hstate : q.stateOf i = some s) (hs : s.finished = true) :
    ∃ f', { q with stream := rest }.Placed f' r w p := by
  have hparts := h.stream.symm.trans hstream
  cases f with
  | nil =>
    -- a buffer of the other three parts is not finished
    exfalso
    have hmem : i ∈ r ++ (w ++ p) := by
      rw [List.nil_append] at hparts
      rw [hparts]
      exact List.mem_cons_self
    obtain hr | hw | hp : i ∈ r ∨ i ∈ w ∨ i ∈ p := by simpa using hmem
    · obtain rfl := Option.some.inj ((h.active i hr).symm.trans hstate)
      cases hs
    · obtain rfl := Option.some.inj ((h.queued i hw).symm.trans hstate)
      cases hs
    · obtain rfl := Option.some.inj ((h.prepared i hp).symm.trans hstate)
      cases hs
  | cons j f =>
    obtain ⟨rfl, hrest⟩ := List.cons.inj hparts
    have hnodup := h.nodup
    rw [hstream] at hnodup
    exact ⟨f, hrest.symm, (List.nodup_cons.mp hnodup).2,
      fun k hk => h.done k (List.mem_cons_of_mem _ hk), h.active, h.queued, h.prepared,
      h.inFlight⟩

/-- A buffer outside the stream may change as long as it does not come in flight. -/
lemma Placed.set {buffer : CaptureBuffer} (h : q.Placed f r w p) (hi : i ∉ q.stream)
    (hlength : i < q.buffers.length) (hidle : buffer.state.inFlight = false) :
    { q with buffers := q.buffers.set i buffer }.Placed f r w p := by
  rw [h.stream] at hi
  refine h.restage [i] buffer.state rfl ?_ ?_ rfl ?_ ?_ ?_ ?_ ?_ ?_
  · intro j hj
    obtain rfl := List.mem_singleton.mp hj
    rw [stateOf, List.getElem?_set_self hlength]
    rfl
  · intro j hj
    rw [stateOf, List.getElem?_set_ne (fun heq => hj (by simp [heq])), stateOf]
  all_goals grind

/-! ## Between two operations -/

/-- Between two operations every buffer in the stream has its place. While capture is on none is
just ready, and while it is off all are. -/
structure Settled (q : CaptureQueue) : Prop where
  /-- While capture is on. -/
  on : q.streaming = true → ∃ finished, q.Placed finished q.active q.queued []
  /-- While capture is off. -/
  off : q.streaming = false → q.active = [] ∧ q.queued = [] ∧ q.Placed [] [] [] q.stream

/-- Capture is on, and every buffer has its place. -/
lemma Placed.settled (h : q.Placed f q.active q.queued []) (hstreaming : q.streaming = true) :
    q.Settled :=
  ⟨fun _ => ⟨f, h⟩, fun hoff => by rw [hstreaming] at hoff; cases hoff⟩

/-- A queue that has nothing in flight and nothing handed in is settled when capture is off. -/
lemma settled_of_idle (hstreaming : q.streaming = false) (hstream : q.stream = [])
    (hactive : q.active = []) (hqueued : q.queued = [])
    (hidle : ∀ buffer ∈ q.buffers, buffer.state.inFlight = false) : q.Settled where
  on hon := by rw [hstreaming] at hon; cases hon
  off _ := ⟨hactive, hqueued, hstream ▸ placed_nil hstream hidle⟩

/-- A queue with a chain is capturing. -/
lemma Settled.streaming_eq (h : q.Settled) (hactive : q.active ≠ []) : q.streaming = true :=
  eq_true_of_ne_false fun hoff => hactive (h.off hoff).1

/-- A buffer of the chain is active. -/
lemma Settled.stateOf_eq (h : q.Settled) (hi : i ∈ q.active) : q.stateOf i = some .active := by
  obtain ⟨f, hf⟩ := h.on (h.streaming_eq (List.ne_nil_of_mem hi))
  exact hf.active i hi

/-- What runs or waits is a part of the stream. -/
lemma Settled.length_le (h : q.Settled) :
    q.active.length + q.queued.length ≤ q.stream.length := by
  cases hstreaming : q.streaming with
  | false =>
    obtain ⟨hactive, hqueued, -⟩ := h.off hstreaming
    rw [hactive, hqueued]
    exact Nat.zero_le _
  | true =>
    obtain ⟨finished, hplaced⟩ := h.on hstreaming
    rw [hplaced.stream]
    simp only [List.length_append]
    omega

/-- What neither the stream nor the stages depend on may change between two operations. -/
lemma Settled.congr {q' : CaptureQueue} (h : q.Settled) (hbuffers : q'.buffers = q.buffers)
    (hstream : q'.stream = q.stream) (hactive : q'.active = q.active)
    (hqueued : q'.queued = q.queued) (hstreaming : q'.streaming = q.streaming) : q'.Settled where
  on hon := by
    obtain ⟨f, hf⟩ := h.on (hstreaming ▸ hon)
    rw [hactive, hqueued]
    exact ⟨f, hf.congr hstream fun i => by rw [stateOf, hbuffers, stateOf]⟩
  off hoff := by
    obtain ⟨hnil, hnil', hp⟩ := h.off (hstreaming ▸ hoff)
    rw [hactive, hqueued, hstream]
    exact ⟨hnil, hnil', hp.congr hstream fun i => by rw [stateOf, hbuffers, stateOf]⟩

end CaptureQueue

namespace Channel

variable {δ : Type} {c c' : Channel δ} {now : Int} {f : List Nat}

/-! ## Operations keep the places -/

/-- Starting the engine anew settles a queue that captures. -/
lemma settled_of_restart (h : c.restart now = .ok c') (hplaced : c.Placed f c.active c.queued [])
    (hstreaming : c.streaming = true) : c'.Settled := by
  obtain ⟨hplaced', hstreaming'⟩ := placed_of_restart h hplaced
  exact hplaced'.settled (hstreaming'.trans hstreaming)

/-- Handing a buffer in keeps the places. -/
lemma settled_of_enqueue {i : Nat} {result : Except Error Unit} (hc : c.Settled)
    (h : c.enqueue now i = .ok (result, c')) : c'.Settled := by
  obtain ⟨_, -, rfl⟩ | ⟨-, hi, hstate, ⟨hon, hplace⟩ | ⟨hoff, rfl⟩⟩ := enqueue_cases h
  · exact hc
  · obtain ⟨f, hplaced⟩ := hc.on hon
    obtain ⟨hplaced', hstreaming⟩ := placed_of_place hplace (hplaced.append hi hstate)
    exact hplaced'.settled (hstreaming.trans hon)
  · obtain ⟨hactive, hqueued, hplaced⟩ := hc.off hoff
    refine ⟨fun hon => ?_, fun _ => ⟨hactive, hqueued, hplaced.append hi hstate⟩⟩
    cases hoff.symm.trans hon

/-- Taking a buffer back keeps the places. -/
lemma settled_of_dequeue {result : Except Error Frame} (hc : c.Settled)
    (h : c.dequeue = .ok (result, c')) : c'.Settled := by
  obtain ⟨_, -, rfl⟩ | ⟨i, rest, buffer, _, hstream, hbuffer, hfinished, -, -, rfl⟩ :=
    dequeue_cases h
  · exact hc
  · have hstate := CaptureQueue.stateOf_of_getElem? hbuffer
    by_cases hon : c.streaming = true
    · obtain ⟨f, hplaced⟩ := hc.on hon
      obtain ⟨f', hplaced'⟩ := hplaced.take hstream hstate hfinished
      exact hplaced'.settled hon
    · -- while capture is off the buffers in the stream are prepared
      obtain ⟨-, -, hplaced⟩ := hc.off (eq_false_of_ne_true hon)
      have hprepared := hplaced.prepared i (hstream ▸ List.mem_cons_self)
      rw [hstate, Option.some.injEq] at hprepared
      rw [hprepared] at hfinished
      cases hfinished

/-- Starting or resuming capture keeps the places. -/
lemma settled_of_streamOn {result : Except Error Unit} (hc : c.Settled)
    (h : c.streamOn now = .ok (result, c')) : c'.Settled := by
  obtain ⟨-, -, -, rfl⟩ | ⟨hon, -, -, hrestart⟩ | ⟨hoff, -, hplace⟩ := streamOn_cases h
  · exact hc
  · obtain ⟨f, hplaced⟩ := hc.on hon
    exact settled_of_restart hrestart (hplaced.congr rfl fun _ => rfl) hon
  · obtain ⟨hactive, hqueued, hplaced⟩ := hc.off hoff
    have hready : CaptureQueue.Placed { c.toCaptureQueue with fault := none, streaming := true } []
        c.active c.queued c.stream := by
      rw [hactive, hqueued]
      exact hplaced.congr rfl fun _ => rfl
    obtain ⟨hplaced', hon⟩ := placeAll_induct (P := fun c => c.streaming = true)
      (fun _ _ _ _ hp hon hplace => (placed_of_place hplace hp).2.trans hon) hplace hready rfl
    exact hplaced'.settled hon

/-- A fault keeps the places. -/
lemma settled_of_failStop {fault : UInt32} (h : c.failStop fault = .ok c')
    (hplaced : c.Placed f c.active c.queued []) (hon : c.streaming = true) : c'.Settled := by
  obtain ⟨q, backlog, hfailed, rfl⟩ := failStop_cases h
  have hplaced' := placed_of_failed hfailed (hplaced.congr rfl fun _ => rfl)
  have hrest := hfailed.rest
  have hactive : q.active = [] := by rw [hrest]
  have hqueued : q.queued = c.queued := by rw [hrest]; rfl
  have hstreaming : q.streaming = c.streaming := by rw [hrest]; rfl
  refine CaptureQueue.Placed.settled (f := f ++ c.active) ?_ (hstreaming.trans hon)
  rw [← hqueued] at hplaced'
  show CaptureQueue.Placed _ _ q.active q.queued []
  rw [hactive]
  exact hplaced'.congr rfl fun _ => rfl

/-- A program's interrupt keeps the places. -/
lemma settled_of_handleCompletion (h : c.handleCompletion now = .ok c')
    (hplaced : c.Placed f c.active c.queued []) (hon : c.streaming = true) : c'.Settled := by
  obtain ⟨-, rfl⟩ | ⟨q, -, hcomplete, hcase⟩ := handleCompletion_cases h
  · exact hplaced.settled hon
  · obtain ⟨f', hq, hstreaming⟩ := placed_of_completeHead hcomplete hplaced
    obtain ⟨-, hpark⟩ | ⟨-, rfl⟩ := hcase
    · obtain ⟨-, -, rfl⟩ | ⟨-, hrestart⟩ := park_cases hpark
      · exact (hq.settled (hstreaming.trans hon)).congr rfl rfl rfl rfl rfl
      · exact settled_of_restart hrestart (hq.congr rfl fun _ => rfl) (hstreaming.trans hon)
    · exact hq.settled (hstreaming.trans hon)

/-- Interrupt status keeps the places. -/
lemma settled_of_handleStatus {status : UInt32} {mine : Bool} (hc : c.Settled)
    (h : c.handleStatus now status = .ok (mine, c')) : c'.Settled := by
  obtain ⟨-, -, rfl⟩ | ⟨-, -, ⟨-, rfl⟩ | ⟨hon, -, hfail⟩ | ⟨hon, -, hcompletion⟩⟩ :=
    handleStatus_cases h
  · exact hc
  · exact hc
  · obtain ⟨f, hplaced⟩ := hc.on hon
    exact settled_of_failStop hfail hplaced hon
  · obtain ⟨f, hplaced⟩ := hc.on hon
    exact settled_of_handleCompletion hcompletion hplaced hon

/-- Recovering from a stall keeps the places. -/
lemma settled_of_checkTimeout {stalled : Bool} (hc : c.Settled)
    (h : c.checkTimeout now = .ok (stalled, c')) : c'.Settled := by
  obtain ⟨-, rfl, -⟩ | ⟨-, -, rfl⟩ | ⟨-, hactive, q, hfailed, hrestart⟩ := checkTimeout_cases h
  · exact hc
  · exact hc.congr rfl rfl rfl rfl rfl
  · have hon : c.streaming = true := hc.streaming_eq hactive
    obtain ⟨f, hplaced⟩ := hc.on hon
    have hrest := hfailed.rest
    have hnil : q.active = [] := by rw [hrest]
    have hqueued : q.queued = c.queued := by rw [hrest]; rfl
    have hstreaming : q.streaming = c.streaming := by rw [hrest]; rfl
    have hplaced' : q.Placed (f ++ c.active) q.active q.queued [] := by
      rw [hnil, hqueued]
      exact placed_of_failed hfailed (hplaced.congr rfl fun _ => rfl)
    exact settled_of_restart hrestart (hplaced'.congr rfl fun _ => rfl) (hstreaming.trans hon)

variable [DmaBackend δ]

/-- Replacing the buffers keeps the places. -/
lemma settled_of_requestBuffers {count capacity : Nat} {result : Except Error Nat} (hc : c.Settled)
    (h : c.requestBuffers count capacity = .ok (result, c')) : c'.Settled := by
  obtain ⟨-, -, rfl⟩ | ⟨hoff, released, dma, -, -, rfl⟩ := requestBuffers_cases h
  · exact hc
  · obtain ⟨hactive, hqueued, -⟩ := hc.off hoff
    refine CaptureQueue.settled_of_idle hoff rfl hactive hqueued fun buffer hbuffer => ?_
    rw [(List.mem_replicate.mp hbuffer).2]
    rfl

/-- Preparing a buffer keeps the places. -/
lemma settled_of_prepare {i : Nat} {geometry : Geometry} {norm : Norm} {result : Except Error Unit}
    (hc : c.Settled) (h : c.prepare i geometry norm = .ok (result, c')) : c'.Settled := by
  obtain ⟨_, -, rfl⟩ | ⟨buffer, buffer', dma, hi, hbuffer, -, hprepare, rfl⟩ := prepare_cases h
  · exact hc
  · have hlength : i < c.buffers.length := (List.getElem?_eq_some_iff.mp hbuffer).1
    have hidle : buffer'.state.inFlight = false := by
      obtain hstate | hstate := CaptureBuffer.state_of_prepare hprepare <;> rw [hstate] <;> rfl
    refine ⟨fun hon => ?_, fun hoff => ?_⟩
    · obtain ⟨f, hplaced⟩ := hc.on hon
      exact ⟨f, hplaced.set hi hlength hidle⟩
    · obtain ⟨hactive, hqueued, hplaced⟩ := hc.off hoff
      exact ⟨hactive, hqueued, hplaced.set hi hlength hidle⟩

/-- Stopping capture keeps the places. -/
lemma settled_of_streamOff {result : Except Error Unit} (hc : c.Settled)
    (h : c.streamOff = .ok (result, c')) : c'.Settled := by
  obtain ⟨-, -, rfl⟩ | ⟨-, -, buffers, dma, hrelease, rfl⟩ := streamOff_cases h
  · exact hc
  · obtain ⟨rfl, -⟩ := released_of_releaseAll hrelease
    refine CaptureQueue.settled_of_idle rfl rfl rfl rfl fun buffer hbuffer => ?_
    obtain ⟨_, -, rfl⟩ := List.mem_map.mp hbuffer
    rfl

/-- **No operation breaks the places of the buffers.** -/
theorem keeping_settled : Keeping fun c : Channel δ => c.Settled where
  request := settled_of_requestBuffers
  prepare := settled_of_prepare
  enqueue := settled_of_enqueue
  dequeue := settled_of_dequeue
  streamOn := settled_of_streamOn
  streamOff := settled_of_streamOff
  status := settled_of_handleStatus
  timeout := settled_of_checkTimeout
  maskAll hc := hc.congr rfl rfl rfl rfl rfl
  report _ hc := hc.congr rfl rfl rfl rfl rfl

/-- A new queue is settled. -/
lemma settled_of_create {regs : RegisterFile} {dma dma' : δ} {config : Config}
    (h : create regs dma config = (.ok c, dma')) : c.Settled := by
  obtain ⟨stopper, -, rfl⟩ := create_eq_ok h
  exact CaptureQueue.settled_of_idle rfl rfl rfl rfl (by simp)

/-- The queue of every session is settled between its operations. -/
theorem settled_of_reaches {regs : RegisterFile} {dma dma' : δ} {config : Config} {c₀ : Channel δ}
    (hcreate : create regs dma config = (.ok c₀, dma')) (h : c₀.Reaches c) : c.Settled :=
  keeping_settled.of_reaches (fun _ _ hc => hc.congr rfl rfl rfl rfl rfl)
    (settled_of_create hcreate) h

end Channel

namespace CaptureQueue

/-! ## The arrangement of the stream -/

/-- How the stream of a queue is arranged. -/
structure Arranged (q : CaptureQueue) : Prop where
  /-- No buffer is in the stream twice. -/
  distinct : q.stream.Nodup
  /-- The buffers in the stream exist. -/
  resident : ∀ i ∈ q.stream, i < q.buffers.length
  /-- While capture is on, the stream consists of finished buffers, the chain, and those that wait
  for it, in this order. -/
  running : q.streaming = true → ∃ finished,
    q.stream = finished ++ q.active ++ q.queued ∧
    (∀ i ∈ finished, q.stateOf i = some .done ∨ q.stateOf i = some .error) ∧
    (∀ i ∈ q.active, q.stateOf i = some .active) ∧
    (∀ i ∈ q.queued, q.stateOf i = some .queued)
  /-- While it is off there is no chain, and the stream consists of prepared buffers. -/
  stopped : q.streaming = false →
    q.active = [] ∧ q.queued = [] ∧ ∀ i ∈ q.stream, q.stateOf i = some .prepared
  /-- What is active or queued is in the chain or waits for it. -/
  inFlight : ∀ i, q.stateOf i = some .active ∨ q.stateOf i = some .queued →
    i ∈ q.active ∨ i ∈ q.queued

/-- The buffers of the four parts exist. -/
lemma Placed.lt_length {q : CaptureQueue} {f r w p : List Nat} (h : q.Placed f r w p) {i : Nat}
    (hi : i ∈ q.stream) : i < q.buffers.length := by
  rw [h.stream] at hi
  obtain hf | hr | hw | hp : i ∈ f ∨ i ∈ r ∨ i ∈ w ∨ i ∈ p := by simpa using hi
  · obtain ⟨s, hs, -⟩ := h.done i hf
    exact lt_length_of_stateOf hs
  · exact lt_length_of_stateOf (h.active i hr)
  · exact lt_length_of_stateOf (h.queued i hw)
  · exact lt_length_of_stateOf (h.prepared i hp)

/-- A settled queue is arranged. -/
lemma Settled.arranged {q : CaptureQueue} (h : q.Settled) : q.Arranged := by
  by_cases hon : q.streaming = true
  · obtain ⟨f, hf⟩ := h.on hon
    refine ⟨hf.nodup, fun i => hf.lt_length, fun _ => ⟨f, ?_, fun i hi => ?_, hf.active,
      hf.queued⟩, fun hoff => ?_, fun i hi => ?_⟩
    · rw [hf.stream, List.append_nil, List.append_assoc]
    · obtain ⟨s, hs, hfinished⟩ := hf.done i hi
      rw [hs]
      cases s <;> simp [BufferState.finished] at hfinished ⊢
    · cases hoff.symm.trans hon
    · obtain hi | hi := hi <;> exact hf.inFlight i _ hi rfl
  · obtain ⟨hactive, hqueued, hp⟩ := h.off (eq_false_of_ne_true hon)
    refine ⟨hp.nodup, fun i => hp.lt_length, fun hyes => absurd hyes hon,
      fun _ => ⟨hactive, hqueued, hp.prepared⟩, fun i hi => ?_⟩
    rw [hactive, hqueued]
    obtain hi | hi := hi <;> exact hp.inFlight i _ hi rfl

end CaptureQueue

namespace Channel

variable {δ : Type} [DmaBackend δ]

/-- **The stream of every reachable queue is arranged**: whatever is done with a queue in whatever
order, and whatever its registers hold meanwhile. -/
theorem arranged_of_reaches {regs : RegisterFile} {dma dma' : δ} {config : Config}
    {c₀ c : Channel δ} (hcreate : create regs dma config = (.ok c₀, dma')) (h : c₀.Reaches c) :
    c.Arranged :=
  (settled_of_reaches hcreate h).arranged

/-- Two buffers make the chain and a third waits, and the stream is arranged. -/
theorem arranged_of_reaches_chained :
    ∃ c₀ dma c, create {} HostDma.create {} = (.ok c₀, dma) ∧ c₀.Reaches c ∧
      (c.stream, c.active, c.queued) = ([0, 1, 2], [0, 1], [2]) ∧ c.Arranged := by
  obtain ⟨c₀, dma, c, hcreate, hreach, hlists⟩ := exists_session_of_viewFrom
    (show viewFrom HostDma.create chainedOperations (fun c => (c.stream, c.active, c.queued)) =
      some ([0, 1, 2], [0, 1], [2]) by decide +kernel)
  exact ⟨c₀, dma, c, hcreate, hreach, hlists, arranged_of_reaches hcreate hreach⟩

end Channel

end VideoCapture
