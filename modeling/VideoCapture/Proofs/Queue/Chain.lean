import VideoCapture.Proofs.Queue.Holdings
import VideoCapture.Proofs.Queue.Links

/-!
# The chain keeps its links

Every operation of a queue leaves the chain linked. That takes all that is known about the queue
between two operations: a buffer that finds its place is neither in the chain nor among those that
wait, so writing its tail breaks no link, and every program reaches to the end of its tail, so a
link that is written can be read back.

## Main definitions

* `VideoCapture.Channel.Sound` — what is known about a queue between two operations.

## Main results

* `VideoCapture.Channel.chained_of_place`, `VideoCapture.Channel.chained_of_restart` — buffers are
  linked when they enter the chain.
* `VideoCapture.Channel.keeping_sound` — no operation breaks the links.
* `VideoCapture.Channel.sound_of_reaches` — the queue of every session is sound.
-/

set_option autoImplicit false

namespace VideoCapture

namespace Channel

variable {δ : Type} {c c' : Channel δ} {now : Int}

/-- Starting the engine counts the chain anew.

**Proof sketch.** Starting leaves tails and lists. The positions are counted from one along the
chain. -/
lemma chained_of_startHead (h : c.startHead now = .ok c') (hlinked : c.Linked c.active c.queued)
    (hnodup : c.active.Nodup) : c'.Chained := by
  obtain ⟨hnil, rfl⟩ | ⟨head, rest, q, setup, engine, regs, -, hq, -, -, rfl⟩ := startHead_cases h
  · refine ⟨hlinked.congr (fun _ _ => rfl) rfl, c.count, ?_⟩
    show c.active.map _ = _ ∧ c.count + c.active.length = c.count
    rw [hnil]
    exact ⟨rfl, rfl⟩
  · have hactive : q.active = c.active := by rw [hq.rest]
    have hqueued : q.queued = c.queued := by rw [hq.rest]
    have hstopper : q.stopper = c.stopper := by rw [hq.rest]
    have hcount : q.count = 1 + c.active.length := by rw [hq.rest]
    refine ⟨?_, 1, ?_⟩
    · show CaptureQueue.Linked _ q.active q.queued
      rw [hactive, hqueued]
      exact hlinked.congr (fun i _ => hq.setupOf_eq i) hstopper
    · show q.active.map q.positionOf = _ ∧ 1 + q.active.length = q.count
      rw [hactive, hcount]
      exact ⟨hq.positions hnodup, rfl⟩

/-- Starting the engine anew links the chain it is started on. -/
theorem chained_of_restart (h : c.restart now = .ok c') (hlinked : c.Linked c.active c.queued)
    (hnodup : (c.active ++ c.queued).Nodup)
    (htails : ∀ i setup, c.setupOf i = some setup → setup.program.HasTail) : c'.Chained := by
  obtain ⟨-, hstart⟩ | ⟨q, hnil, hpromote, hstart⟩ := restart_cases h
  · exact chained_of_startHead hstart hlinked (List.nodup_append.mp hnodup).1
  · obtain ⟨taken, hq⟩ := CaptureQueue.promoted_of_promote hpromote
    have hactive : q.active = taken := by rw [hq.rest, hnil]; rfl
    have hlinked' := CaptureQueue.linked_of_promote hpromote hlinked hnodup htails
    refine chained_of_startHead hstart (hlinked'.congr (fun _ _ => rfl) rfl) ?_
    show q.active.Nodup
    rw [hactive]
    rw [hnil, List.nil_append, hq.split] at hnodup
    exact (List.nodup_append.mp hnodup).1

/-- **A buffer that finds its place is linked**, or its tail jumps to the stopper while it waits.

**Proof sketch.** Its tail jumps to the stopper first, so that it may wait, be a chain of its own,
or become the last of the chain once the tail of the one before it has been linked to it. -/
theorem chained_of_place {i : Nat} {f p : List Nat} (h : c.place now i = .ok c')
    (hplaced : c.Placed f c.active c.queued (i :: p)) (hchained : c.Chained)
    (htails : ∀ i setup, c.setupOf i = some setup → setup.program.HasTail) : c'.Chained := by
  obtain ⟨⟨setup, hsetup⟩, hcase⟩ := place_cases h
  have hnodup := hplaced.nodup
  rw [hplaced.stream] at hnodup
  obtain ⟨hiactive, hiqueued⟩ : i ∉ c.active ∧ i ∉ c.queued := by grind
  -- with its tail at the stopper the buffer may be the last of a chain
  have hpointed : (c.pointTail i c.stopper.address).Chained :=
    hchained.pointTail hiactive hiqueued _
  have hends : (c.pointTail i c.stopper.address).Ends i :=
    CaptureQueue.tailOf_pointTail_self hsetup (htails i setup hsetup) _
  dsimp only at hcase
  obtain ⟨-, rfl⟩ | ⟨hqueued, -, hnil, hstart⟩ |
    ⟨previous, spliced, hqueued, -, hlast, hfits, hsplice, rfl⟩ := hcase
  · exact (hpointed.wait hends).congr (fun _ _ => rfl) (fun _ _ => rfl) rfl rfl rfl rfl
  · have hsingle : (c.pointTail i c.stopper.address).Linked [i] c.queued := by
      refine ⟨.singleton i, fun j hj => ?_, hpointed.linked.waiting, List.pairwise_singleton _ i⟩
      obtain rfl : i = j := by simpa using hj
      exact hends
    have hstarted := chained_of_startHead hstart (hsingle.congr (fun _ _ => rfl) rfl)
      (List.pairwise_singleton _ i)
    exact hstarted
  · obtain ⟨s, t, hs, ht, hchains⟩ := CaptureQueue.compatible_eq_ok.mp hfits
    have hfollows := CaptureQueue.follows_of_setupOf hs ht hchains
    have hspliced := hpointed.splice hsplice hqueued hlast (by show c.active.Nodup; grind)
      hiactive (CaptureQueue.hasTail_pointTail htails _) hends hfollows
    exact hspliced.congr (fun _ _ => rfl) (fun _ _ => rfl) rfl rfl rfl rfl

/-- The chain loses its head when that is done. -/
lemma chained_of_completeHead {q : CaptureQueue} (h : c.completeHead now = .ok q)
    (hchained : c.Chained) : q.Chained := by
  obtain ⟨-, rfl⟩ | ⟨head, rest, setup, hactive, -, rfl⟩ := CaptureQueue.completeHead_cases h
  · exact hchained
  · obtain ⟨first, hpositions, hcount⟩ := hchained.counted
    have hlinked := hchained.linked
    rw [hactive] at hlinked hpositions hcount
    refine ⟨hlinked.tail.congr (fun i _ => CaptureQueue.setupOf_modify _ head i _ fun _ => rfl) rfl,
      first + 1, ?_, ?_⟩
    · rw [List.length_cons, List.range'_succ, List.map_cons, List.map_cons] at hpositions
      refine Eq.trans (List.map_congr_left fun i _ => ?_) (List.cons.inj hpositions).2
      exact CaptureQueue.positionOf_modify _ head i _ fun _ => rfl
    · show first + 1 + rest.length = c.count
      rw [← hcount, List.length_cons, Nat.add_assoc, Nat.add_comm 1]

/-- Without a chain only those that wait are linked. -/
lemma chained_of_failed {q q' : CaptureQueue} {chain waiting : List Nat} (h : q.Failed chain q')
    (hlinked : q.Linked [] waiting) (hactive : q.active = []) (hqueued : q.queued = waiting) :
    q'.Chained := by
  have hactive' : q'.active = [] := by rw [h.rest, hactive]
  have hqueued' : q'.queued = waiting := by rw [h.rest, hqueued]
  refine ⟨?_, q'.count, ?_⟩
  · rw [hactive', hqueued']
    exact hlinked.congr (fun i _ => h.setupOf_eq i) (by rw [h.rest])
  · rw [hactive']
    exact ⟨rfl, rfl⟩

/-! ## Operations keep the links -/

/-- What is known about a queue between two operations: where its buffers have their place, what it
holds in memory, and how its chain is linked. -/
structure Sound [DmaBackend δ] [LawfulDmaBackend δ] (others : List BusRange) (c : Channel δ) :
    Prop where
  /-- Every buffer in the stream has its place. -/
  settled : c.Settled
  /-- The backend accounts for the programs. -/
  stocked : c.Stocked others
  /-- The chain is linked. -/
  chained : c.Chained

section Linking

variable [DmaBackend δ] [LawfulDmaBackend δ] {others : List BusRange}

/-- Handing a buffer in leaves a chain, if it is appended with its link in place and its position
behind all others. -/
lemma chained_of_enqueue {i : Nat} {result : Except Error Unit} (hc : c.Sound others)
    (h : c.enqueue now i = .ok (result, c')) : c'.Chained := by
  obtain ⟨_, -, rfl⟩ | ⟨-, hi, hstate, ⟨hon, hplace⟩ | ⟨-, rfl⟩⟩ := enqueue_cases h
  · exact hc.chained
  · obtain ⟨f, hplaced⟩ := hc.settled.on hon
    refine chained_of_place hplace (hplaced.append hi hstate) ?_ hc.stocked.tails
    exact hc.chained.congr (fun _ _ => rfl) (fun _ _ => rfl) rfl rfl rfl rfl
  · exact hc.chained.congr (fun _ _ => rfl) (fun _ _ => rfl) rfl rfl rfl rfl

/-- What capture starts with, or resumes with, is a chain.

**Proof sketch.** Resuming starts what waited. Starting finds a place for one buffer after the
other, and each leaves links and tails in place for the next. -/
lemma chained_of_streamOn {result : Except Error Unit} (hc : c.Sound others)
    (h : c.streamOn now = .ok (result, c')) : c'.Chained := by
  obtain ⟨-, -, -, rfl⟩ | ⟨hon, -, -, hrestart⟩ | ⟨hoff, -, hplace⟩ := streamOn_cases h
  · exact hc.chained
  · obtain ⟨f, hplaced⟩ := hc.settled.on hon
    exact chained_of_restart hrestart (hc.chained.linked.congr (fun _ _ => rfl) rfl)
      hplaced.nodup_inFlight hc.stocked.tails
  · obtain ⟨hactive, hqueued, hplaced⟩ := hc.settled.off hoff
    have hready : CaptureQueue.Placed { c.toCaptureQueue with fault := none, streaming := true } []
        c.active c.queued c.stream := by
      rw [hactive, hqueued]
      exact hplaced.congr rfl fun _ => rfl
    have hstart : CaptureQueue.Chained { c.toCaptureQueue with fault := none, streaming := true } :=
      hc.chained.congr (fun _ _ => rfl) (fun _ _ => rfl) rfl rfl rfl rfl
    have hstock : Stocked others { c with fault := none, streaming := true } :=
      hc.stocked.of_sameHoldings ⟨rfl, rfl, rfl⟩
    -- finding one buffer its place keeps both the links and the tails
    have hstep : ∀ c c' : Channel δ, ∀ i p, c.Placed [] c.active c.queued (i :: p) →
        c.Chained ∧ c.Stocked others → c.place now i = .ok c' →
        c'.Chained ∧ c'.Stocked others := by
      intro c c' i p hp ⟨hlinks, hstocked⟩ hone
      exact ⟨chained_of_place hone hp hlinks hstocked.tails,
        hstocked.of_sameHoldings (sameHoldings_of_place hone)⟩
    exact (placeAll_induct hstep hplace hready ⟨hstart, hstock⟩).2.1

/-- What a completion leaves is the rest of the chain, or a new one. -/
lemma chained_of_handleCompletion {f : List Nat} (h : c.handleCompletion now = .ok c')
    (hplaced : c.Placed f c.active c.queued []) (hchained : c.Chained)
    (hstocked : c.Stocked others) : c'.Chained := by
  obtain ⟨-, rfl⟩ | ⟨q, -, hcomplete, hcase⟩ := handleCompletion_cases h
  · exact hchained
  · obtain ⟨f', hq, -⟩ := placed_of_completeHead hcomplete hplaced
    have hqchained := chained_of_completeHead hcomplete hchained
    have hqstocked := hstocked.of_sameHoldings (sameHoldings_of_completeHead hcomplete)
    obtain ⟨-, hpark⟩ | ⟨-, rfl⟩ := hcase
    · obtain ⟨-, -, rfl⟩ | ⟨-, hrestart⟩ := park_cases hpark
      · exact hqchained.congr (fun _ _ => rfl) (fun _ _ => rfl) rfl rfl rfl rfl
      · exact chained_of_restart hrestart (hqchained.linked.congr (fun _ _ => rfl) rfl)
          hq.nodup_inFlight hqstocked.tails
    · exact hqchained

/-- Acting on interrupt status leaves a chain, which may be an empty one. -/
lemma chained_of_handleStatus {status : UInt32} {mine : Bool} (hc : c.Sound others)
    (h : c.handleStatus now status = .ok (mine, c')) : c'.Chained := by
  obtain ⟨-, -, rfl⟩ | ⟨-, -, ⟨-, rfl⟩ | ⟨-, -, hfail⟩ | ⟨hon, -, hcompletion⟩⟩ :=
    handleStatus_cases h
  · exact hc.chained
  · exact hc.chained
  · obtain ⟨q, backlog, hq, rfl⟩ := failStop_cases hfail
    have hqchained := chained_of_failed hq (hc.chained.linked.forget.congr (fun _ _ => rfl) rfl)
      rfl rfl
    exact hqchained.congr (fun _ _ => rfl) (fun _ _ => rfl) rfl rfl rfl rfl
  · obtain ⟨f, hplaced⟩ := hc.settled.on hon
    exact chained_of_handleCompletion hcompletion hplaced hc.chained
      (hc.stocked.of_sameHoldings ⟨rfl, rfl, rfl⟩)

/-- What recovering from a stall leaves is a new chain of what waited. -/
lemma chained_of_checkTimeout {stalled : Bool} (hc : c.Sound others)
    (h : c.checkTimeout now = .ok (stalled, c')) : c'.Chained := by
  obtain ⟨-, rfl, -⟩ | ⟨-, -, rfl⟩ | ⟨-, hactive, q, hq, hrestart⟩ := checkTimeout_cases h
  · exact hc.chained
  · exact hc.chained.congr (fun _ _ => rfl) (fun _ _ => rfl) rfl rfl rfl rfl
  · have hqchained := chained_of_failed hq (hc.chained.linked.forget.congr (fun _ _ => rfl) rfl)
      rfl rfl
    obtain ⟨f, hplaced⟩ := hc.settled.on (hc.settled.streaming_eq hactive)
    have hnodup : (q.active ++ q.queued).Nodup := by
      rw [hq.rest]
      exact (List.nodup_append.mp hplaced.nodup_inFlight).2.1
    refine chained_of_restart hrestart (hqchained.linked.congr (fun _ _ => rfl) rfl) hnodup
      fun i setup hsetup => ?_
    exact hc.stocked.tails i setup ((hq.setupOf_eq i).symm.trans hsetup)

/-- Preparing a buffer leaves the chain alone: it is not in flight. -/
lemma chained_of_prepare {i : Nat} {geometry : Geometry} {norm : Norm}
    {result : Except Error Unit} (hc : c.Sound others)
    (h : c.prepare i geometry norm = .ok (result, c')) : c'.Chained := by
  obtain ⟨_, -, rfl⟩ | ⟨buffer, buffer', dma, hi, -, -, -, rfl⟩ := prepare_cases h
  · exact hc.chained
  · -- a buffer that runs or waits is another one
    have hother : ∀ j, j ∈ c.active ∨ j ∈ c.queued →
        (c.buffers.set i buffer')[j]? = c.buffers[j]? := by
      intro j hj
      refine List.getElem?_set_ne fun heq => hi ?_
      rw [heq]
      exact hc.settled.mem_stream hj
    refine hc.chained.congr (fun j hj => ?_) (fun j hj => ?_) rfl rfl rfl rfl
    · exact congrArg (Option.bind · CaptureBuffer.setup) (hother j hj)
    · exact congrArg (Option.map CaptureBuffer.position) (hother j (.inl hj))

/-- New buffers make no chain, and there was none before. -/
lemma chained_of_requestBuffers {count capacity : Nat} {result : Except Error Nat}
    (hc : c.Sound others) (h : c.requestBuffers count capacity = .ok (result, c')) :
    c'.Chained := by
  obtain ⟨-, -, rfl⟩ | ⟨hoff, released, dma, -, -, rfl⟩ := requestBuffers_cases h
  · exact hc.chained
  · obtain ⟨hactive, hqueued, -⟩ := hc.settled.off hoff
    exact CaptureQueue.chained_nil hactive hqueued

/-- When capture has been stopped there is no chain. -/
lemma chained_of_streamOff {result : Except Error Unit} (hc : c.Sound others)
    (h : c.streamOff = .ok (result, c')) : c'.Chained := by
  obtain ⟨-, -, rfl⟩ | ⟨-, -, buffers, dma, -, rfl⟩ := streamOff_cases h
  · exact hc.chained
  · exact CaptureQueue.chained_nil rfl rfl

/-- Taking a buffer back leaves the chain alone: it is finished. -/
lemma chained_of_dequeue {result : Except Error Frame} (hc : c.Sound others)
    (h : c.dequeue = .ok (result, c')) : c'.Chained := by
  obtain ⟨_, -, rfl⟩ | ⟨_, _, _, _, -, -, -, -, -, rfl⟩ := dequeue_cases h
  · exact hc.chained
  · exact hc.chained.congr (fun _ _ => rfl) (fun _ _ => rfl) rfl rfl rfl rfl

/-- **No operation breaks the links of the chain.**

**Proof sketch.** What is settled and what is stocked is kept by `keeping_settled` and
`keeping_stocked`; that leaves the links, one operation after the other. -/
theorem keeping_sound : Keeping fun c : Channel δ => c.Sound others where
  request hc h := ⟨keeping_settled.request hc.settled h, keeping_stocked.request hc.stocked h,
    chained_of_requestBuffers hc h⟩
  prepare hc h := ⟨keeping_settled.prepare hc.settled h, keeping_stocked.prepare hc.stocked h,
    chained_of_prepare hc h⟩
  enqueue hc h := ⟨keeping_settled.enqueue hc.settled h, keeping_stocked.enqueue hc.stocked h,
    chained_of_enqueue hc h⟩
  dequeue hc h := ⟨keeping_settled.dequeue hc.settled h, keeping_stocked.dequeue hc.stocked h,
    chained_of_dequeue hc h⟩
  streamOn hc h := ⟨keeping_settled.streamOn hc.settled h, keeping_stocked.streamOn hc.stocked h,
    chained_of_streamOn hc h⟩
  streamOff hc h := ⟨keeping_settled.streamOff hc.settled h, keeping_stocked.streamOff hc.stocked h,
    chained_of_streamOff hc h⟩
  status hc h := ⟨keeping_settled.status hc.settled h, keeping_stocked.status hc.stocked h,
    chained_of_handleStatus hc h⟩
  timeout hc h := ⟨keeping_settled.timeout hc.settled h, keeping_stocked.timeout hc.stocked h,
    chained_of_checkTimeout hc h⟩
  maskAll hc := ⟨keeping_settled.maskAll hc.settled, keeping_stocked.maskAll hc.stocked,
    hc.chained.congr (fun _ _ => rfl) (fun _ _ => rfl) rfl rfl rfl rfl⟩
  report backlog hc := ⟨keeping_settled.report backlog hc.settled,
    keeping_stocked.report backlog hc.stocked,
    hc.chained.congr (fun _ _ => rfl) (fun _ _ => rfl) rfl rfl rfl rfl⟩

/-- A new queue has nothing to link. -/
lemma sound_of_create {regs : RegisterFile} {dma dma' : δ} {config : Config}
    (hdma : LawfulDmaBackend.Holds dma others) (h : create regs dma config = (.ok c, dma')) :
    c.Sound others := by
  refine ⟨settled_of_create h, stocked_of_create hdma h, ?_⟩
  obtain ⟨stopper, -, rfl⟩ := create_eq_ok h
  exact CaptureQueue.chained_nil rfl rfl

/-- A change of the registers leaves a queue sound. -/
lemma Sound.change (hc : c.Sound others) (regs : RegisterFile) : Sound others { c with regs } :=
  ⟨hc.settled.congr rfl rfl rfl rfl rfl, hc.stocked.of_sameHoldings ⟨rfl, rfl, rfl⟩,
    hc.chained.congr (fun _ _ => rfl) (fun _ _ => rfl) rfl rfl rfl rfl⟩

/-- The queue of every session is sound between its operations. -/
theorem sound_of_reaches {regs : RegisterFile} {dma dma' : δ} {config : Config} {c₀ : Channel δ}
    (hdma : LawfulDmaBackend.Holds dma others)
    (hcreate : create regs dma config = (.ok c₀, dma')) (h : c₀.Reaches c) : c.Sound others := by
  exact keeping_sound.of_reaches (fun _ regs hc => hc.change regs) (sound_of_create hdma hcreate) h

end Linking

end Channel

end VideoCapture
