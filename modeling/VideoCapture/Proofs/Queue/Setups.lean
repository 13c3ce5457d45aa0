import VideoCapture.Proofs.Queue.Links
import VideoCapture.Proofs.Queue.Record
import VideoCapture.Proofs.Queue.Scheduling

/-!
# What buffers are prepared for

A buffer gets its geometry, its norm and its program when it is prepared, and keeps them until it is
prepared again or gives everything back. Its norm accepts its size, since it would have been refused
otherwise. Buffers that run or wait are never prepared or emptied, so all of them hold a program.

## Main definitions

* `VideoCapture.CaptureQueue.Operation.PreparesFor` — operations prepare for what is wanted only.
* `VideoCapture.CaptureQueue.Serves` — buffers are prepared for what is wanted only.
* `VideoCapture.CaptureQueue.Equipped` — what runs or waits holds a program.

## Main results

* `VideoCapture.Channel.responding_serves` — buffers are prepared for what was asked for.
* `VideoCapture.Channel.responding_equipped` — no operation takes a program from what runs or waits.
* `VideoCapture.Channel.serves_of_reaches`, `VideoCapture.Channel.equipped_of_reaches` — what holds
  in every session.
-/

set_option autoImplicit false

namespace VideoCapture

namespace CaptureQueue

/-- An operation prepares a buffer, if at all, for a geometry and a norm that are wanted. -/
def Operation.PreparesFor (wanted : Geometry → Norm → Prop) : Operation → Prop
  | .prepare _ geometry norm => wanted geometry norm
  | _ => True

instance (wanted : Geometry → Norm → Prop) [∀ g n, Decidable (wanted g n)] :
    ∀ operation : Operation, Decidable (operation.PreparesFor wanted)
  | .prepare _ geometry norm => inferInstanceAs (Decidable (wanted geometry norm))
  | .request _ _ | .enqueue _ _ | .dequeue | .streamOn _ | .streamOff | .status _ _ | .timeout _
  | .maskAll | .takeFault | .shutdown => .isTrue trivial

/-- Buffers are prepared for wanted geometries and norms only, and the norms accept the sizes. -/
def Serves (wanted : Geometry → Norm → Prop) (q : CaptureQueue) : Prop :=
  ∀ i setup, q.setupOf i = some setup → wanted setup.geometry setup.norm ∧
    setup.norm.accepts setup.geometry.width setup.geometry.height = true

/-- What runs or waits holds a program. -/
def Equipped (q : CaptureQueue) : Prop :=
  ∀ i ∈ q.active ++ q.queued, ∃ setup, q.setupOf i = some setup

variable {wanted : Geometry → Norm → Prop} {q q' : CaptureQueue}

/-- If everything is wanted, every operation prepares for what is wanted. -/
lemma Operation.preparesFor_true (operation : Operation) :
    operation.PreparesFor fun _ _ => True := by
  cases operation <;> exact trivial

/-- Scheduling leaves what buffers are prepared for alone. -/
lemma Serves.of_fixtures (hq : q.Serves wanted) (h : q'.fixtures = q.fixtures) :
    q'.Serves wanted := by
  intro i setup hsetup
  obtain ⟨before, hbefore, huntied⟩ := exists_setupOf_of_fixtures h hsetup
  have hgeometry : before.geometry = setup.geometry := (congrArg Setup.geometry huntied :)
  have hnorm : before.norm = setup.norm := (congrArg Setup.norm huntied :)
  rw [← hgeometry, ← hnorm]
  exact hq i before hbefore

/-- Buffers that hold nothing are prepared for nothing. -/
lemma serves_of_empty (h : ∀ buffer ∈ q.buffers, buffer.setup = none) : q.Serves wanted := by
  intro i setup hsetup
  obtain ⟨buffer, hbuffer, hsome⟩ := Option.bind_eq_some_iff.mp hsetup
  rw [h buffer (List.mem_of_getElem? hbuffer)] at hsome
  cases hsome

/-- Scheduling does not take programs away, so what ran or waited holds one. -/
lemma Equipped.of_fixtures (hq : q.Equipped) (h : q'.fixtures = q.fixtures)
    (hlists : ∀ i ∈ q'.active ++ q'.queued, i ∈ q.active ++ q.queued) : q'.Equipped := by
  intro i hi
  exact exists_setupOf_congr h (hq i (hlists i hi))

/-- Once the chain has been given up, what still waits holds a program. -/
lemma Equipped.of_failed {before : CaptureQueue} {chain : List Nat} (hq : q.Equipped)
    (h : before.Failed chain q') (hfixtures : before.fixtures = q.fixtures)
    (hactive : before.active = []) (hqueued : before.queued = q.queued) : q'.Equipped := by
  have hlists : q'.active ++ q'.queued = q.queued := by rw [h.rest, hactive, hqueued]; rfl
  refine hq.of_fixtures (h.fixtures_eq.trans hfixtures) fun i hi => ?_
  rw [hlists] at hi
  exact List.mem_append_right _ hi

/-- Nothing need hold a program if nothing runs or waits. -/
lemma equipped_nil (hactive : q.active = []) (hqueued : q.queued = []) : q.Equipped := by
  intro i hi
  rw [hactive, hqueued] at hi
  cases hi

end CaptureQueue

namespace Channel

open CaptureQueue (Operation Answer Event)

variable {δ : Type} {wanted : Geometry → Norm → Prop} {c c' : Channel δ} {now : Int}

/-! ## Scheduling -/

/-- A queue that only loses buffers from its lists stays equipped. -/
lemma equipped_of_restart (h : c.restart now = .ok c') (hc : c.Equipped) : c'.Equipped := by
  refine hc.of_fixtures (sameHoldings_of_restart h).fixtures fun i hi => ?_
  rwa [inFlight_of_restart h] at hi

/-- A buffer that finds its place holds a program.

**Proof sketch.** What runs or waits afterwards did so before, or is the buffer itself, and nothing
changes about what buffers hold. -/
lemma equipped_of_place {i : Nat} (h : c.place now i = .ok c') (hc : c.Equipped) :
    c'.Equipped := by
  have hfixtures := (sameHoldings_of_place h).fixtures
  obtain ⟨⟨setup, hsetup⟩, hcase⟩ := place_cases h
  have hmem : ∀ j ∈ c'.active ++ c'.queued, j = i ∨ j ∈ c.active ++ c.queued := by
    intro j hj
    obtain ⟨-, rfl⟩ | ⟨-, -, -, hstart⟩ | ⟨previous, spliced, -, -, -, -, hsplice, rfl⟩ := hcase
    · have hj : j ∈ c.active ++ (c.queued ++ [i]) := hj
      grind
    · obtain ⟨hactive, hqueued⟩ := lists_of_startHead hstart
      rw [hactive, hqueued] at hj
      have hj : j ∈ [i] ++ c.queued := hj
      grind
    · obtain ⟨-, -, target, -, -, rfl⟩ := CaptureQueue.splice_eq_ok.mp hsplice
      have hj : j ∈ (c.active ++ [i]) ++ c.queued := hj
      grind
  intro j hj
  have hbefore : ∃ setup, c.setupOf j = some setup := by
    obtain rfl | hj := hmem j hj
    · exact ⟨setup, hsetup⟩
    · exact hc j hj
  exact CaptureQueue.exists_setupOf_congr hfixtures hbefore

/-- Retiring the head of the chain takes no program away. -/
lemma equipped_of_completeHead {q : CaptureQueue} (h : c.completeHead now = .ok q)
    (hc : c.Equipped) : q.Equipped := by
  refine hc.of_fixtures (sameHoldings_of_completeHead h).fixtures fun i hi => ?_
  obtain ⟨-, rfl⟩ | ⟨head, rest, setup, hactive, -, rfl⟩ := CaptureQueue.completeHead_cases h
  · exact hi
  · rw [hactive]
    exact List.mem_cons_of_mem head hi

/-- What runs or waits after a completion did so before. -/
lemma equipped_of_handleCompletion (h : c.handleCompletion now = .ok c') (hc : c.Equipped) :
    c'.Equipped := by
  obtain ⟨-, rfl⟩ | ⟨q, -, hcomplete, hcase⟩ := handleCompletion_cases h
  · exact hc
  · have hretired := equipped_of_completeHead hcomplete hc
    obtain ⟨-, hpark⟩ | ⟨-, rfl⟩ := hcase
    · obtain ⟨-, -, rfl⟩ | ⟨-, hrestart⟩ := park_cases hpark
      · exact hretired
      · exact equipped_of_restart hrestart hretired
    · exact hretired

/-- What runs or waits after interrupt status did so before. -/
lemma equipped_of_handleStatus {bits : UInt32} {mine : Bool}
    (h : c.handleStatus now bits = .ok (mine, c')) (hc : c.Equipped) : c'.Equipped := by
  obtain ⟨-, -, rfl⟩ | ⟨-, -, ⟨-, rfl⟩ | ⟨-, -, hfail⟩ | ⟨-, -, hcompletion⟩⟩ :=
    handleStatus_cases h
  · exact hc
  · exact hc
  · obtain ⟨q, backlog, hq, rfl⟩ := failStop_cases hfail
    have hfailed : q.Equipped := hc.of_failed hq rfl rfl rfl
    exact hfailed
  · exact equipped_of_handleCompletion hcompletion hc

/-- What runs after recovering from a stall waited before. -/
lemma equipped_of_checkTimeout {stalled : Bool} (h : c.checkTimeout now = .ok (stalled, c'))
    (hc : c.Equipped) : c'.Equipped := by
  obtain ⟨-, rfl, -⟩ | ⟨-, -, rfl⟩ | ⟨-, -, q, hq, hrestart⟩ := checkTimeout_cases h
  · exact hc
  · exact hc
  · have hfailed : q.Equipped := hc.of_failed hq rfl rfl rfl
    exact equipped_of_restart hrestart hfailed

/-! ## Operations -/

section Operations

variable [DmaBackend δ]

/-- When buffers are replaced nothing runs or waits. -/
lemma equipped_of_requestBuffers {count capacity : Nat} {result : Except Error Nat}
    (h : c.requestBuffers count capacity = .ok (result, c')) (hsettled : c.Settled)
    (hc : c.Equipped) : c'.Equipped := by
  obtain ⟨-, -, rfl⟩ | ⟨hoff, _, _, -, -, rfl⟩ := requestBuffers_cases h
  · exact hc
  · exact CaptureQueue.equipped_nil (hsettled.off hoff).1 (hsettled.off hoff).2.1

/-- When capture has been stopped nothing runs or waits. -/
lemma equipped_of_streamOff {result : Except Error Unit} (h : c.streamOff = .ok (result, c'))
    (hc : c.Equipped) : c'.Equipped := by
  obtain ⟨-, -, rfl⟩ | ⟨-, -, _, _, -, rfl⟩ := streamOff_cases h
  · exact hc
  · exact CaptureQueue.equipped_nil rfl rfl

/-- Buffers that run or wait are in the stream, and those are not prepared. -/
lemma equipped_of_prepare {i : Nat} {geometry : Geometry} {norm : Norm}
    {result : Except Error Unit} (h : c.prepare i geometry norm = .ok (result, c'))
    (hsettled : c.Settled) (hc : c.Equipped) : c'.Equipped := by
  obtain ⟨_, -, rfl⟩ | ⟨buffer, buffer', dma, hstream, -, -, -, rfl⟩ := prepare_cases h
  · exact hc
  · intro j hj
    have hne : i ≠ j := by
      rintro rfl
      exact hstream (hsettled.mem_stream (List.mem_append.mp hj))
    rw [CaptureQueue.setupOf, List.getElem?_set_ne hne]
    exact hc j hj

/-- **No operation takes a program from what runs or waits.** -/
theorem responding_equipped : Responding fun _ _ (c c' : Channel δ) =>
    c.Settled → c.Equipped → c'.Equipped where
  request h hsettled hc := equipped_of_requestBuffers h hsettled hc
  prepare h hsettled hc := equipped_of_prepare h hsettled hc
  enqueue h _ hc := by
    obtain ⟨_, -, rfl⟩ | ⟨-, -, -, ⟨-, hplace⟩ | ⟨-, rfl⟩⟩ := enqueue_cases h
    · exact hc
    · exact equipped_of_place hplace hc
    · exact hc
  dequeue h _ hc := by
    obtain ⟨_, -, rfl⟩ | ⟨_, _, _, _, -, -, -, -, -, rfl⟩ := dequeue_cases h <;> exact hc
  streamOn h _ hc := by
    obtain ⟨-, -, -, rfl⟩ | ⟨-, -, -, hrestart⟩ | ⟨-, -, hplace⟩ := streamOn_cases h
    · exact hc
    · exact equipped_of_restart hrestart hc
    · refine placeAll_keeps (P := fun c => c.Equipped) (fun _ _ _ hc hone => ?_) hplace hc
      exact equipped_of_place hone hc
  streamOff h _ hc := equipped_of_streamOff h hc
  status h _ hc := equipped_of_handleStatus h hc
  timeout h _ hc := equipped_of_checkTimeout h hc
  maskAll _ hc := hc
  report _ _ _ hc := hc
  shutdown h hsettled hc := by
    obtain ⟨c₁, ⟨-, rfl⟩ | ⟨-, _, hoff⟩, _, hrequest⟩ := shutdown_cases h
    · exact equipped_of_requestBuffers hrequest hsettled hc
    · exact equipped_of_requestBuffers hrequest (settled_of_streamOff hsettled hoff)
        (equipped_of_streamOff hoff hc)

/-- New buffers are prepared for nothing. -/
lemma serves_of_requestBuffers {count capacity : Nat} {result : Except Error Nat}
    (h : c.requestBuffers count capacity = .ok (result, c')) (hc : c.Serves wanted) :
    c'.Serves wanted := by
  obtain ⟨-, -, rfl⟩ | ⟨-, _, _, -, -, rfl⟩ := requestBuffers_cases h
  · exact hc
  · refine CaptureQueue.serves_of_empty fun buffer hbuffer => ?_
    rw [(List.mem_replicate.mp hbuffer).2]

/-- Stopping capture leaves what buffers are prepared for. -/
lemma serves_of_streamOff {result : Except Error Unit} (h : c.streamOff = .ok (result, c'))
    (hc : c.Serves wanted) : c'.Serves wanted := by
  obtain ⟨-, -, rfl⟩ | ⟨-, -, buffers, _, hrelease, rfl⟩ := streamOff_cases h
  · exact hc
  · obtain ⟨rfl, -⟩ := released_of_releaseAll hrelease
    refine CaptureQueue.serves_of_empty fun buffer hbuffer => ?_
    obtain ⟨_, -, rfl⟩ := List.mem_map.mp hbuffer
    rfl

/-- A buffer is prepared for what is wanted, and only if the norm accepts the size. -/
lemma serves_of_prepare {i : Nat} {geometry : Geometry} {norm : Norm}
    {result : Except Error Unit} (h : c.prepare i geometry norm = .ok (result, c'))
    (hwanted : wanted geometry norm) (hc : c.Serves wanted) : c'.Serves wanted := by
  obtain ⟨_, -, rfl⟩ | ⟨buffer, buffer', dma, -, hbuffer, -, hprepare, rfl⟩ := prepare_cases h
  · exact hc
  · intro j setup hsetup
    have hi : i < c.buffers.length := (List.getElem?_eq_some_iff.mp hbuffer).1
    obtain ⟨-, hsome⟩ | hbefore := CaptureQueue.setupOf_set hi hsetup
    · obtain ⟨rfl, rfl, haccepts⟩ := CaptureBuffer.setup_of_prepare hprepare hsome
      exact ⟨hwanted, haccepts⟩
    · exact hc j setup hbefore

/-- Operations that prepare for what is wanted leave buffers prepared for nothing else. -/
theorem responding_serves : Responding fun operation _ (c c' : Channel δ) =>
    operation.PreparesFor wanted → c.Serves wanted → c'.Serves wanted where
  request h _ hc := serves_of_requestBuffers h hc
  prepare h hwanted hc := serves_of_prepare h hwanted hc
  enqueue h _ hc := hc.of_fixtures (sameHoldings_of_enqueue h).fixtures
  dequeue h _ hc := hc.of_fixtures (sameHoldings_of_dequeue h).fixtures
  streamOn h _ hc := hc.of_fixtures (sameHoldings_of_streamOn h).fixtures
  streamOff h _ hc := serves_of_streamOff h hc
  status h _ hc := hc.of_fixtures (sameHoldings_of_handleStatus h).fixtures
  timeout h _ hc := hc.of_fixtures (sameHoldings_of_checkTimeout h).fixtures
  maskAll _ hc := hc
  report _ _ _ hc := hc
  shutdown h _ hc := by
    obtain ⟨c₁, ⟨-, rfl⟩ | ⟨-, _, hoff⟩, _, hrequest⟩ := shutdown_cases h
    · exact serves_of_requestBuffers hrequest hc
    · exact serves_of_requestBuffers hrequest (serves_of_streamOff hoff hc)

/-! ## Sessions -/

variable {regs : RegisterFile} {dma dma' : δ} {config : Config} {c₀ : Channel δ}

/-- In every session the norms of buffers accept their sizes.

**Proof sketch.** Induction on the session. -/
theorem serves_of_reaches (hcreate : create regs dma config = (.ok c₀, dma')) (h : c₀.Reaches c) :
    c.Serves fun _ _ => True := by
  induction h with
  | refl =>
    obtain ⟨stopper, -, rfl⟩ := create_eq_ok hcreate
    exact CaptureQueue.serves_of_empty nofun
  | perform _ hperform ih =>
    exact responding_serves.of_perform hperform (Operation.preparesFor_true _) ih
  | change _ _ ih => exact ih

/-- **In every session what runs or waits holds a program.**

**Proof sketch.** Induction on the session. -/
theorem equipped_of_reaches (hcreate : create regs dma config = (.ok c₀, dma'))
    (h : c₀.Reaches c) : c.Equipped := by
  induction h with
  | refl =>
    obtain ⟨stopper, -, rfl⟩ := create_eq_ok hcreate
    exact CaptureQueue.equipped_nil rfl rfl
  | perform hbefore hperform ih =>
    exact responding_equipped.of_perform hperform (settled_of_reaches hcreate hbefore) ih
  | change _ _ ih => exact ih

end Operations

end Channel

end VideoCapture
