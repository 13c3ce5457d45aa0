import VideoCapture.Proofs.Buffer.Contents
import VideoCapture.Proofs.Queue.Lasting
import VideoCapture.Proofs.Queue.Shutdown
import VideoCapture.Proofs.Queue.Staging

/-!
# What formats buffers are prepared for

A prepared buffer waits to be handed in. Until then nobody looks at what it was prepared for:
operations keep the geometry and the program of a buffer together, and only preparing a buffer makes
it ready for another geometry. Whether lines report their offset is settled when a queue is created,
so the programs of all buffers stay the ones for their geometries, however long they are kept.

## Main definitions

* `VideoCapture.CaptureQueue.Faithful` — the programs of all buffers are those for their geometries.
* `VideoCapture.CaptureQueue.ReadyFor` — prepared buffers are prepared for what is wanted only.
* `VideoCapture.CaptureQueue.Furnished` — what is true of buffers in every session.

## Main results

* `VideoCapture.Channel.responding_readyFor` — what operations make buffers ready for.
* `VideoCapture.Channel.furnished_of_perform` — no operation breaks what is true of buffers.
* `VideoCapture.Channel.setup_of_enqueue` — a buffer that is handed in keeps what it holds.
* `VideoCapture.Channel.bytesUsed_of_dequeue` — how many bytes a frame has that is handed back.
-/

set_option autoImplicit false

namespace VideoCapture

/-- A program is the one for its geometry from the time it was built. -/
lemma Setup.lasting_faithful {δ : Type} [DmaBackend δ] :
    Lasting δ fun _ mode setup => setup.Faithful mode where
  untied := faithful_untied
  norm _ hsetup := hsetup
  built _ hbuild := CaptureBuffer.exists_contains_of_buildProgram hbuild

/-! ## Queues -/

namespace CaptureQueue

variable {wanted : Geometry → Norm → Prop} {q q' : CaptureQueue}

/-- The programs of all buffers are those for their geometries. -/
def Faithful (q : CaptureQueue) : Prop :=
  ∀ buffer ∈ q.buffers, buffer.Faithful q.lineOffset

/-- Prepared buffers are prepared for wanted geometries and norms only. -/
def ReadyFor (wanted : Geometry → Norm → Prop) (q : CaptureQueue) : Prop :=
  ∀ i setup, q.stateOf i = some .prepared → q.setupOf i = some setup →
    wanted setup.geometry setup.norm

/-- What is true of the buffers of a queue in every session. -/
structure Furnished (q : CaptureQueue) : Prop where
  /-- Between two operations buffers are where they belong. -/
  settled : q.Settled
  /-- What runs or waits holds a program. -/
  equipped : q.Equipped
  /-- A buffer holds nothing exactly as long as it needs to be initialised. -/
  staged : q.Staged
  /-- The programs are those for the geometries. -/
  faithful : q.Faithful

/-- Scheduling makes no buffer ready for anything. -/
lemma ReadyFor.onward (hq : q.ReadyFor wanted) (h : q.Onward q') : q'.ReadyFor wanted := by
  intro i setup hprepared hsetup
  obtain ⟨before, hbefore, huntied⟩ := exists_setupOf_of_fixtures h.1 hsetup
  have hgeometry : before.geometry = setup.geometry := (congrArg Setup.geometry huntied :)
  have hnorm : before.norm = setup.norm := (congrArg Setup.norm huntied :)
  obtain hsame | ⟨⟨-, hne⟩, -⟩ := h.2 i
  · rw [← hgeometry, ← hnorm]
    exact hq i before (hsame.symm.trans hprepared) hbefore
  · exact absurd hprepared hne

/-- Buffers that hold nothing are ready for nothing. -/
lemma readyFor_of_empty (h : ∀ buffer ∈ q.buffers, buffer.setup = none) : q.ReadyFor wanted := by
  intro i setup _ hsetup
  obtain ⟨buffer, hbuffer, hsome⟩ := Option.bind_eq_some_iff.mp hsetup
  rw [h buffer (List.mem_of_getElem? hbuffer)] at hsome
  cases hsome

end CaptureQueue

namespace Channel

open CaptureQueue (Operation Answer)

variable {δ : Type} {wanted : Geometry → Norm → Prop} {c c' : Channel δ} {now : Int}

section Operations

variable [DmaBackend δ]

/-! ## What becomes of buffers -/

/-- **No operation gives a buffer a program for another geometry** than the one it remembers. -/
theorem keeping_faithful : Keeping fun c : Channel δ => c.Faithful :=
  keeping_all Setup.lasting_faithful

/-- **No operation breaks what is true of buffers.** -/
theorem furnished_of_perform {operation : Operation} {answer : Answer} (hc : c.Furnished)
    (h : c.perform operation = .ok (answer, c')) : c'.Furnished where
  settled := keeping_settled.relating.of_perform h hc.settled
  equipped := responding_equipped.of_perform h hc.settled hc.equipped
  staged := responding_staged.of_perform h hc.equipped hc.staged
  faithful := keeping_faithful.relating.of_perform h hc.faithful

/-- A new queue has no buffers. -/
lemma furnished_of_create {regs : RegisterFile} {dma dma' : δ} {config : Config}
    (h : create regs dma config = (.ok c, dma')) : c.Furnished where
  settled := settled_of_reaches h .refl
  equipped := equipped_of_reaches h .refl
  staged := staged_of_reaches h .refl
  faithful := all_of_create (P := fun _ mode setup => setup.Faithful mode) h

/-- So it has nothing ready. -/
lemma readyFor_of_create {regs : RegisterFile} {dma dma' : δ} {config : Config}
    (h : create regs dma config = (.ok c, dma')) : c.ReadyFor wanted := by
  obtain ⟨stopper, -, rfl⟩ := create_eq_ok h
  exact CaptureQueue.readyFor_of_empty nofun

/-- A buffer is prepared for what is wanted. -/
lemma readyFor_of_prepare {i : Nat} {geometry : Geometry} {norm : Norm}
    {result : Except Error Unit} (h : c.prepare i geometry norm = .ok (result, c'))
    (hwanted : wanted geometry norm) (hc : c.ReadyFor wanted) : c'.ReadyFor wanted := by
  obtain ⟨_, -, rfl⟩ | ⟨buffer, buffer', dma, -, hbuffer, -, hprepare, rfl⟩ := prepare_cases h
  · exact hc
  · have hi : i < c.buffers.length := (List.getElem?_eq_some_iff.mp hbuffer).1
    intro j setup hprepared hsetup
    by_cases hj : i = j
    · subst hj
      rw [CaptureQueue.setupOf, List.getElem?_set_self hi] at hsetup
      obtain ⟨rfl, rfl, -⟩ := CaptureBuffer.setup_of_prepare hprepare hsetup
      exact hwanted
    · rw [CaptureQueue.setupOf, List.getElem?_set_ne hj] at hsetup
      rw [CaptureQueue.stateOf, List.getElem?_set_ne hj] at hprepared
      exact hc j setup hprepared hsetup

/-- A queue that was shut down has nothing ready. -/
lemma readyFor_of_shutdown (h : c.shutdown = .ok c') : c'.ReadyFor wanted := by
  refine CaptureQueue.readyFor_of_empty fun buffer hbuffer => ?_
  rw [(off_of_shutdown h).2.1] at hbuffer
  cases hbuffer

/-- A buffer that was prepared holds what it was prepared for. -/
lemma geometry_of_prepare {i : Nat} {geometry : Geometry} {norm : Norm} {setup : Setup}
    (h : c.prepare i geometry norm = .ok (.ok (), c')) (hsetup : c'.setupOf i = some setup) :
    setup.geometry = geometry := by
  obtain ⟨_, hresult, -⟩ | ⟨buffer, buffer', dma, -, hbuffer, -, hprepare, rfl⟩ := prepare_cases h
  · cases hresult
  · have hi : i < c.buffers.length := (List.getElem?_eq_some_iff.mp hbuffer).1
    rw [CaptureQueue.setupOf, List.getElem?_set_self hi] at hsetup
    exact (CaptureBuffer.setup_of_prepare hprepare hsetup).1

/-- **Buffers become ready for what they are prepared for**, and for nothing else. -/
theorem responding_readyFor : Responding fun operation _ (c c' : Channel δ) =>
    operation.PreparesFor wanted → c.Equipped → c.ReadyFor wanted → c'.ReadyFor wanted where
  request h _ _ hc := by
    obtain rfl | hempty := empty_of_requestBuffers h
    · exact hc
    · exact CaptureQueue.readyFor_of_empty hempty
  prepare h hwanted _ hc := readyFor_of_prepare h hwanted hc
  enqueue h _ _ hc := hc.onward (onward_of_enqueue h)
  dequeue h _ _ hc := by
    obtain ⟨_, -, rfl⟩ | ⟨_, _, _, _, -, -, -, -, -, rfl⟩ := dequeue_cases h <;> exact hc
  streamOn h _ hequipped hc := hc.onward (onward_of_streamOn h hequipped)
  streamOff h _ _ hc := by
    obtain rfl | hempty := empty_of_streamOff h
    · exact hc
    · exact CaptureQueue.readyFor_of_empty hempty
  status h _ hequipped hc := hc.onward (onward_of_handleStatus h hequipped)
  timeout h _ hequipped hc := hc.onward (onward_of_checkTimeout h hequipped)
  maskAll _ _ hc := hc
  report _ _ _ _ hc := hc
  shutdown h _ _ _ := readyFor_of_shutdown h

omit [DmaBackend δ] in
/-- **A buffer that is handed in was prepared, and keeps what it holds**, up to where its tail
points. -/
theorem setup_of_enqueue {i : Nat} (hc : c.Furnished) (h : c.enqueue now i = .ok (.ok (), c')) :
    c.stateOf i = some .prepared ∧ ∃ before after, c.setupOf i = some before ∧
      c'.setupOf i = some after ∧ after.untied = before.untied := by
  obtain ⟨_, hresult, -⟩ | ⟨-, -, hprepared, -⟩ := enqueue_cases h
  · cases hresult
  · obtain ⟨before, hbefore⟩ := hc.staged.exists_setupOf hprepared nofun
    have hkept := CaptureQueue.setupOf_eq_of_fixtures (sameHoldings_of_enqueue h).fixtures i
    rw [hbefore, Option.map_some] at hkept
    obtain ⟨after, hafter, huntied⟩ := Option.map_eq_some_iff.mp hkept
    exact ⟨hprepared, before, after, hbefore, hafter, huntied⟩

omit [DmaBackend δ] in
/-- **A frame that was captured has as many bytes as the geometry of its buffer says.** -/
theorem bytesUsed_of_dequeue {frame : Frame} (h : c.dequeue = .ok (.ok frame, c'))
    (hdone : frame.state = .done) : ∃ setup, c'.setupOf frame.index = some setup ∧
      frame.bytesUsed = setup.geometry.imageBytes := by
  obtain ⟨_, hresult, -⟩ | ⟨i, rest, buffer, bytesUsed, -, -, -, hresult, hbytes, rfl⟩ :=
    dequeue_cases h
  · cases hresult
  · obtain rfl := Except.ok.inj hresult
    exact hbytes hdone

end Operations

end Channel

end VideoCapture
