import VideoCapture.Proofs.Queue.Ledger
import VideoCapture.Proofs.Queue.Retirement

/-!
# What frames tell about earlier captures

With a frame come the time and the number of the capture. Both are noted in the buffer when the
frame is captured, and nothing takes them out again: neither handing the buffer back, nor preparing
it anew, nor releasing it when capture is stopped. Only when the buffers are replaced do the notes
go with them.

So a frame that is done always has a time, and a frame that was given up should have none, but has
one as soon as anything was captured into its buffer before. It is the time of that capture then,
and the number with it is the number of that frame.

## Main definitions

* `VideoCapture.CaptureBuffer.mark` — what a buffer notes about its last capture.
* `VideoCapture.CaptureQueue.Notes` — what operations do to these notes.
* `VideoCapture.Channel.Remembers` — a session has captured into a buffer and not replaced it since.
* `VideoCapture.Channel.Dated` — what the time of a frame tells.

## Main results

* `VideoCapture.Channel.marks_of_restart`, `VideoCapture.Channel.marks_of_place` — scheduling notes
  nothing.
* `VideoCapture.Channel.notes_of_handleStatus` — interrupt status notes one capture at most.
* `VideoCapture.Channel.responding_notes` — what each operation does to the notes.
* `VideoCapture.Channel.dated_of_session` — which frames have a time, after every session.
-/

set_option autoImplicit false

namespace VideoCapture

/-- What a buffer notes about its last capture: the time, and the number of the frame. -/
def CaptureBuffer.mark (buffer : CaptureBuffer) : Option Int × UInt32 :=
  (buffer.timestamp, buffer.sequence)

namespace CaptureQueue

/-! ## Notes -/

/-- What the buffers of a queue note about their last captures. -/
def marks (q : CaptureQueue) : List (Option Int × UInt32) :=
  q.buffers.map CaptureBuffer.mark

/-- What an operation does to the notes unless it replaces the buffers. -/
inductive Notes (q q' : CaptureQueue) : Prop where
  /-- Nothing is noted, and no buffer becomes done. -/
  | none : q'.marks = q.marks → q.NoneDone q' → Notes q q'
  /-- One buffer becomes done, with the time and the next number noted, and no other does. -/
  | one (head : Nat) (now : Int) : q'.stateOf head = some .done →
      q'.marks = q.marks.set head (some now, q.sequence) →
      (∀ i, i ≠ head → q'.stateOf i = some .done → q.stateOf i = some .done) → Notes q q'

/-- Nothing was captured into any buffer of a queue. -/
def Blank (q : CaptureQueue) : Prop :=
  ∀ buffer ∈ q.buffers, buffer.state ≠ .done ∧ buffer.timestamp = none

variable {q q' : CaptureQueue} {i : Nat}

/-- What a buffer notes that exists. -/
lemma marks_of_getElem? {buffer : CaptureBuffer} (h : q.buffers[i]? = some buffer) :
    q.marks[i]? = some buffer.mark := by
  rw [marks, List.getElem?_map, h, Option.map_some]

/-- Where tails point is not noted. -/
lemma marks_pointTail (q : CaptureQueue) (i : Nat) (target : UInt32) :
    (q.pointTail i target).marks = q.marks :=
  map_buffers_modify q i _ fun _ => rfl

/-- A change of one buffer that notes a capture is noted for that buffer. -/
lemma marks_modify {f : CaptureBuffer → CaptureBuffer} {mark : Option Int × UInt32}
    (hf : ∀ buffer, (f buffer).mark = mark) : (q.modify i f).marks = q.marks.set i mark := by
  apply List.ext_getElem?
  intro j
  rw [marks, List.getElem?_map, getElem?_modify, marks, List.getElem?_set, List.length_map]
  by_cases hj : i = j
  · subst hj
    rw [if_pos rfl, if_pos rfl, Option.map_map]
    by_cases hi : i < q.buffers.length
    · rw [if_pos hi, List.getElem?_eq_getElem hi]
      exact congrArg some (hf _)
    · rw [if_neg hi, List.getElem?_eq_none (Nat.le_of_not_lt hi)]
      rfl
  · rw [if_neg hj, if_neg hj, List.getElem?_map]

/-- A buffer is done if and only if it holds a frame. -/
lemma stateOf_eq_done_iff : q.stateOf i = some .done ↔ q.captureOf i ≠ none := by
  refine ⟨fun hdone => ?_, fun hcapture => ?_⟩
  · obtain ⟨buffer, hbuffer, hstate⟩ := Option.map_eq_some_iff.mp hdone
    simp [captureOf, hbuffer, CaptureBuffer.capture, hstate]
  · exact Decidable.not_not.mp fun hnot => hcapture (captureOf_eq_none hnot)

/-- Retiring the head of the chain notes one capture, if there is a chain. -/
lemma notes_of_completeHead {now : Int} {f w p : List Nat} (h : q.completeHead now = .ok q')
    (hplaced : q.Placed f q.active w p) : q.Notes q' := by
  obtain ⟨-, rfl⟩ | ⟨head, rest, setup, hactive, -, rfl⟩ := completeHead_cases h
  · exact .none rfl fun _ => id
  · have hlength : head < q.buffers.length :=
      lt_length_of_stateOf (hplaced.active head (hactive ▸ List.mem_cons_self))
    refine .one head now ?_ (marks_modify fun _ => rfl) fun i hi hdone => ?_
    · exact stateOf_modify_self q head _ hlength fun _ => rfl
    · exact (stateOf_modify_ne q head i _ (Ne.symm hi)).symm.trans hdone

/-- Where no frame comes or goes and nothing is noted, the notes are what they were. -/
lemma Notes.sameCaptures {q'' : CaptureQueue} (h : q.Notes q') (hsame : q'.SameCaptures q'')
    (hmarks : q''.marks = q'.marks) : q.Notes q'' := by
  have hdone : ∀ i, q''.stateOf i = some .done ↔ q'.stateOf i = some .done := fun i => by
    rw [stateOf_eq_done_iff, stateOf_eq_done_iff, hsame i]
  cases h with
  | none hkept hnone => exact .none (hmarks.trans hkept) fun i hi => hnone i ((hdone i).mp hi)
  | one head now hhead hnoted hothers =>
    exact .one head now ((hdone head).mpr hhead) (hmarks.trans hnoted)
      fun i hi hi' => hothers i hi ((hdone i).mp hi')

end CaptureQueue

namespace Channel

open CaptureQueue (Operation Answer Event Notes)

variable {δ : Type} {c c' : Channel δ} {now : Int}

/-! ## Scheduling notes nothing -/

/-- Starting a chain notes nothing. -/
lemma marks_of_startHead (h : c.startHead now = .ok c') : c'.marks = c.marks := by
  obtain ⟨-, rfl⟩ | ⟨head, rest, q, setup, engine, regs, -, hq, -, -, rfl⟩ := startHead_cases h
  · rfl
  · exact hq.map_buffers fun _ _ _ => rfl

/-- Starting what waits notes nothing. -/
lemma marks_of_restart (h : c.restart now = .ok c') : c'.marks = c.marks := by
  obtain ⟨-, hstart⟩ | ⟨q, -, hpromote, hstart⟩ := restart_cases h
  · exact marks_of_startHead hstart
  · exact (marks_of_startHead hstart).trans
      (CaptureQueue.map_buffers_of_promote (fun _ _ => rfl) hpromote)

/-- A buffer that finds its place keeps what it notes. -/
lemma marks_of_place {i : Nat} (h : c.place now i = .ok c') : c'.marks = c.marks := by
  have hpointed := c.marks_pointTail i c.stopper.address
  obtain ⟨-, ⟨-, rfl⟩ | ⟨-, -, -, hstart⟩ |
    ⟨previous, spliced, -, -, -, -, hsplice, rfl⟩⟩ := place_cases h
  · refine Eq.trans ?_ hpointed
    exact CaptureQueue.map_buffers_modify _ i _ fun _ => rfl
  · exact (marks_of_startHead hstart).trans hpointed
  · obtain ⟨-, -, target, -, -, rfl⟩ := CaptureQueue.splice_eq_ok.mp hsplice
    refine (CaptureQueue.marks_pointTail _ _ _).trans (Eq.trans ?_ hpointed)
    exact CaptureQueue.map_buffers_modify _ i _ fun _ => rfl

/-- Buffers that find their places keep what they note. -/
lemma marks_of_placeAll {ready : List Nat} (h : c.placeAll now ready = .ok c') :
    c'.marks = c.marks :=
  placeAll_keeps (P := fun c' => c'.marks = c.marks)
    (fun _ _ _ hc hplace => (marks_of_place hplace).trans hc) h rfl

/-! ## What operations do to the notes -/

/-- Handing a buffer in captures nothing. -/
lemma notes_of_enqueue {i : Nat} {result : Except Error Unit}
    (h : c.enqueue now i = .ok (result, c')) : c.Notes c'.toCaptureQueue := by
  refine .none ?_ (noneDone_of_enqueue h)
  obtain ⟨_, -, rfl⟩ | ⟨-, -, -, ⟨-, hplace⟩ | ⟨-, rfl⟩⟩ := enqueue_cases h
  · rfl
  · have hplaced := marks_of_place hplace
    exact hplaced
  · rfl

/-- Taking a buffer back captures nothing. -/
lemma notes_of_dequeue {result : Except Error Frame} (h : c.dequeue = .ok (result, c')) :
    c.Notes c'.toCaptureQueue := by
  refine .none ?_ (noneDone_of_dequeue h)
  obtain ⟨_, -, rfl⟩ | ⟨_, _, _, _, -, -, -, -, -, rfl⟩ := dequeue_cases h <;> rfl

/-- Starting or resuming capture captures nothing by itself. -/
lemma notes_of_streamOn {result : Except Error Unit} (h : c.streamOn now = .ok (result, c')) :
    c.Notes c'.toCaptureQueue := by
  refine .none ?_ (noneDone_of_streamOn h)
  obtain ⟨-, -, -, rfl⟩ | ⟨-, -, -, hrestart⟩ | ⟨-, -, hplace⟩ := streamOn_cases h
  · rfl
  · have hrestarted := marks_of_restart hrestart
    exact hrestarted
  · have hplaced := marks_of_placeAll hplace
    exact hplaced

/-- A stall captures nothing, and what is given up keeps its notes. -/
lemma notes_of_checkTimeout {stalled : Bool} (h : c.checkTimeout now = .ok (stalled, c')) :
    c.Notes c'.toCaptureQueue := by
  refine .none ?_ (noneDone_of_checkTimeout h)
  obtain ⟨-, rfl, -⟩ | ⟨-, -, rfl⟩ | ⟨-, -, q, hq, hrestart⟩ := checkTimeout_cases h
  · rfl
  · rfl
  · exact (marks_of_restart hrestart).trans (hq.map_buffers fun _ _ => rfl)

/-- A completion notes one capture at most, with the time it is reported at and the next number. -/
lemma notes_of_handleCompletion {f : List Nat} (h : c.handleCompletion now = .ok c')
    (hplaced : c.Placed f c.active c.queued []) : c.Notes c'.toCaptureQueue := by
  obtain ⟨-, rfl⟩ | ⟨q, -, hcomplete, hcase⟩ := handleCompletion_cases h
  · exact .none rfl fun _ => id
  · have hnotes := CaptureQueue.notes_of_completeHead hcomplete hplaced
    obtain ⟨f', hplaced', -⟩ := placed_of_completeHead hcomplete hplaced
    -- what is done once the head is retired stays done, because it is not in the chain any more
    obtain ⟨-, hpark⟩ | ⟨-, rfl⟩ := hcase
    · obtain ⟨-, -, rfl⟩ | ⟨-, hrestart⟩ := park_cases hpark
      · exact hnotes.sameCaptures (fun _ => rfl) rfl
      · exact hnotes.sameCaptures
          (sameCaptures_of_restart hrestart (hplaced'.congr rfl fun _ => rfl))
          (marks_of_restart hrestart)
    · exact hnotes

/-- **Interrupt status notes one capture at most.** -/
theorem notes_of_handleStatus {bits : UInt32} {mine : Bool} (hc : c.Settled)
    (h : c.handleStatus now bits = .ok (mine, c')) : c.Notes c'.toCaptureQueue := by
  obtain ⟨-, -, rfl⟩ | ⟨-, -, ⟨-, rfl⟩ | ⟨-, -, hfail⟩ | ⟨hon, -, hcompletion⟩⟩ :=
    handleStatus_cases h
  · exact .none rfl fun _ => id
  · exact .none rfl fun _ => id
  · obtain ⟨q, backlog, hq, rfl⟩ := failStop_cases hfail
    exact .none (hq.map_buffers fun _ _ => rfl) hq.noneDone
  · obtain ⟨f, hplaced⟩ := hc.on hon
    have hnotes := notes_of_handleCompletion hcompletion (hplaced.congr rfl fun _ => rfl)
    exact hnotes

section Buffers

variable [DmaBackend δ]

/-- Releasing buffers takes no notes out. -/
lemma marks_of_releaseAll {dma dma' : δ} {index : Nat} {buffers released : List CaptureBuffer}
    (h : releaseAll dma index buffers = .ok (released, dma')) :
    released.map CaptureBuffer.mark = buffers.map CaptureBuffer.mark := by
  obtain ⟨rfl, -⟩ := released_of_releaseAll h
  rw [List.map_map]
  rfl

/-- Preparing a buffer takes no notes out. -/
lemma mark_of_prepare {buffer buffer' : CaptureBuffer} {dma dma' : δ} {index : Nat}
    {geometry : Geometry} {norm : Norm} {mode : LineOffset} {result : Except Error Unit}
    (h : buffer.prepare dma index geometry norm mode = .ok (result, buffer', dma')) :
    buffer'.mark = buffer.mark := by
  have hnew : ∀ {dma₁ : δ} {chunks old},
      buffer.Reprogrammed dma₁ index chunks old geometry norm mode result buffer' dma' →
      buffer'.mark = buffer.mark := by
    intro dma₁ chunks old hnew
    cases hnew <;> rfl
  obtain ⟨-, hdrain⟩ | ⟨-, _, -, -, rfl⟩ | ⟨-, _, _, -, hprogram⟩ | ⟨_, -, -, -, rfl, -⟩ |
    ⟨_, -, hprogram⟩ := CaptureBuffer.prepare_cases h
  · unfold CaptureBuffer.drain at hdrain
    split at hdrain <;> exact (Prod.mk.inj hdrain).1 ▸ rfl
  · rfl
  · exact hnew hprogram
  · rfl
  · exact hnew hprogram

/-- Preparing a buffer leaves what it notes. -/
lemma notes_of_prepare {i : Nat} {geometry : Geometry} {norm : Norm} {result : Except Error Unit}
    (h : c.prepare i geometry norm = .ok (result, c')) : c.Notes c'.toCaptureQueue := by
  refine .none ?_ (noneDone_of_prepare h)
  obtain ⟨_, -, rfl⟩ | ⟨buffer, buffer', dma, -, hbuffer, -, hprepare, rfl⟩ := prepare_cases h
  · rfl
  · show (c.buffers.set i buffer').map CaptureBuffer.mark = c.buffers.map CaptureBuffer.mark
    obtain ⟨hlt, hmark⟩ :=
      List.getElem?_eq_some_iff.mp (CaptureQueue.marks_of_getElem? hbuffer)
    rw [List.map_set, mark_of_prepare hprepare, ← hmark]
    exact List.set_getElem_self hlt

/-- Stopping capture captures nothing, and what is given up keeps its notes. -/
lemma notes_of_streamOff {result : Except Error Unit} (h : c.streamOff = .ok (result, c')) :
    c.Notes c'.toCaptureQueue := by
  refine .none ?_ (noneDone_of_streamOff h)
  obtain ⟨-, -, rfl⟩ | ⟨-, -, buffers, dma, hrelease, rfl⟩ := streamOff_cases h
  · rfl
  · refine (marks_of_releaseAll hrelease).trans ?_
    rw [List.map_map]
    rfl

/-- Whether an operation replaces the buffers, and all that they note with them. -/
def Replaces (c : Channel δ) : Operation → Prop
  | .request _ _ => c.streaming = false
  | .shutdown => True
  | _ => False

/-- What an operation does to the notes: it replaces the buffers by others into which nothing was
captured, or leaves what is noted except for one capture more. -/
def Logs (c : Channel δ) (operation : Operation) (q : CaptureQueue) : Prop :=
  c.Replaces operation ∧ q.Blank ∨ ¬c.Replaces operation ∧ c.Notes q

/-- Buffers are replaced by others into which nothing was captured, or the request is refused and
they keep what they note. -/
lemma logs_of_requestBuffers {count capacity : Nat} {result : Except Error Nat}
    (h : c.requestBuffers count capacity = .ok (result, c')) :
    c.Logs (.request count capacity) c'.toCaptureQueue := by
  obtain ⟨hon, -, rfl⟩ | ⟨hoff, released, dma, -, -, rfl⟩ := requestBuffers_cases h
  · refine .inr ⟨fun hoff => ?_, .none rfl fun _ => id⟩
    cases hon.symm.trans hoff
  · refine .inl ⟨hoff, fun buffer hbuffer => ?_⟩
    rw [(List.mem_replicate.mp hbuffer).2]
    exact ⟨nofun, rfl⟩

/-- Shutting down leaves no buffers, and so none into which something was captured. -/
lemma blank_of_shutdown (h : c.shutdown = .ok c') : c'.Blank := by
  obtain ⟨c₁, hstopped, _, hrequest⟩ := shutdown_cases h
  have hoff : c₁.streaming = false := by
    obtain ⟨hoff, rfl⟩ | ⟨hon, _, hstop⟩ := hstopped
    · exact hoff
    · obtain ⟨hoff, -, -⟩ | ⟨-, -, buffers, dma, -, rfl⟩ := streamOff_cases hstop
      · cases hoff.symm.trans hon
      · rfl
  obtain ⟨-, hblank⟩ | ⟨hkept, -⟩ := logs_of_requestBuffers hrequest
  · exact hblank
  · exact absurd hoff hkept

/-- **What each operation does to the notes.** -/
theorem responding_notes : Responding fun operation _ (c c' : Channel δ) =>
    c.Settled → c.Logs operation c'.toCaptureQueue where
  request h _ := logs_of_requestBuffers h
  prepare h _ := .inr ⟨id, notes_of_prepare h⟩
  enqueue h _ := .inr ⟨id, notes_of_enqueue h⟩
  dequeue h _ := .inr ⟨id, notes_of_dequeue h⟩
  streamOn h _ := .inr ⟨id, notes_of_streamOn h⟩
  streamOff h _ := .inr ⟨id, notes_of_streamOff h⟩
  status h hc := .inr ⟨id, notes_of_handleStatus hc h⟩
  timeout h _ := .inr ⟨id, notes_of_checkTimeout h⟩
  maskAll _ := .inr ⟨id, .none rfl fun _ => id⟩
  report _ _ _ := .inr ⟨id, .none rfl fun _ => id⟩
  shutdown h _ := .inl ⟨trivial, blank_of_shutdown h⟩

/-! ## Sessions -/

/-- A session on record has captured a frame into a buffer, at a time and under a number, and has
not replaced the buffers since. -/
def Remembers (c₀ : Channel δ) (events : List Event) (c : Channel δ) (i : Nat) (now : Int)
    (number : UInt32) : Prop :=
  ∃ (before after : List Event) (c₁ : Channel δ), events = before ++ after ∧
    c₀.Session (fun _ _ => True) (fun _ _ => True) before c₁ ∧ c₁.stateOf i = some .done ∧
    c₁.marks[i]? = some (some now, number) ∧
    c₁.Session (fun c operation => ¬c.Replaces operation) (fun _ _ => True) after c

variable {c₀ c₁ : Channel δ} {events : List Event} {i : Nat} {number : UInt32}
  {operation : Operation} {answer : Answer} {regs : RegisterFile} {dma dma' : δ} {config : Config}

/-- What is captured is remembered. -/
lemma remembers_of_done (h : c₀.Session (fun _ _ => True) (fun _ _ => True) events c)
    (hdone : c.stateOf i = some .done) (hmark : c.marks[i]? = some (some now, number)) :
    c₀.Remembers events c i now number :=
  ⟨events, [], c, (List.append_nil events).symm, h, hdone, hmark, .refl⟩

/-- It is still remembered after an operation that does not replace the buffers. -/
lemma Remembers.perform (h : c₀.Remembers events c i now number) (hkeeps : ¬c.Replaces operation)
    (hperform : c.perform operation = .ok (answer, c')) :
    c₀.Remembers (events ++ [⟨operation, answer⟩]) c' i now number := by
  obtain ⟨before, after, c₁, rfl, hbefore, hdone, hmark, hafter⟩ := h
  exact ⟨before, _, c₁, List.append_assoc before after _, hbefore, hdone, hmark,
    hafter.perform hkeeps hperform⟩

/-- And after a change of the registers. -/
lemma Remembers.drift (h : c₀.Remembers events c i now number) (regs : RegisterFile) :
    c₀.Remembers events { c with regs } i now number := by
  obtain ⟨before, after, c₁, hevents, hbefore, hdone, hmark, hafter⟩ := h
  exact ⟨before, after, c₁, hevents, hbefore, hdone, hmark, hafter.drift trivial⟩

/-- What the notes of a queue tell after a session: every buffer that is done has a time, and a time
that is noted is that of a capture remembered. -/
structure Recounts (c₀ : Channel δ) (events : List Event) (c : Channel δ) : Prop where
  /-- Buffers that are done have a time. -/
  done : ∀ i, c.stateOf i = some .done → ∃ now number, c.marks[i]? = some (some now, number)
  /-- A time is that of a capture. -/
  noted : ∀ i now number, c.marks[i]? = some (some now, number) →
    c₀.Remembers events c i now number

/-- An operation leaves the notes telling that.

**Proof sketch.** Buffers that are replaced note nothing. Otherwise all notes stay, or one buffer's
becomes that of the capture that has just been made. -/
lemma Recounts.perform (h : c₀.Recounts events c) (hc : c.Settled)
    (hsession : c₀.Session (fun _ _ => True) (fun _ _ => True) events c)
    (hperform : c.perform operation = .ok (answer, c')) :
    c₀.Recounts (events ++ [⟨operation, answer⟩]) c' := by
  obtain ⟨-, hblank⟩ | ⟨hkeeps, hnotes⟩ := responding_notes.of_perform hperform hc
  · -- the new buffers note nothing
    refine ⟨fun i hi => ?_, fun i now number hi => ?_⟩
    · obtain ⟨buffer, hbuffer, hstate⟩ := Option.map_eq_some_iff.mp hi
      exact absurd hstate (hblank buffer (List.mem_of_getElem? hbuffer)).1
    · rw [CaptureQueue.marks, List.getElem?_map] at hi
      obtain ⟨buffer, hbuffer, hmark⟩ := Option.map_eq_some_iff.mp hi
      have htime : buffer.timestamp = some now := congrArg Prod.fst hmark
      cases (hblank buffer (List.mem_of_getElem? hbuffer)).2.symm.trans htime
  · cases hnotes with
    | none hsame hnone =>
      refine ⟨fun i hi => ?_, fun i now number hi => ?_⟩
      · rw [show c'.marks = c.marks from hsame]
        exact h.done i (hnone i hi)
      · exact (h.noted i now number (hsame ▸ hi)).perform hkeeps hperform
    | one head time hhead hmarks hothers =>
      have hlength : head < c.marks.length := by
        have hlt : head < c'.marks.length := by
          rw [CaptureQueue.marks, List.length_map]
          exact CaptureQueue.lt_length_of_stateOf hhead
        rwa [hmarks, List.length_set] at hlt
      have hnew : c'.marks[head]? = some (some time, c.sequence) := by
        rw [hmarks, List.getElem?_set_self hlength]
      have hold : ∀ i, i ≠ head → c'.marks[i]? = c.marks[i]? := fun i hi => by
        rw [hmarks, List.getElem?_set_ne (Ne.symm hi)]
      refine ⟨fun i hi => ?_, fun i now number hi => ?_⟩
      · by_cases heq : i = head
        · exact ⟨time, c.sequence, heq ▸ hnew⟩
        · rw [hold i heq]
          exact h.done i (hothers i heq hi)
      · by_cases heq : i = head
        · subst heq
          exact remembers_of_done (hsession.perform trivial hperform) hhead hi
        · rw [hold i heq] at hi
          exact (h.noted i now number hi).perform hkeeps hperform

/-- **The notes of a queue tell of captures only**, after every session.

**Proof sketch.** Induction on the session. -/
theorem recounts_of_session (hcreate : create regs dma config = (.ok c₀, dma'))
    (h : c₀.Session (fun _ _ => True) (fun _ _ => True) events c) : c₀.Recounts events c := by
  induction h with
  | refl =>
    obtain ⟨stopper, -, rfl⟩ := create_eq_ok hcreate
    exact ⟨nofun, nofun⟩
  | perform hsession _ hperform ih =>
    exact ih.perform (settled_of_reaches hcreate hsession.reaches) hsession hperform
  | drift _ _ ih =>
    exact ⟨ih.done, fun i now number hi => (ih.noted i now number hi).drift _⟩

/-- Of what is remembered a time is noted.

**Proof sketch.** Induction on what happened since the capture. -/
lemma Remembers.exists_noted (hcreate : create regs dma config = (.ok c₀, dma'))
    (h : c₀.Remembers events c i now number) :
    ∃ time number, c.marks[i]? = some (some time, number) := by
  obtain ⟨before, after, c₁, -, hbefore, -, hmark, hafter⟩ := h
  refine hafter.keeps (P := fun c => ∃ time number, c.marks[i]? = some (some time, number))
    ⟨now, number, hmark⟩ (fun c₂ c₃ operation answer hreach hkeeps hnoted hperform => ?_)
    fun _ _ _ hnoted => hnoted
  have hsettled := settled_of_reaches hcreate (hbefore.reaches.trans hreach)
  obtain ⟨hreplaces, -⟩ | ⟨-, hnotes⟩ := responding_notes.of_perform hperform hsettled
  · exact absurd hreplaces hkeeps
  · obtain ⟨time, number, hmark⟩ := hnoted
    cases hnotes with
    | none hsame _ => exact ⟨time, number, hsame ▸ hmark⟩
    | one head later _ hmarks _ =>
      by_cases heq : head = i
      · subst heq
        have hlength := (List.getElem?_eq_some_iff.mp hmark).1
        exact ⟨later, c₂.sequence, by rw [hmarks, List.getElem?_set_self hlength]⟩
      · exact ⟨time, number, by rw [hmarks, List.getElem?_set_ne heq, hmark]⟩

/-- What the time of a frame tells that is handed back after a session. -/
structure Dated (c₀ : Channel δ) (events : List Event) (c : Channel δ) (frame : Frame) : Prop where
  /-- The frame is done or in error. -/
  finished : frame.state = .done ∨ frame.state = .error
  /-- A frame that is done has a time. -/
  done : frame.state = .done → ∃ now, frame.timestamp = some now
  /-- A time that is shown is the time of a capture into the same buffer, and the number that of the
  frame captured then. -/
  shown : ∀ now, frame.timestamp = some now →
    c₀.Remembers events c frame.index now frame.sequence
  /-- A time is shown after any such capture. -/
  kept : ∀ now number, c₀.Remembers events c frame.index now number → frame.timestamp ≠ none
  /-- The frames with a time are those that are done if and only if nothing was captured into the
  buffer before it was given up. -/
  tells : (frame.timestamp ≠ none ↔ frame.state = .done) ↔
    (frame.state = .error → ∀ now number, ¬c₀.Remembers events c frame.index now number)

/-- **A frame has a time if and only if something was captured into its buffer** since the buffers
were replaced, whatever has become of the buffer afterwards. So the time tells captured frames from
those that were given up in buffers used for the first time only.

**Proof sketch.** The buffer that is handed back notes the last capture into it, if there was one. A
buffer that is done was captured into, and notes are never taken back but with the buffers. -/
theorem dated_of_session {frame : Frame} (hcreate : create regs dma config = (.ok c₀, dma'))
    (h : c₀.Session (fun _ _ => True) (fun _ _ => True) events c)
    (hdequeue : c.dequeue = .ok (.ok frame, c')) : c₀.Dated events c frame := by
  obtain ⟨_, hrefused, -⟩ | ⟨i, rest, buffer, bytesUsed, -, hbuffer, hfinished, hframe, -, -⟩ :=
    dequeue_cases hdequeue
  · cases hrefused
  · obtain rfl := Except.ok.inj hframe
    have hrecounts := recounts_of_session hcreate h
    have hmark : c.marks[i]? = some (buffer.timestamp, buffer.sequence) :=
      CaptureQueue.marks_of_getElem? hbuffer
    have hstate : buffer.state = .done ∨ buffer.state = .error := by
      cases hstate : buffer.state <;> simp [hstate, BufferState.finished] at hfinished ⊢
    have hdone : buffer.state = .done → ∃ now, buffer.timestamp = some now := fun hdone => by
      obtain ⟨now, number, hnoted⟩ := hrecounts.done i
        ((CaptureQueue.stateOf_of_getElem? hbuffer).trans (congrArg some hdone))
      exact ⟨now, congrArg Prod.fst (Option.some.inj (hmark.symm.trans hnoted))⟩
    have hshown : ∀ now, buffer.timestamp = some now →
        c₀.Remembers events c i now buffer.sequence :=
      fun now hnow => hrecounts.noted i now _ (hnow ▸ hmark)
    have hkept : ∀ now number, c₀.Remembers events c i now number → buffer.timestamp ≠ none := by
      intro now number hremembers hnone
      obtain ⟨time, _, hnoted⟩ := hremembers.exists_noted hcreate
      cases hnone.symm.trans (congrArg Prod.fst (Option.some.inj (hmark.symm.trans hnoted)))
    refine ⟨hstate, hdone, hshown, hkept, fun htells herror now number hremembers => ?_,
      fun hnothing => ⟨fun hsome => ?_, fun hcaptured => ?_⟩⟩
    · cases herror.symm.trans (htells.mp (hkept now number hremembers))
    · refine hstate.resolve_right fun herror => ?_
      obtain ⟨now, hnow⟩ := Option.ne_none_iff_exists'.mp hsome
      exact hnothing herror now _ (hshown now hnow)
    · obtain ⟨now, hnow⟩ := hdone hcaptured
      exact hnow ▸ Option.some_ne_none now

/-- A buffer is captured into, handed back, prepared anew and handed in again, and then given up
because of a fault. The frame that is handed back in error has the time of the first capture. -/
theorem dated_of_session_recycled : ∃ c₀ dma events c frame c',
    create {} HostDma.create {} = (.ok c₀, dma) ∧
      c₀.Session (fun _ _ => True) (fun _ _ => True) events c ∧
      c.dequeue = .ok (.ok frame, c') ∧ frame.state = .error ∧ frame.timestamp = some 7 ∧
      c₀.Dated events c frame ∧ c₀.Remembers events c frame.index 7 frame.sequence := by
  let narrow : Geometry := { width := 48, height := 32, format := .initial, field := .bottom }
  obtain ⟨c₀, dma, events, c, hcreate, hsession, hview⟩ :=
    exists_session_of_hostedRecord (fun _ _ => True)
      (show hostedRecord (fun _ _ => True) [.request 1 8192, .prepare 0 narrow .initial,
        .enqueue 0 0, .streamOn 0, .status 7 Status.program, .dequeue, .prepare 0 narrow .initial,
        .enqueue 8 0, .status 9 Status.faults] (fun _ c => c.dequeue.toOption.bind fun taken =>
          taken.1.toOption.map fun frame => (frame.state, frame.timestamp)) =
        some (some (.error, some 7)) by decide +kernel)
  obtain ⟨⟨result, c'⟩, hdequeue, hresult⟩ := Option.bind_eq_some_iff.mp hview
  obtain ⟨frame, hframe, hparts⟩ := Option.map_eq_some_iff.mp hresult
  obtain rfl := toOption_eq_some.mp hframe
  obtain ⟨hstate, htime⟩ := Prod.mk.inj hparts
  have hdated := dated_of_session hcreate hsession (toOption_eq_some.mp hdequeue)
  exact ⟨c₀, dma, events, c, frame, c', hcreate, hsession, toOption_eq_some.mp hdequeue, hstate,
    htime, hdated, hdated.shown 7 htime⟩

end Buffers

end Channel

end VideoCapture
