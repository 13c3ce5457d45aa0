import VideoCapture.Queue.Stream
import VideoCapture.Proofs.Program.Tail

/-!
# Views of a queue's buffers

Scheduling changes buffers one at a time and one part at a time. What is said about a queue is
therefore said through views, one per part of a buffer: its stage, its setup, its position. Each
change of a buffer has one lemma per view, so the operations need not be opened again.

Scheduling never changes what a buffer was prepared with, apart from where the tail of its program
points. The *fixture* of a buffer is what is left of it when the parts that scheduling changes are
blanked out, and the fixtures of a queue stay the same through all of scheduling.

## Main definitions

* `VideoCapture.CaptureQueue.stateOf`, `VideoCapture.CaptureQueue.setupOf`,
  `VideoCapture.CaptureQueue.positionOf` — the views.
* `VideoCapture.CaptureBuffer.fixture`, `VideoCapture.CaptureQueue.fixtures` — what scheduling
  leaves alone.

## Main results

* `VideoCapture.CaptureQueue.scheduled_eq_ok`, `VideoCapture.CaptureQueue.resident_eq_ok` — the
  accesses of the operations, as views.
* `VideoCapture.CaptureQueue.setupOf_eq_of_fixtures` — the same fixtures, the same setups untied.
-/

set_option autoImplicit false

namespace VideoCapture

/-- A setup with the tail of its program pointed nowhere. -/
def Setup.untied (setup : Setup) : Setup :=
  { setup with program := setup.program.untied }

/-- A buffer with the parts blanked out that scheduling changes. -/
def CaptureBuffer.fixture (buffer : CaptureBuffer) : CaptureBuffer where
  capacity := buffer.capacity
  setup := buffer.setup.map Setup.untied

namespace CaptureQueue

/-! ## The views -/

/-- The stage of a buffer, if it exists. -/
def stateOf (q : CaptureQueue) (i : Nat) : Option BufferState :=
  q.buffers[i]?.map CaptureBuffer.state

/-- What a buffer holds, if it exists and has been prepared. -/
def setupOf (q : CaptureQueue) (i : Nat) : Option Setup :=
  q.buffers[i]?.bind CaptureBuffer.setup

/-- The position of a buffer in the run of the engine, if it exists. -/
def positionOf (q : CaptureQueue) (i : Nat) : Option Nat :=
  q.buffers[i]?.map CaptureBuffer.position

/-- The fixtures of a queue's buffers. -/
def fixtures (q : CaptureQueue) : List CaptureBuffer :=
  q.buffers.map CaptureBuffer.fixture

/-- Looking up a buffer finds the one at its index. -/
lemma resident_eq_ok {q : CaptureQueue} {i : Nat} {buffer : CaptureBuffer} :
    q.resident i = .ok buffer ↔ q.buffers[i]? = some buffer := by
  unfold resident
  split
  · next b hb => simp [hb]
  · next hb => simp [hb]

/-- Looking up what a scheduled buffer holds finds its setup. -/
lemma scheduled_eq_ok {q : CaptureQueue} {i : Nat} {setup : Setup} :
    q.scheduled i = .ok setup ↔ q.setupOf i = some setup := by
  unfold scheduled
  rw [bind_eq_ok, setupOf, Option.bind_eq_some_iff]
  simp only [resident_eq_ok]
  refine exists_congr fun buffer => and_congr_right fun _ => ?_
  cases hsetup : buffer.setup with
  | none => simp [throw, throwThe, MonadExceptOf.throw]
  | some s => simp [pure_eq_ok]

/-- The stage of a buffer that exists. -/
lemma stateOf_of_getElem? {q : CaptureQueue} {i : Nat} {buffer : CaptureBuffer}
    (h : q.buffers[i]? = some buffer) : q.stateOf i = some buffer.state := by
  rw [stateOf, h, Option.map_some]

/-- What a buffer holds that exists. -/
lemma setupOf_of_getElem? {q : CaptureQueue} {i : Nat} {buffer : CaptureBuffer}
    (h : q.buffers[i]? = some buffer) : q.setupOf i = buffer.setup := by
  rw [setupOf, h, Option.bind_some]

/-- A buffer that has a stage exists. -/
lemma lt_length_of_stateOf {q : CaptureQueue} {i : Nat} {s : BufferState}
    (h : q.stateOf i = some s) : i < q.buffers.length := by
  obtain ⟨buffer, hbuffer, -⟩ := Option.map_eq_some_iff.mp h
  exact (List.getElem?_eq_some_iff.mp hbuffer).1

/-! ## Changing one buffer -/

variable (q : CaptureQueue) (i j : Nat) (f : CaptureBuffer → CaptureBuffer)

/-- A change of one buffer shows in that buffer only. -/
lemma getElem?_modify :
    (q.modify i f).buffers[j]? = if i = j then q.buffers[j]?.map f else q.buffers[j]? := by
  simp only [modify, List.getElem?_modify]
  split
  · rfl
  · simp

/-- A buffer that is not changed keeps its stage. -/
lemma stateOf_modify_ne (h : i ≠ j) : (q.modify i f).stateOf j = q.stateOf j := by
  rw [stateOf, getElem?_modify, if_neg h, stateOf]

/-- A buffer that exists takes on the stage that a change gives it. -/
lemma stateOf_modify_self {s : BufferState} (hi : i < q.buffers.length)
    (hf : ∀ buffer, (f buffer).state = s) : (q.modify i f).stateOf i = some s := by
  rw [stateOf, getElem?_modify, if_pos rfl, List.getElem?_eq_getElem hi]
  simp [hf]

/-- A change that leaves stages alone leaves every stage alone. -/
lemma stateOf_modify (hf : ∀ buffer, (f buffer).state = buffer.state) :
    (q.modify i f).stateOf j = q.stateOf j := by
  rw [stateOf, getElem?_modify, stateOf]
  split
  · rw [Option.map_map]
    exact congrArg (Option.map · _) (funext hf)
  · rfl

/-- A change that leaves setups alone leaves every setup alone. -/
lemma setupOf_modify (hf : ∀ buffer, (f buffer).setup = buffer.setup) :
    (q.modify i f).setupOf j = q.setupOf j := by
  rw [setupOf, getElem?_modify, setupOf]
  split
  · rw [Option.bind_map]
    exact congrArg (Option.bind _) (funext hf)
  · rfl

/-- What a buffer holds once one buffer has been replaced is what the new one holds, or what it held
before. -/
lemma setupOf_set {q : CaptureQueue} {i j : Nat} {buffer : CaptureBuffer} {setup : Setup}
    (hi : i < q.buffers.length)
    (hsetup : { q with buffers := q.buffers.set i buffer }.setupOf j = some setup) :
    j = i ∧ buffer.setup = some setup ∨ q.setupOf j = some setup := by
  rw [setupOf] at hsetup
  by_cases hj : i = j
  · subst hj
    rw [List.getElem?_set_self hi] at hsetup
    exact .inl ⟨rfl, hsetup⟩
  · rw [List.getElem?_set_ne hj] at hsetup
    exact .inr hsetup

/-- A change that leaves positions alone leaves every position alone. -/
lemma positionOf_modify (hf : ∀ buffer, (f buffer).position = buffer.position) :
    (q.modify i f).positionOf j = q.positionOf j := by
  rw [positionOf, getElem?_modify, positionOf]
  split
  · rw [Option.map_map]
    exact congrArg (Option.map · _) (funext hf)
  · rfl

/-- A buffer that is not changed keeps its position. -/
lemma positionOf_modify_ne (h : i ≠ j) : (q.modify i f).positionOf j = q.positionOf j := by
  rw [positionOf, getElem?_modify, if_neg h, positionOf]

/-- A change that leaves some part of a buffer alone leaves that part of all buffers alone. -/
lemma map_buffers_modify {α : Type} {view : CaptureBuffer → α}
    (hf : ∀ buffer, view (f buffer) = view buffer) :
    (q.modify i f).buffers.map view = q.buffers.map view := by
  apply List.ext_getElem?
  intro j
  rw [List.getElem?_map, List.getElem?_map, getElem?_modify]
  split
  · rw [Option.map_map]
    exact congrArg (Option.map · _) (funext hf)
  · rfl

/-- A change that leaves fixtures alone leaves the fixtures of the queue alone. -/
lemma fixtures_modify (hf : ∀ buffer, (f buffer).fixture = buffer.fixture) :
    (q.modify i f).fixtures = q.fixtures :=
  map_buffers_modify q i f hf

/-! ## What the fixtures fix -/

/-- **Queues of the same fixtures hold the same setups**, up to where the tails point. -/
theorem setupOf_eq_of_fixtures {q q' : CaptureQueue} (h : q'.fixtures = q.fixtures) (i : Nat) :
    (q'.setupOf i).map Setup.untied = (q.setupOf i).map Setup.untied := by
  have hi : (q'.buffers[i]?).map CaptureBuffer.fixture =
      (q.buffers[i]?).map CaptureBuffer.fixture := by
    simpa [fixtures] using congrArg (fun l => l[i]?) h
  have hsetup := congrArg (Option.bind · CaptureBuffer.setup) hi
  simpa [setupOf, Option.bind_map, Option.map_bind, Function.comp_def, CaptureBuffer.fixture]
    using hsetup

/-- What a buffer holds it also holds in a queue of the same fixtures, up to where its tail
points. -/
lemma exists_setupOf_of_fixtures {q q' : CaptureQueue} (h : q'.fixtures = q.fixtures) {i : Nat}
    {setup : Setup} (hsetup : q'.setupOf i = some setup) :
    ∃ before, q.setupOf i = some before ∧ before.untied = setup.untied := by
  have hi := setupOf_eq_of_fixtures h i
  rw [hsetup, Option.map_some] at hi
  exact Option.map_eq_some_iff.mp hi.symm

/-- A buffer that holds something does so in a queue of the same fixtures. -/
lemma exists_setupOf_congr {q q' : CaptureQueue} (h : q'.fixtures = q.fixtures) {i : Nat}
    (hi : ∃ setup, q.setupOf i = some setup) : ∃ setup, q'.setupOf i = some setup := by
  obtain ⟨setup, hsetup⟩ := hi
  obtain ⟨after, hafter, -⟩ := exists_setupOf_of_fixtures h.symm hsetup
  exact ⟨after, hafter⟩

end CaptureQueue

end VideoCapture
