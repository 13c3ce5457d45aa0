import VideoCapture.Queue.Stream
import VideoCapture.Dma.Host
import VideoCapture.Proofs.Outcome
import Mathlib.Tactic.Lemma

/-!
# Sessions of a capture queue

Users, the interrupt handler and the timer work on a queue by its operations, in any order. Between
two operations the registers of the chip may change in any way, because the chip and the other users
of its registers change them. A channel is reachable if a session leads to it.

## Main definitions

* `VideoCapture.CaptureQueue.Operation`, `VideoCapture.CaptureQueue.Answer` — the operations of a
  queue, and what they answer.
* `VideoCapture.Channel.perform` — carries an operation out.
* `VideoCapture.Channel.Reaches` — a session leads from one channel to another.
* `VideoCapture.Channel.Responding`, `VideoCapture.Channel.Relating` — every operation of a queue
  relates the channels before and after, with or without regard to its answer.
* `VideoCapture.Channel.Keeping` — no operation of a queue breaks a property.

## Main results

* `VideoCapture.Channel.Responding.of_perform` — the operations are told apart once and for all.
* `VideoCapture.Channel.Keeping.of_reaches` — what no operation breaks holds in a whole session.
-/

set_option autoImplicit false

namespace VideoCapture

/-- The operations of a capture queue. -/
inductive CaptureQueue.Operation where
  /-- Replaces the set of buffers. -/
  | request (count capacity : Nat)
  /-- Prepares a buffer. -/
  | prepare (index : Nat) (geometry : Geometry) (norm : Norm)
  /-- Hands a buffer in. -/
  | enqueue (now : Int) (index : Nat)
  /-- Takes a finished buffer back, without waiting for one. -/
  | dequeue
  /-- Starts or resumes capture. -/
  | streamOn (now : Int)
  /-- Stops capture. -/
  | streamOff
  /-- Acts on interrupt status. -/
  | status (now : Int) (bits : UInt32)
  /-- Looks for a stall. -/
  | timeout (now : Int)
  /-- Masks every interrupt source. -/
  | maskAll
  /-- Takes the oldest fault that has not been reported. -/
  | takeFault
  /-- Ends the use of the queue. -/
  | shutdown

/-- What the operations of a capture queue answer. -/
inductive CaptureQueue.Answer where
  /-- It is done. -/
  | done
  /-- It is refused. -/
  | refused (error : Error)
  /-- A frame is handed back. -/
  | frame (frame : Frame)
  /-- Whether there was anything to do. -/
  | flag (acted : Bool)
  /-- A fault, if there is one to report. -/
  | report (fault : Option UInt32)
  deriving DecidableEq

/-- The answer of an operation that can be refused. -/
def CaptureQueue.Answer.of {α : Type} (accepted : α → Answer) : Except Error α → Answer
  | .ok value => accepted value
  | .error error => refused error

/-- Whether such an operation was refused shows in what is answered. -/
lemma CaptureQueue.Answer.exists_ok_of_done {α : Type} {result : Except Error α}
    (h : of (fun _ => done) result = done) : ∃ value, result = .ok value := by
  cases result with
  | ok value => exact ⟨value, rfl⟩
  | error _ => cases h

/-- So does what it was refused for. -/
lemma CaptureQueue.Answer.of_ne_refused {α : Type} {accepted : α → Answer} {error : Error}
    {result : Except Error α} (haccepted : ∀ value, accepted value ≠ refused error)
    (h : result ≠ .error error) : of accepted result ≠ refused error := by
  cases result with
  | ok value => exact haccepted value
  | error other => exact fun hsame => h (congrArg Except.error (refused.inj hsame))

namespace Channel

open CaptureQueue (Operation Answer)

variable {δ : Type} [DmaBackend δ]

/-- Carries an operation out. -/
def perform (c : Channel δ) : Operation → Except Fault (Answer × Channel δ)
  | .request count capacity => do
    let (result, c) ← c.requestBuffers count capacity
    return (.of (fun _ => .done) result, c)
  | .prepare index geometry norm => do
    let (result, c) ← c.prepare index geometry norm
    return (.of (fun _ => .done) result, c)
  | .enqueue now index => do
    let (result, c) ← c.enqueue now index
    return (.of (fun _ => .done) result, c)
  | .dequeue => do
    let (result, c) ← c.dequeue
    return (.of .frame result, c)
  | .streamOn now => do
    let (result, c) ← c.streamOn now
    return (.of (fun _ => .done) result, c)
  | .streamOff => do
    let (result, c) ← c.streamOff
    return (.of (fun _ => .done) result, c)
  | .status now bits => do
    let (mine, c) ← c.handleStatus now bits
    return (.flag mine, c)
  | .timeout now => do
    let (stalled, c) ← c.checkTimeout now
    return (.flag stalled, c)
  | .maskAll => return (.done, c.maskAll)
  | .takeFault =>
    let (fault, q) := c.toCaptureQueue.takeFault
    return (.report fault, { c with toCaptureQueue := q })
  | .shutdown => return (.done, ← c.shutdown)

/-- A session leads from one channel to another. -/
inductive Reaches (c : Channel δ) : Channel δ → Prop where
  /-- A session of no operations leads nowhere. -/
  | refl : Reaches c c
  /-- A session goes on with an operation. -/
  | perform {c₁ c₂ : Channel δ} {operation : Operation} {answer : Answer} :
      Reaches c c₁ → c₁.perform operation = .ok (answer, c₂) → Reaches c c₂
  /-- A session goes on with a change of the registers. -/
  | change {c₁ : Channel δ} (regs : RegisterFile) : Reaches c c₁ → Reaches c { c₁ with regs }

/-- One session after another is a session. -/
lemma Reaches.trans {c c₁ c₂ : Channel δ} (h : c.Reaches c₁) (h' : c₁.Reaches c₂) :
    c.Reaches c₂ := by
  induction h' with
  | refl => exact h
  | perform _ hperform ih => exact ih.perform hperform
  | change regs _ ih => exact ih.change regs

/-- Carries operations out one after the other. -/
def performAll (c : Channel δ) : List Operation → Except Fault (Channel δ)
  | [] => return c
  | operation :: rest => do (← c.perform operation).2.performAll rest

/-- Operations carried out one after the other are a session. -/
lemma reaches_of_performAll {c c' : Channel δ} {operations : List Operation}
    (h : c.performAll operations = .ok c') : c.Reaches c' := by
  -- the session grows at its end, so the operations before stay general
  suffices hall : ∀ c₁ : Channel δ, c.Reaches c₁ → c₁.performAll operations = .ok c' →
      c.Reaches c' from hall c .refl h
  clear h
  induction operations with
  | nil =>
    intro c₁ hreach h
    obtain rfl : c₁ = c' := pure_eq_ok.mp h
    exact hreach
  | cons operation rest ih =>
    intro c₁ hreach h
    obtain ⟨⟨answer, c₂⟩, hperform, hrest⟩ := bind_eq_ok.mp h
    exact ih c₂ (hreach.perform hperform) hrest

/-- What shutting down does is to stop capture, if it is on, and then to give up every buffer. -/
lemma shutdown_cases {c c' : Channel δ} (h : c.shutdown = .ok c') :
    ∃ c₁, (c.streaming = false ∧ c₁ = c ∨ c.streaming = true ∧ ∃ r, c.streamOff = .ok (r, c₁)) ∧
      ∃ r, c₁.requestBuffers 0 0 = .ok (r, c') := by
  unfold shutdown at h
  split at h
  · next hstreaming =>
    simp only [bind_eq_ok, pure_eq_ok] at h
    obtain ⟨⟨result, c₁⟩, hoff, _, rfl, ⟨final, c₂⟩, hrequest, rfl⟩ := h
    exact ⟨c₁, .inr ⟨hstreaming, result, hoff⟩, final, hrequest⟩
  · next hstreaming =>
    simp only [bind_eq_ok, pure_eq_ok] at h
    obtain ⟨_, rfl, ⟨final, c₂⟩, hrequest, rfl⟩ := h
    exact ⟨c, .inl ⟨by simpa using hstreaming, rfl⟩, final, hrequest⟩

/-- Every operation of a queue, with what it answers, relates the channel before it to the channel
after it. -/
structure Responding (R : Operation → Answer → Channel δ → Channel δ → Prop) : Prop where
  /-- Replacing the buffers does. -/
  request : ∀ {c c' : Channel δ} {count capacity : Nat} {result : Except Error Nat},
    c.requestBuffers count capacity = .ok (result, c') →
    R (.request count capacity) (.of (fun _ => .done) result) c c'
  /-- Preparing a buffer does. -/
  prepare : ∀ {c c' : Channel δ} {index : Nat} {geometry : Geometry} {norm : Norm}
    {result : Except Error Unit}, c.prepare index geometry norm = .ok (result, c') →
    R (.prepare index geometry norm) (.of (fun _ => .done) result) c c'
  /-- Handing a buffer in does. -/
  enqueue : ∀ {c c' : Channel δ} {now : Int} {index : Nat} {result : Except Error Unit},
    c.enqueue now index = .ok (result, c') →
    R (.enqueue now index) (.of (fun _ => .done) result) c c'
  /-- Taking a buffer back does. -/
  dequeue : ∀ {c c' : Channel δ} {result : Except Error Frame},
    c.dequeue = .ok (result, c') → R .dequeue (.of .frame result) c c'
  /-- Starting or resuming capture does. -/
  streamOn : ∀ {c c' : Channel δ} {now : Int} {result : Except Error Unit},
    c.streamOn now = .ok (result, c') → R (.streamOn now) (.of (fun _ => .done) result) c c'
  /-- Stopping capture does. -/
  streamOff : ∀ {c c' : Channel δ} {result : Except Error Unit},
    c.streamOff = .ok (result, c') → R .streamOff (.of (fun _ => .done) result) c c'
  /-- Interrupt status does. -/
  status : ∀ {c c' : Channel δ} {now : Int} {bits : UInt32} {mine : Bool},
    c.handleStatus now bits = .ok (mine, c') → R (.status now bits) (.flag mine) c c'
  /-- The timer does. -/
  timeout : ∀ {c c' : Channel δ} {now : Int} {stalled : Bool},
    c.checkTimeout now = .ok (stalled, c') → R (.timeout now) (.flag stalled) c c'
  /-- Masking the interrupts does. -/
  maskAll : ∀ {c : Channel δ}, R .maskAll .done c c.maskAll
  /-- Reporting faults does. -/
  report : ∀ {c : Channel δ} (fault : Option UInt32) (backlog : List UInt32),
    R .takeFault (.report fault) c { c with backlog }
  /-- Shutting down does. -/
  shutdown : ∀ {c c' : Channel δ}, c.shutdown = .ok c' → R .shutdown .done c c'

/-- What every operation relates is related when one is carried out.

**Proof sketch.** One case for each operation; the field of that name is what is asked. -/
theorem Responding.of_perform {R : Operation → Answer → Channel δ → Channel δ → Prop}
    (hR : Responding R) {c c' : Channel δ} {operation : Operation} {answer : Answer}
    (h : c.perform operation = .ok (answer, c')) : R operation answer c c' := by
  cases operation with
  | request count capacity =>
    simp only [perform, bind_eq_ok, pure_eq_ok, Prod.mk.injEq] at h
    obtain ⟨⟨result, _⟩, h, rfl, rfl⟩ := h
    exact hR.request h
  | prepare index geometry norm =>
    simp only [perform, bind_eq_ok, pure_eq_ok, Prod.mk.injEq] at h
    obtain ⟨⟨result, _⟩, h, rfl, rfl⟩ := h
    exact hR.prepare h
  | enqueue now index =>
    simp only [perform, bind_eq_ok, pure_eq_ok, Prod.mk.injEq] at h
    obtain ⟨⟨result, _⟩, h, rfl, rfl⟩ := h
    exact hR.enqueue h
  | dequeue =>
    simp only [perform, bind_eq_ok, pure_eq_ok, Prod.mk.injEq] at h
    obtain ⟨⟨result, _⟩, h, rfl, rfl⟩ := h
    exact hR.dequeue h
  | streamOn now =>
    simp only [perform, bind_eq_ok, pure_eq_ok, Prod.mk.injEq] at h
    obtain ⟨⟨result, _⟩, h, rfl, rfl⟩ := h
    exact hR.streamOn h
  | streamOff =>
    simp only [perform, bind_eq_ok, pure_eq_ok, Prod.mk.injEq] at h
    obtain ⟨⟨result, _⟩, h, rfl, rfl⟩ := h
    exact hR.streamOff h
  | status now bits =>
    simp only [perform, bind_eq_ok, pure_eq_ok, Prod.mk.injEq] at h
    obtain ⟨⟨mine, _⟩, h, rfl, rfl⟩ := h
    exact hR.status h
  | timeout now =>
    simp only [perform, bind_eq_ok, pure_eq_ok, Prod.mk.injEq] at h
    obtain ⟨⟨stalled, _⟩, h, rfl, rfl⟩ := h
    exact hR.timeout h
  | maskAll =>
    simp only [perform, pure_eq_ok, Prod.mk.injEq] at h
    obtain ⟨rfl, rfl⟩ := h
    exact hR.maskAll
  | takeFault =>
    simp only [perform, pure_eq_ok, Prod.mk.injEq] at h
    obtain ⟨rfl, rfl⟩ := h
    unfold CaptureQueue.takeFault
    split
    · exact hR.report none c.backlog
    · exact hR.report _ _
  | shutdown =>
    simp only [perform, bind_eq_ok, pure_eq_ok, Prod.mk.injEq] at h
    obtain ⟨_, h, rfl, rfl⟩ := h
    exact hR.shutdown h

/-- Every operation of a queue relates the channel before it to the channel after it. -/
structure Relating (R : Channel δ → Channel δ → Prop) : Prop where
  /-- Replacing the buffers does. -/
  request : ∀ {c c' : Channel δ} {count capacity : Nat} {result : Except Error Nat},
    c.requestBuffers count capacity = .ok (result, c') → R c c'
  /-- Preparing a buffer does. -/
  prepare : ∀ {c c' : Channel δ} {index : Nat} {geometry : Geometry} {norm : Norm}
    {result : Except Error Unit}, c.prepare index geometry norm = .ok (result, c') → R c c'
  /-- Handing a buffer in does. -/
  enqueue : ∀ {c c' : Channel δ} {now : Int} {index : Nat} {result : Except Error Unit},
    c.enqueue now index = .ok (result, c') → R c c'
  /-- Taking a buffer back does. -/
  dequeue : ∀ {c c' : Channel δ} {result : Except Error Frame},
    c.dequeue = .ok (result, c') → R c c'
  /-- Starting or resuming capture does. -/
  streamOn : ∀ {c c' : Channel δ} {now : Int} {result : Except Error Unit},
    c.streamOn now = .ok (result, c') → R c c'
  /-- Stopping capture does. -/
  streamOff : ∀ {c c' : Channel δ} {result : Except Error Unit},
    c.streamOff = .ok (result, c') → R c c'
  /-- Interrupt status does. -/
  status : ∀ {c c' : Channel δ} {now : Int} {bits : UInt32} {mine : Bool},
    c.handleStatus now bits = .ok (mine, c') → R c c'
  /-- The timer does. -/
  timeout : ∀ {c c' : Channel δ} {now : Int} {stalled : Bool},
    c.checkTimeout now = .ok (stalled, c') → R c c'
  /-- Masking the interrupts does. -/
  maskAll : ∀ {c : Channel δ}, R c c.maskAll
  /-- Reporting faults does. -/
  report : ∀ {c : Channel δ} (backlog : List UInt32), R c { c with backlog }
  /-- Shutting down does. -/
  shutdown : ∀ {c c' : Channel δ}, c.shutdown = .ok c' → R c c'

/-- What every operation relates, whatever it answers, is related when one is carried out. -/
theorem Relating.of_perform {R : Channel δ → Channel δ → Prop} (hR : Relating R)
    {c c' : Channel δ} {operation : Operation} {answer : Answer}
    (h : c.perform operation = .ok (answer, c')) : R c c' := by
  have hresponding : Responding fun (_ : Operation) (_ : Answer) => R :=
    { request := hR.request, prepare := hR.prepare, enqueue := hR.enqueue, dequeue := hR.dequeue,
      streamOn := hR.streamOn, streamOff := hR.streamOff, status := hR.status,
      timeout := hR.timeout, maskAll := hR.maskAll, report := fun _ => hR.report,
      shutdown := hR.shutdown }
  exact hresponding.of_perform h

/-- No operation of a queue breaks a property. -/
structure Keeping (P : Channel δ → Prop) : Prop where
  /-- Replacing the buffers does not. -/
  request : ∀ {c c' : Channel δ} {count capacity : Nat} {result : Except Error Nat},
    P c → c.requestBuffers count capacity = .ok (result, c') → P c'
  /-- Preparing a buffer does not. -/
  prepare : ∀ {c c' : Channel δ} {index : Nat} {geometry : Geometry} {norm : Norm}
    {result : Except Error Unit}, P c → c.prepare index geometry norm = .ok (result, c') → P c'
  /-- Handing a buffer in does not. -/
  enqueue : ∀ {c c' : Channel δ} {now : Int} {index : Nat} {result : Except Error Unit},
    P c → c.enqueue now index = .ok (result, c') → P c'
  /-- Taking a buffer back does not. -/
  dequeue : ∀ {c c' : Channel δ} {result : Except Error Frame},
    P c → c.dequeue = .ok (result, c') → P c'
  /-- Starting or resuming capture does not. -/
  streamOn : ∀ {c c' : Channel δ} {now : Int} {result : Except Error Unit},
    P c → c.streamOn now = .ok (result, c') → P c'
  /-- Stopping capture does not. -/
  streamOff : ∀ {c c' : Channel δ} {result : Except Error Unit},
    P c → c.streamOff = .ok (result, c') → P c'
  /-- Interrupt status does not. -/
  status : ∀ {c c' : Channel δ} {now : Int} {bits : UInt32} {mine : Bool},
    P c → c.handleStatus now bits = .ok (mine, c') → P c'
  /-- The timer does not. -/
  timeout : ∀ {c c' : Channel δ} {now : Int} {stalled : Bool},
    P c → c.checkTimeout now = .ok (stalled, c') → P c'
  /-- Masking the interrupts does not. -/
  maskAll : ∀ {c : Channel δ}, P c → P c.maskAll
  /-- Reporting faults does not. -/
  report : ∀ {c : Channel δ} (backlog : List UInt32), P c → P { c with backlog }

/-- What no operation breaks holds after each if it held before. -/
lemma Keeping.relating {P : Channel δ → Prop} (hP : Keeping P) :
    Relating fun c c' => P c → P c' where
  request h hc := hP.request hc h
  prepare h hc := hP.prepare hc h
  enqueue h hc := hP.enqueue hc h
  dequeue h hc := hP.dequeue hc h
  streamOn h hc := hP.streamOn hc h
  streamOff h hc := hP.streamOff hc h
  status h hc := hP.status hc h
  timeout h hc := hP.timeout hc h
  maskAll hc := hP.maskAll hc
  report backlog hc := hP.report backlog hc
  shutdown h hc := by
    obtain ⟨c₁, hoff, _, hrequest⟩ := shutdown_cases h
    refine hP.request ?_ hrequest
    obtain ⟨-, rfl⟩ | ⟨-, _, hoff⟩ := hoff
    · exact hc
    · exact hP.streamOff hc hoff

/-- **What no operation breaks holds in a whole session**, if it does not depend on the registers.

**Proof sketch.** Induction on the session. -/
theorem Keeping.of_reaches {P : Channel δ → Prop} (hP : Keeping P)
    (hregs : ∀ (c : Channel δ) (regs : RegisterFile), P c → P { c with regs }) {c₀ c : Channel δ}
    (h₀ : P c₀) (h : c₀.Reaches c) : P c := by
  induction h with
  | refl => exact h₀
  | perform _ hperform ih => exact hP.relating.of_perform hperform ih
  | change regs _ ih => exact hregs _ regs ih

/-! ## Sessions without hardware -/

/-- What is seen of the channel to which operations lead from a new queue over a backend. -/
def viewFrom {α : Type} (dma : δ) (operations : List Operation) (view : Channel δ → α) :
    Option α := do
  let c₀ ← (create {} dma {}).1.toOption
  let c ← (c₀.performAll operations).toOption
  return view c

/-- What is seen of that channel is seen after a session. -/
lemma exists_session_of_viewFrom {α : Type} {dma : δ} {operations : List Operation}
    {view : Channel δ → α} {value : α} (h : viewFrom dma operations view = some value) :
    ∃ c₀ dma' c, create {} dma {} = (.ok c₀, dma') ∧ c₀.Reaches c ∧ view c = value := by
  simp only [viewFrom, Option.bind_eq_bind, Option.bind_eq_some_iff, Option.pure_def,
    Option.some.injEq] at h
  obtain ⟨c₀, hcreate, c, hrun, rfl⟩ := h
  refine ⟨c₀, _, c, Prod.ext (toOption_eq_some.mp hcreate) rfl, ?_, rfl⟩
  exact reaches_of_performAll (toOption_eq_some.mp hrun)

/-- Three buffers are prepared and handed in, the third for a wider frame, and capture is started:
two of them make the chain, and the third waits. -/
def chainedOperations : List Operation :=
  let narrow : Geometry := { width := 48, height := 32, format := .initial, field := .bottom }
  let wide : Geometry := { narrow with width := 64 }
  [.request 3 8192, .prepare 0 narrow .initial, .prepare 1 narrow .initial,
    .prepare 2 wide .initial, .enqueue 0 0, .enqueue 0 1, .enqueue 0 2, .streamOn 0]

end Channel

end VideoCapture
