import VideoCapture.Proofs.Queue.Session
import Mathlib.Data.List.DropRight

/-!
# Sessions on record

What a queue owes its users depends on what was done with it, so a session is looked at together
with a record: which operations were carried out, in order, and what each of them answered. Two
things can be asked of a session besides. Operations may have to be admitted on the channel they
are carried out on, and registers may change between operations only as told.

The record also says what users know by themselves: which buffers they have handed in, and which
frames they were handed back.

## Main definitions

* `VideoCapture.CaptureQueue.Event` — an operation and its answer.
* `VideoCapture.Channel.Session` — a session on record.
* `VideoCapture.CaptureQueue.handedIn`, `VideoCapture.CaptureQueue.handedBack` — the buffers and the
  frames that cross the border between a queue and its users.
* `VideoCapture.CaptureQueue.since` — what is on record since an event of some kind.

## Main results

* `VideoCapture.Channel.Session.reaches` — a session on record is a session.
* `VideoCapture.Channel.Session.keeps` — what no admitted operation breaks holds in a whole session.
* `VideoCapture.Channel.exists_session_of_hostedRecord` — sessions without hardware, carried out.
-/

set_option autoImplicit false

namespace VideoCapture

namespace CaptureQueue

/-! ## Events -/

/-- What is on record: an operation was carried out, and answered. -/
structure Event where
  /-- The operation. -/
  operation : Operation
  /-- What it answered. -/
  answer : Answer

namespace Event

/-- The buffer that was handed in, if one was. -/
def handedIn : Event → Option Nat
  | ⟨.enqueue _ index, .done⟩ => some index
  | _ => none

/-- The frame that was handed back, if one was. -/
def handedBack : Event → Option Frame
  | ⟨.dequeue, .frame frame⟩ => some frame
  | _ => none

/-- Whether capture was stopped. -/
def stops : Event → Bool
  | ⟨.streamOff, .done⟩ | ⟨.shutdown, _⟩ => true
  | _ => false

/-- Whether the stream was cleared: capture was stopped, or the buffers were replaced. -/
def clears : Event → Bool
  | ⟨.request _ _, .done⟩ => true
  | event => event.stops

end Event

/-- The buffers that were handed in, in order. -/
def handedIn (events : List Event) : List Nat :=
  events.filterMap Event.handedIn

/-- The frames that were handed back, in order. -/
def handedBack (events : List Event) : List Frame :=
  events.filterMap Event.handedBack

/-- The frames handed back that were captured. -/
def captured (events : List Event) : List Frame :=
  (handedBack events).filter fun frame => frame.state = .done

/-- What is on record since the last event of a kind. -/
def since (kind : Event → Bool) (events : List Event) : List Event :=
  events.rtakeWhile fun event => !kind event

/-- After one event more, the events since the last of a kind are none if it is of the kind, and
otherwise it is the last of them. -/
lemma since_concat (kind : Event → Bool) (events : List Event) (event : Event) :
    since kind (events ++ [event]) = if kind event then [] else since kind events ++ [event] := by
  rw [since, List.rtakeWhile_concat, since]
  cases kind event <;> rfl

/-- One event more adds the buffer that it hands in, if any. -/
lemma handedIn_concat (events : List Event) (event : Event) :
    handedIn (events ++ [event]) = handedIn events ++ event.handedIn.toList := by
  rw [handedIn, List.filterMap_append, handedIn]
  cases h : event.handedIn <;> simp [h]

/-- One event more adds the frame that it hands back, if any. -/
lemma handedBack_concat (events : List Event) (event : Event) :
    handedBack (events ++ [event]) = handedBack events ++ event.handedBack.toList := by
  rw [handedBack, List.filterMap_append, handedBack]
  cases h : event.handedBack <;> simp [h]

/-- One event more adds the frame that it captures, if any. -/
lemma captured_concat (events : List Event) (event : Event) :
    captured (events ++ [event]) = captured events ++ captured [event] := by
  rw [captured, handedBack, List.filterMap_append, List.filter_append]
  rfl

end CaptureQueue

/-! ## Sessions -/

namespace Channel

open CaptureQueue (Operation Answer Event)

variable {δ : Type} [DmaBackend δ]

/-- A session on record, in which every operation is admitted where it is carried out, and the
registers drift between operations. -/
inductive Session (admits : Channel δ → Operation → Prop)
    (drifts : RegisterFile → RegisterFile → Prop) (c : Channel δ) :
    List Event → Channel δ → Prop where
  /-- Nothing is on record yet. -/
  | refl : Session admits drifts c [] c
  /-- An operation is carried out. -/
  | perform {events : List Event} {c₁ c₂ : Channel δ} {operation : Operation} {answer : Answer} :
      Session admits drifts c events c₁ → admits c₁ operation →
      c₁.perform operation = .ok (answer, c₂) →
      Session admits drifts c (events ++ [⟨operation, answer⟩]) c₂
  /-- The registers change. -/
  | drift {events : List Event} {c₁ : Channel δ} {regs : RegisterFile} :
      Session admits drifts c events c₁ → drifts c₁.regs regs →
      Session admits drifts c events { c₁ with regs }

variable {admits : Channel δ → Operation → Prop} {drifts : RegisterFile → RegisterFile → Prop}
  {c c' : Channel δ} {events : List Event}

/-- A session on record is a session. -/
theorem Session.reaches (h : c.Session admits drifts events c') : c.Reaches c' := by
  induction h with
  | refl => exact .refl
  | perform _ _ hperform ih => exact ih.perform hperform
  | drift _ _ ih => exact ih.change _

/-- **What no admitted operation breaks holds in a whole session**, if it outlasts the drift of the
registers.

**Proof sketch.** Induction on the session. -/
theorem Session.keeps {P : Channel δ → Prop} (h : c.Session admits drifts events c') (h₀ : P c)
    (hperform : ∀ (c₁ c₂ : Channel δ) (operation : Operation) (answer : Answer), c.Reaches c₁ →
      admits c₁ operation → P c₁ → c₁.perform operation = .ok (answer, c₂) → P c₂)
    (hdrift : ∀ (c₁ : Channel δ) (regs : RegisterFile), drifts c₁.regs regs → P c₁ →
      P { c₁ with regs }) : P c' := by
  induction h with
  | refl => exact h₀
  | perform hbefore hadmits hone ih => exact hperform _ _ _ _ hbefore.reaches hadmits ih hone
  | drift _ hdrifts ih => exact hdrift _ _ hdrifts ih

/-! ## Sessions without hardware -/

/-- Carries operations out one after the other, if all are admitted, and records them behind the
events given. -/
def record (admits : Channel δ → Operation → Prop)
    [∀ (c : Channel δ) operation, Decidable (admits c operation)] (c : Channel δ)
    (events : List Event) : List Operation → Option (List Event × Channel δ)
  | [] => some (events, c)
  | operation :: rest =>
    if admits c operation then
      match c.perform operation with
      | .ok (answer, c) => c.record admits (events ++ [⟨operation, answer⟩]) rest
      | .error _ => none
    else none

/-- Operations carried out one after the other are a session on record.

**Proof sketch.** Along the operations, for every session that has led to where they begin. -/
lemma session_of_record [∀ (c : Channel δ) operation, Decidable (admits c operation)]
    {c₁ : Channel δ} {before : List Event} {operations : List Operation}
    (hsession : c.Session admits drifts before c₁)
    (h : c₁.record admits before operations = some (events, c')) :
    c.Session admits drifts events c' := by
  induction operations generalizing c₁ before with
  | nil =>
    simp only [record, Option.some.injEq, Prod.mk.injEq] at h
    obtain ⟨rfl, rfl⟩ := h
    exact hsession
  | cons operation rest ih =>
    unfold record at h
    split at h
    · next hadmits =>
      split at h
      · next answer c₂ hperform => exact ih (hsession.perform hadmits hperform) h
      · cases h
    · cases h

/-- What is seen of the record and the channel to which operations lead from a new queue over a
backend without hardware. -/
def hostedRecord {α : Type} (admits : Channel HostDma → Operation → Prop)
    [∀ (c : Channel HostDma) operation, Decidable (admits c operation)]
    (operations : List Operation) (view : List Event → Channel HostDma → α) : Option α := do
  let c₀ ← (create {} HostDma.create {}).1.toOption
  let (events, c) ← c₀.record admits [] operations
  return view events c

/-- What is seen of them is seen after a session on record. -/
lemma exists_session_of_hostedRecord {α : Type} {admits : Channel HostDma → Operation → Prop}
    [∀ (c : Channel HostDma) operation, Decidable (admits c operation)]
    (drifts : RegisterFile → RegisterFile → Prop) {operations : List Operation}
    {view : List Event → Channel HostDma → α} {value : α}
    (h : hostedRecord admits operations view = some value) :
    ∃ c₀ dma events c, create {} HostDma.create {} = (.ok c₀, dma) ∧
      c₀.Session admits drifts events c ∧ view events c = value := by
  simp only [hostedRecord, Option.bind_eq_bind, Option.bind_eq_some_iff, Option.pure_def,
    Option.some.injEq] at h
  obtain ⟨c₀, hcreate, ⟨events, c⟩, hrecord, rfl⟩ := h
  refine ⟨c₀, _, events, c, Prod.ext (toOption_eq_some.mp hcreate) rfl, ?_, rfl⟩
  exact session_of_record .refl hrecord

end Channel

end VideoCapture
