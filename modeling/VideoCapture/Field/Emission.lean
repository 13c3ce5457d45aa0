import VideoCapture.Fault
import VideoCapture.Instruction.Basic

/-!
# Emitting instructions

Writing a program is a computation that emits instructions one after the other and may break off at
a fault. An `Emission` records both: what was emitted, and how the computation ended. Whether the
instructions fit into memory is asked of the record afterwards, because an emission that would not
fit counts as the first fault even where a later step is faulty too.

## Main definitions

* `VideoCapture.Emission` — the instructions emitted and the outcome, as a monad.
* `VideoCapture.Emission.emit`, `VideoCapture.Emission.fail` — its two effects.
* `VideoCapture.Emission.flagLast` — sets the interrupt flag of the last instruction emitted.
-/

set_option autoImplicit false

namespace VideoCapture

/-- Instructions emitted one after the other, and how that ended. -/
structure Emission (α : Type) where
  /-- What was emitted, in order. -/
  instructions : List Instruction
  /-- The value computed, or the fault that broke the emission off. -/
  outcome : Except Fault α

namespace Emission

variable {α β : Type}

/-- Emits nothing. -/
protected def pure (a : α) : Emission α :=
  ⟨[], .ok a⟩

/-- Goes on with `next` unless the emission broke off. -/
protected def bind (first : Emission α) (next : α → Emission β) : Emission β :=
  match first.outcome with
  | .ok a => ⟨first.instructions ++ (next a).instructions, (next a).outcome⟩
  | .error fault => ⟨first.instructions, .error fault⟩

instance : Monad Emission where
  pure := Emission.pure
  bind := Emission.bind

/-- Going on from a value emits what the continuation emits. -/
theorem ok_bind (l : List Instruction) (a : α) (next : α → Emission β) :
    ((⟨l, .ok a⟩ : Emission α) >>= next) = ⟨l ++ (next a).instructions, (next a).outcome⟩ := rfl

/-- Nothing is emitted after an emission broke off. -/
theorem error_bind (l : List Instruction) (fault : Fault) (next : α → Emission β) :
    ((⟨l, .error fault⟩ : Emission α) >>= next) = ⟨l, .error fault⟩ := rfl

/-- A value and an emission are joined by the emission alone. -/
protected theorem pure_bind (a : α) (next : α → Emission β) : (pure a >>= next) = next a := rfl

/-- The order in which continuations are joined does not matter. -/
protected theorem bind_assoc {γ : Type} (m : Emission α) (f : α → Emission β) (g : β → Emission γ) :
    (m >>= f) >>= g = m >>= fun a => f a >>= g := by
  obtain ⟨l, _ | a⟩ := m
  · rfl
  · rw [ok_bind, ok_bind]
    cases h : (f a).outcome with
    | error fault =>
      rw [error_bind]
      rw [show f a = ⟨(f a).instructions, .error fault⟩ by rw [← h], error_bind]
    | ok b =>
      rw [ok_bind]
      rw [show f a = ⟨(f a).instructions, .ok b⟩ by rw [← h], ok_bind, List.append_assoc]

/-- Emits one instruction. -/
def emit (i : Instruction) : Emission Unit :=
  ⟨[i], .ok ()⟩

/-- Breaks off. -/
def fail (fault : Fault) : Emission α :=
  ⟨[], .error fault⟩

/-- Takes a value, or breaks off if there is none. -/
def take (value : Except Fault α) : Emission α :=
  ⟨[], value⟩

/-- Taking a value that is there emits nothing. -/
theorem take_ok_bind (a : α) (next : α → Emission β) : (take (.ok a) >>= next) = next a := rfl

/-- Taking a value that is not there breaks off. -/
theorem take_error_bind (fault : Fault) (next : α → Emission β) :
    (take (.error fault) >>= next) = fail fault := rfl

/-- A list with its last instruction flagged for interrupt. -/
def flagLastOf : List Instruction → List Instruction
  | [] => []
  | [i] => [i.flagged]
  | i :: j :: rest => i :: flagLastOf (j :: rest)

/-- Sets the interrupt flag of the last instruction that an emission emits. -/
def flagLast (m : Emission α) : Emission α :=
  { m with instructions := flagLastOf m.instructions }

end Emission

end VideoCapture
