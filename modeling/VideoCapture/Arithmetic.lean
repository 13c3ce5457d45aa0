import VideoCapture.Fault

/-!
# Numbers that fit their type

The driver keeps its counters and offsets in 32 bits and its sizes in 64. Here they are plain
numbers. Where a sum or a product of them is not bounded by what it is made of, it is asked whether
it still fits, and one that does not is a fault. Driver builds that do not check their arithmetic
go on with the remainder instead; nothing is said about them from there on.

## Main definitions

* `VideoCapture.bounded` — a number that has to fit its type.
* `VideoCapture.bound32`, `VideoCapture.bound64` — the bounds of the types there are.
-/

set_option autoImplicit false

namespace VideoCapture

/-- Bound of the numbers of 32 bits. -/
abbrev bound32 : Nat := 0x100000000

/-- Bound of the numbers of 64 bits. -/
abbrev bound64 : Nat := 0x10000000000000000

/-- The number `n`, which has to be below the bound of its type. -/
def bounded (bound n : Nat) : Except Fault Nat :=
  if n < bound then .ok n else .error .numberTooWide

variable {bound m n : Nat} {fault : Fault}

/-- A number that fits is taken as it is. -/
theorem bounded_eq_ok : bounded bound n = .ok m ↔ n < bound ∧ n = m := by
  unfold bounded
  split <;> simp [*]

/-- A number that does not fit is a fault, and there is no other. -/
theorem bounded_eq_error :
    bounded bound n = .error fault ↔ bound ≤ n ∧ fault = .numberTooWide := by
  unfold bounded
  split
  · simp only [reduceCtorEq, false_iff, not_and]
    omega
  · simp only [Except.error.injEq, eq_comm (a := fault), iff_and_self]
    omega

end VideoCapture
