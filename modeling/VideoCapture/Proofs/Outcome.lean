import VideoCapture.Fault

/-!
# Taking outcomes apart

An operation that can break off at a fault is a chain of steps in `Except`. That the whole chain
succeeds says that each step did, with a value that the next step went on from.

## Main definitions

* `VideoCapture.FailsOnly` — an outcome is a value, or else an error of one kind.

## Main results

* `VideoCapture.bind_eq_ok`, `VideoCapture.pure_eq_ok` — when a chain and a value succeed.
* `VideoCapture.toOption_eq_some` — what an outcome comes to without its error.
* `VideoCapture.map_eq_error` — what is made of its value does not show in its error.
* `VideoCapture.FailsOnly.bind` — a chain fails as its steps do.
-/

set_option autoImplicit false

namespace VideoCapture

variable {ε α β : Type}

/-- A chain succeeds when its first step does, and then the rest on the value of that step. -/
theorem bind_eq_ok {x : Except ε α} {f : α → Except ε β} {b : β} :
    (x >>= f) = .ok b ↔ ∃ a, x = .ok a ∧ f a = .ok b := by
  constructor
  · intro h
    cases x with
    | error fault => cases h
    | ok a => exact ⟨a, rfl, h⟩
  · rintro ⟨a, rfl, h⟩
    exact h

/-- A value succeeds with itself. -/
theorem pure_eq_ok {a b : α} : (pure a : Except ε α) = .ok b ↔ a = b :=
  Except.ok.injEq a b ▸ Iff.rfl

/-- What is left of an outcome without its error is what it succeeded with. -/
theorem toOption_eq_some {x : Except ε α} {a : α} : x.toOption = some a ↔ x = .ok a := by
  cases x with
  | error fault => simp [Except.toOption]
  | ok b => simp [Except.toOption]

/-- What is made of the value of an outcome does not show in its error. -/
theorem map_eq_error {x : Except ε α} {f : α → β} {fault : ε} :
    x.map f = .error fault ↔ x = .error fault := by
  cases x <;> simp [Except.map]

/-! ## Errors of one kind -/

/-- An outcome is a value, or else an error that is so. -/
def FailsOnly (p : ε → Prop) (x : Except ε α) : Prop :=
  ∀ error, x = .error error → p error

variable {p p' : ε → Prop} {x : Except ε α}

/-- A value is no error at all. -/
theorem failsOnly_ok (a : α) : FailsOnly p (.ok a) :=
  fun _ h => nomatch h

/-- What succeeds does not fail. -/
theorem failsOnly_of_exists (h : ∃ a, x = .ok a) : FailsOnly p x := by
  obtain ⟨a, rfl⟩ := h
  exact failsOnly_ok a

/-- **A chain fails as its steps do.** -/
theorem FailsOnly.bind {f : α → Except ε β} (hx : FailsOnly p x)
    (hf : ∀ a, x = .ok a → FailsOnly p (f a)) : FailsOnly p (x >>= f) := by
  cases x with
  | error error => exact fun _ h => hx _ (congrArg Except.error (Except.error.inj h))
  | ok a => exact hf a rfl

/-- A chain whose first step succeeds fails as the rest does. -/
theorem FailsOnly.bind_of_ok {f : α → Except ε β} {a : α} (hx : x = .ok a)
    (hf : FailsOnly p (f a)) : FailsOnly p (x >>= f) := by
  rwa [hx]

/-- What holds of every error that is so may be said of it instead. -/
theorem FailsOnly.mono (h : FailsOnly p x) (himp : ∀ error, p error → p' error) :
    FailsOnly p' x :=
  fun error herror => himp error (h error herror)

/-- An outcome is a value or an error, which is of the kind that it can be. -/
theorem FailsOnly.cases (h : FailsOnly p x) :
    (∃ a, x = .ok a) ∨ ∃ error, x = .error error ∧ p error := by
  cases hx : x with
  | error error => exact .inr ⟨error, rfl, h error hx⟩
  | ok a => exact .inl ⟨a, rfl⟩

end VideoCapture
