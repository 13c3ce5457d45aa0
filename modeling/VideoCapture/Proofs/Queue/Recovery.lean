import VideoCapture.Proofs.Engine.Tuning
import VideoCapture.Proofs.Queue.Retirement
import VideoCapture.Proofs.Queue.Setups

/-!
# What interrupts and the timer can break off at

Making a chain of what waits, numbering it and starting the engine on it can go wrong in a few ways
only: a buffer does not exist, it holds no program, its size is one that nothing can be scaled to,
or the numbers run out. None of the first three happens to what runs or waits. What is left are the
numbers: a chain has no more positions than can be counted, and its deadline is an instant that the
clock has to be able to tell. So whenever the engine is to be started anew, it is, as long as both
suffice, and interrupts and the timer are served to the end.

## Main definitions

* `VideoCapture.RunsOut` — the faults of numbers that run out.
* `VideoCapture.CaptureQueue.Exhausts` — an outcome is a fault because the numbers run out.
* `VideoCapture.Channel.Exhausted` — an operation breaks off because they do.

## Main results

* `VideoCapture.Engine.exists_start` — the engine can be started for a size that the norm accepts.
* `VideoCapture.Channel.failsOnly_restart` — what runs or waits can be started, or the numbers run
  out.
* `VideoCapture.Channel.failsOnly_handleStatus`, `VideoCapture.Channel.failsOnly_checkTimeout` —
  so interrupts and the timer are served to the end, or the numbers run out.
-/

set_option autoImplicit false

namespace VideoCapture

/-! ## Numbers that run out -/

/-- The faults of numbers that run out while a chain goes on at `now`: the clock cannot tell the
deadline, or there are more positions than can be counted, because `count` of them are taken
already. -/
inductive RunsOut (timeout : Nat) (now : Int) (count : Nat) : Fault → Prop where
  /-- The deadline lies beyond the last instant. -/
  | deadline : lastInstant < now + timeout → RunsOut timeout now count .instantTooLate
  /-- The next position does not fit its type. -/
  | position : bound32 ≤ count + 1 → RunsOut timeout now count .numberTooWide

variable {timeout m n : Nat} {now : Int} {fault : Fault}

/-- With more positions taken the numbers run out all the more. -/
lemma RunsOut.mono (h : RunsOut timeout now m fault) (hle : m ≤ n) :
    RunsOut timeout now n fault := by
  cases h with
  | deadline hlate => exact .deadline hlate
  | position hwide => exact .position (by omega)

/-- A single position can always be counted. -/
lemma RunsOut.of_one (h : RunsOut timeout now 1 fault) : RunsOut timeout now n fault := by
  cases h with
  | deadline hlate => exact .deadline hlate
  | position hwide => exact absurd hwide (by decide)

/-- An outcome of something that is done to a queue at `now` is a fault because the numbers run
out: those of the clock, or those of the positions, of which there are as many as buffers in the
stream, unless they count on from the last. -/
def CaptureQueue.Exhausts {α : Type} (q : CaptureQueue) (now : Int) (x : Except Fault α) : Prop :=
  ∃ fault, x = .error fault ∧ RunsOut q.timeout now (max q.count q.stream.length) fault

/-- What succeeds is no such fault. -/
lemma CaptureQueue.not_exhausts_of_ok {α : Type} {q : CaptureQueue} {x : Except Fault α} {a : α}
    (h : x = .ok a) : ¬q.Exhausts now x := by
  rintro ⟨fault, hfault, -⟩
  cases h.symm.trans hfault

/-- In a queue between two operations there is no more to run or wait than the stream has. So what
fails because of that is a value, or the numbers run out. -/
lemma CaptureQueue.Settled.exists_or_exhausts {α : Type} {q : CaptureQueue} {x : Except Fault α}
    (h : q.Settled)
    (hx : FailsOnly (RunsOut q.timeout now (q.active.length + q.queued.length)) x) :
    (∃ a, x = .ok a) ∨ q.Exhausts now x := by
  have hlength := h.length_le
  exact hx.cases.imp_right fun ⟨fault, hfault, hout⟩ => ⟨fault, hfault, hout.mono (by omega)⟩

/-- When an operation takes place, as far as that matters to it. -/
def CaptureQueue.Operation.time? : CaptureQueue.Operation → Option Int
  | .enqueue now _ | .streamOn now | .status now _ | .timeout now => some now
  | .request _ _ | .prepare _ _ _ | .dequeue | .streamOff | .maskAll | .takeFault | .shutdown =>
    none

/-- An operation breaks off because the numbers run out. -/
def Channel.Exhausted {δ : Type} [DmaBackend δ] (c : Channel δ)
    (operation : CaptureQueue.Operation) : Prop :=
  ∃ now ∈ operation.time?, c.Exhausts now (c.perform operation)

/-- The engine can be started for a size that the norm accepts. -/
lemma Engine.exists_start (engine : Engine) (regs : RegisterFile) (address : UInt32) {g : Geometry}
    {n : Norm} (haccepts : n.accepts g.width g.height = true) :
    ∃ started, engine.start regs address g n = .ok started := by
  simp only [Norm.accepts, minWidth, minHeight, Bool.and_eq_true, decide_eq_true_eq] at haccepts
  obtain ⟨⟨⟨hwidth, -⟩, hheight⟩, -⟩ := haccepts
  have hlines : Scaling.frameLines g.height g.field ≠ 0 := by
    unfold Scaling.frameLines
    split <;> omega
  obtain ⟨scaling, hscaling⟩ : ∃ scaling,
      Scaling.compute n g.width g.height g.field = .ok scaling :=
    ⟨_, Scaling.compute_eq_ok.mpr ⟨by omega, hlines, rfl⟩⟩
  unfold start Decoder.setScale
  rw [hscaling]
  exact ⟨_, rfl⟩

namespace CaptureQueue

variable {q : CaptureQueue} {chain waiting : List Nat} {i : Nat}

/-- A buffer that holds something exists. -/
lemma lt_length_of_setupOf {setup : Setup} (h : q.setupOf i = some setup) :
    i < q.buffers.length := by
  obtain ⟨buffer, hbuffer, -⟩ := Option.bind_eq_some_iff.mp h
  exact (List.getElem?_eq_some_iff.mp hbuffer).1

/-- Buffers that exist can be given up.

**Proof sketch.** Induction on the buffers. -/
lemma exists_failAll (h : ∀ i ∈ chain, i < q.buffers.length) : ∃ q', q.failAll chain = .ok q' := by
  induction chain generalizing q with
  | nil => exact ⟨q, rfl⟩
  | cons i chain ih =>
    have hi := List.getElem?_eq_getElem (h i List.mem_cons_self)
    unfold failAll
    rw [resident_eq_ok.mpr hi]
    refine ih fun j hj => ?_
    rw [modify, List.length_modify]
    exact h j (List.mem_cons_of_mem i hj)

/-- The position behind another can be counted, or the numbers run out. -/
lemma failsOnly_nextPosition {position : Nat} (hle : position ≤ n) :
    FailsOnly (RunsOut timeout now n) (nextPosition position) := by
  intro fault h
  obtain ⟨hwide, rfl⟩ := bounded_eq_error.mp h
  exact .position (by omega)

/-- The clock can tell a deadline, or the numbers run out. -/
lemma failsOnly_due (q : CaptureQueue) (now : Int) (n : Nat) :
    FailsOnly (RunsOut q.timeout now n) (q.due now) := by
  intro fault h
  unfold due at h
  split at h
  · cases h
  · obtain rfl := Except.error.inj h
    exact .deadline (by omega)

/-- A chain that goes on has its deadline, or the numbers run out. An empty one needs none. -/
lemma failsOnly_dueFor (q : CaptureQueue) (now : Int) (n : Nat) (chain : List Nat) :
    FailsOnly (fun fault => chain ≠ [] ∧ RunsOut q.timeout now n fault) (q.dueFor now chain) := by
  cases chain with
  | nil => exact failsOnly_ok none
  | cons i rest =>
    refine FailsOnly.bind ?_ fun deadline _ => failsOnly_ok (some deadline)
    exact (failsOnly_due q now n).mono fun _ hout => ⟨List.cons_ne_nil i rest, hout⟩

/-- Buffers that exist can be numbered, or the numbers run out.

**Proof sketch.** Induction on the buffers, each of which takes a position. -/
lemma failsOnly_number {position : Nat} (h : ∀ i ∈ chain, i < q.buffers.length)
    (hle : position + chain.length ≤ n + 1) :
    FailsOnly (RunsOut timeout now n) (q.number position chain) := by
  induction chain generalizing q position with
  | nil => exact failsOnly_ok _
  | cons i chain ih =>
    rw [List.length_cons] at hle
    refine FailsOnly.bind (failsOnly_nextPosition (by omega)) fun next hnext => ?_
    obtain ⟨-, rfl⟩ := bounded_eq_ok.mp hnext
    rw [activate_eq_ok.mpr ⟨h i List.mem_cons_self, rfl⟩]
    refine ih (fun j hj => ?_) (by omega)
    rw [modify, List.length_modify]
    exact h j (List.mem_cons_of_mem i hj)

/-- Buffers that hold programs can be let into the chain.

**Proof sketch.** Induction on those that wait. Links are written between programs that stay where
they are. -/
lemma exists_promote (h : ∀ i ∈ q.active ++ waiting, ∃ setup, q.setupOf i = some setup) :
    ∃ q', q.promote waiting = .ok q' := by
  induction waiting generalizing q with
  | nil => exact ⟨_, rfl⟩
  | cons i waiting ih =>
    unfold promote
    split
    · refine ih fun j hj => h j ?_
      exact List.mem_append_right _ hj
    · next previous hlast =>
      have hprevious : previous ∈ q.active := List.mem_of_getLast? hlast
      obtain ⟨s, hs⟩ := h previous (List.mem_append_left _ hprevious)
      obtain ⟨t, ht⟩ := h i (List.mem_append_right _ List.mem_cons_self)
      rw [compatible_eq_ok.mpr ⟨s, t, hs, ht, rfl⟩]
      cases hchains : s.geometry.chains t.geometry with
      | false => exact ⟨_, rfl⟩
      | true =>
        show ∃ q', (q.link previous i >>= fun q =>
          promote { q with active := q.active ++ [i] } waiting) = .ok q'
        rw [link_eq_ok.mpr ⟨t, ht, ⟨s, hs⟩, rfl⟩]
        refine ih fun j hj => ?_
        have hmem : j ∈ q.active ++ i :: waiting := by
          have hj : j ∈ q.active ++ [i] ++ waiting := hj
          rwa [List.append_assoc] at hj
        obtain ⟨u, hu⟩ := h j hmem
        exact ⟨_, (setupOf_pointTail q previous j _).trans (congrArg (Option.map _) hu)⟩

end CaptureQueue

namespace Channel

variable {δ : Type} {wanted : Geometry → Norm → Prop} {c : Channel δ}

/-- The engine can be started on a chain of buffers that hold programs, or the numbers run out.

**Proof sketch.** All buffers of the chain exist, so they can be numbered unless the numbers run
out. The head has its program, and its norm accepts its size, so that the engine can be started;
then the deadline is set, if the clock can tell it. -/
lemma failsOnly_startHead (now : Int) (hserves : c.Serves wanted)
    (hchain : ∀ i ∈ c.active, ∃ setup, c.setupOf i = some setup) :
    FailsOnly (fun fault => c.active ≠ [] ∧ RunsOut c.timeout now c.active.length fault)
      (c.startHead now) := by
  unfold startHead
  split
  · exact failsOnly_ok _
  · next head rest hactive =>
    suffices hout : FailsOnly (RunsOut c.timeout now c.active.length) _ from
      hout.mono fun _ hfault => ⟨by simp [hactive], hfault⟩
    have hlength : ∀ i ∈ c.active, i < c.buffers.length := by
      intro i hi
      obtain ⟨setup, hsetup⟩ := hchain i hi
      exact CaptureQueue.lt_length_of_setupOf hsetup
    refine FailsOnly.bind (CaptureQueue.failsOnly_number hlength (by omega)) fun q hq => ?_
    -- numbering leaves what the buffers hold, so the head has its program still
    have hnumbered := CaptureQueue.numbered_of_number hq
    have htimeout : q.timeout = c.timeout := by rw [hnumbered.rest]
    obtain ⟨setup, hsetup⟩ := hchain head (hactive ▸ List.mem_cons_self)
    have hscheduled := CaptureQueue.scheduled_eq_ok.mpr ((hnumbered.setupOf_eq head).trans hsetup)
    obtain ⟨started, hstarted⟩ := Engine.exists_start q.engine c.regs setup.program.address
      (hserves head setup hsetup).2
    refine FailsOnly.bind_of_ok hscheduled (FailsOnly.bind_of_ok hstarted ?_)
    rw [← htimeout]
    exact FailsOnly.bind (CaptureQueue.failsOnly_due q now _) fun _ _ => failsOnly_ok _

/-- **What runs or waits can be started, or the numbers run out.**

**Proof sketch.** What waits can be promoted, as all of it holds programs. The chain that is started
is a part of what ran or waited, so it is no longer. -/
theorem failsOnly_restart (now : Int) (hserves : c.Serves wanted) (hc : c.Equipped) :
    FailsOnly (fun fault => c.active ++ c.queued ≠ [] ∧
      RunsOut c.timeout now (c.active.length + c.queued.length) fault) (c.restart now) := by
  unfold restart
  split
  · next hempty =>
    obtain ⟨q, hq⟩ : ∃ q, c.promote c.queued = .ok q := CaptureQueue.exists_promote hc
    obtain ⟨taken, hpromoted⟩ := CaptureQueue.promoted_of_promote hq
    have hactive : q.active = c.active ++ taken := by rw [hpromoted.rest]
    have htimeout : q.timeout = c.timeout := by rw [hpromoted.rest]
    have hequipped : q.Equipped := by
      refine hc.of_fixtures hpromoted.fixtures fun i hi => ?_
      rwa [hactive, List.append_assoc, ← hpromoted.split] at hi
    rw [hq, ← htimeout]
    refine FailsOnly.mono (failsOnly_startHead now (hserves.of_fixtures hpromoted.fixtures)
      fun i hi => hequipped i (List.mem_append_left _ hi)) ?_
    -- the chain is a part of what waited
    have hparts : c.active ++ c.queued = q.active ++ q.queued := by
      rw [hactive, hpromoted.split, List.append_assoc]
    rintro fault ⟨hchain, hout⟩
    have hle : q.active.length ≤ c.active.length + c.queued.length := by
      rw [← List.length_append, hparts, List.length_append]
      exact Nat.le_add_right _ _
    exact ⟨hparts ▸ fun hnil => hchain (List.append_eq_nil_iff.mp hnil).1, hout.mono hle⟩
  · refine (failsOnly_startHead now hserves fun i hi => hc i (List.mem_append_left _ hi)).mono ?_
    rintro fault ⟨hchain, hout⟩
    exact ⟨fun hnil => hchain (List.append_eq_nil_iff.mp hnil).1,
      hout.mono (Nat.le_add_right _ _)⟩

/-! ## Interrupts -/

/-- What runs or waits exists. -/
lemma lt_length_of_equipped (hc : c.Equipped) : ∀ i ∈ c.active, i < c.buffers.length := by
  intro i hi
  obtain ⟨setup, hsetup⟩ := hc i (List.mem_append_left _ hi)
  exact CaptureQueue.lt_length_of_setupOf hsetup

/-- A fault can always stop the engine. -/
lemma exists_failStop (fault : UInt32) (hc : c.Equipped) : ∃ c', c.failStop fault = .ok c' := by
  obtain ⟨q, hq⟩ : ∃ q, CaptureQueue.failAll
      { c.stopEngine.toCaptureQueue with deadline := none, fault := some fault, active := [] }
      c.active = .ok q :=
    CaptureQueue.exists_failAll (lt_length_of_equipped hc)
  simp only [failStop, bind_eq_ok]
  exact ⟨_, q, hq, rfl⟩

/-- The program of the head can be looked at. -/
lemma exists_headRuns (pointer : UInt32) (hc : c.Equipped) :
    ∃ inside, c.headRuns pointer = .ok inside := by
  cases hactive : c.active with
  | nil => exact ⟨false, headRuns_eq_ok.mpr (.inl ⟨hactive, rfl⟩)⟩
  | cons head rest =>
    obtain ⟨setup, hsetup⟩ := hc head (by simp [hactive])
    exact ⟨_, headRuns_eq_ok.mpr (.inr ⟨head, rest, setup, hactive, hsetup, rfl⟩)⟩

/-- The head of the chain can be retired, or the numbers run out on the rest of the chain. -/
lemma failsOnly_completeHead (now : Int) (n : Nat) (hc : c.Equipped) :
    FailsOnly (fun fault => c.active.tail ≠ [] ∧ RunsOut c.timeout now n fault)
      (c.completeHead now) := by
  unfold CaptureQueue.completeHead
  split
  · exact failsOnly_ok _
  · next head rest hactive =>
    obtain ⟨setup, hsetup⟩ := hc head (by simp [hactive])
    rw [hactive]
    refine FailsOnly.bind_of_ok (CaptureQueue.scheduled_eq_ok.mpr hsetup) ?_
    exact FailsOnly.bind (c.failsOnly_dueFor now n rest) fun _ _ => failsOnly_ok _

/-- An engine in the stopper can be stopped, and started again on what waits, or the numbers run
out. -/
lemma failsOnly_park (now : Int) (hserves : c.Serves wanted) (hc : c.Equipped) :
    FailsOnly (RunsOut c.timeout now (c.active.length + c.queued.length)) (c.park now) := by
  unfold park
  dsimp only
  split
  · exact failsOnly_ok _
  · let c₁ : Channel δ :=
      { c.stopEngine with deadline := none, stats.stopperHits := c.stats.stopperHits + 1 }
    have hrestart := failsOnly_restart (c := c₁) now hserves hc
    exact hrestart.mono fun _ hout => hout.2

/-- Retiring a buffer leaves the chain shorter, and those that wait as they are. -/
lemma lists_of_completeHead {q : CaptureQueue} (h : c.completeHead now = .ok q) :
    q.active = c.active.tail ∧ q.queued = c.queued ∧ q.timeout = c.timeout ∧
      q.stopper = c.stopper := by
  obtain ⟨hactive, rfl⟩ | ⟨_, _, _, hactive, -, rfl⟩ := CaptureQueue.completeHead_cases h
  · exact ⟨by rw [hactive]; rfl, rfl, rfl, rfl⟩
  · exact ⟨by rw [hactive]; rfl, rfl, rfl, rfl⟩

/-- A program's interrupt is served to the end, or the numbers run out on what is left of the chain
or on what is started anew.

**Proof sketch.** Reading where the engine is does not fail. Retiring the head can only run out of
numbers with a chain behind it, and parking with what waits at the stopper; both are no more buffers
than the queue had. -/
lemma failsOnly_handleCompletion (now : Int) (hserves : c.Serves wanted) (hc : c.Equipped) :
    FailsOnly (fun fault => (c.active.tail ≠ [] ∨
        c.stopper.contains (c.regs.read32 Register.programPointer) = true) ∧
      RunsOut c.timeout now (c.active.length + c.queued.length) fault)
      (c.handleCompletion now) := by
  obtain ⟨inside, hinside⟩ := exists_headRuns (c.regs.read32 Register.programPointer) hc
  unfold handleCompletion
  refine FailsOnly.bind_of_ok hinside ?_
  cases inside with
  | true => exact failsOnly_ok c
  | false =>
    refine FailsOnly.bind ?_ fun q hq => ?_
    · exact (failsOnly_completeHead now _ hc).mono fun _ hout => ⟨.inl hout.1, hout.2⟩
    · obtain ⟨hactive, hqueued, htimeout, hstopper⟩ := lists_of_completeHead hq
      show FailsOnly _ (if q.stopper.contains _ = true then _ else _)
      split
      · next hparks =>
        refine (failsOnly_park now (hserves.of_fixtures (sameHoldings_of_completeHead hq).fixtures)
          (equipped_of_completeHead hq hc)).mono fun fault hout => ⟨.inr (hstopper ▸ hparks), ?_⟩
        have hout : RunsOut q.timeout now (q.active.length + q.queued.length) fault := hout
        rw [hactive, hqueued, htimeout, List.length_tail] at hout
        exact hout.mono (by omega)
      · exact failsOnly_ok _

/-- **Interrupts are served to the end, whatever they report, or the numbers run out.** That is left
to a program's interrupt, and to what is then left of the chain or started anew. -/
theorem failsOnly_handleStatus (now : Int) (bits : UInt32) (hserves : c.Serves wanted)
    (hc : c.Equipped) :
    FailsOnly (fun fault => (c.active.tail ≠ [] ∨
        c.stopper.contains (c.regs.read32 Register.programPointer) = true) ∧
      RunsOut c.timeout now (c.active.length + c.queued.length) fault)
      (c.handleStatus now bits) := by
  unfold handleStatus
  dsimp only
  split
  · exact failsOnly_ok _
  · split
    · exact failsOnly_ok _
    · split
      · obtain ⟨c', hfail⟩ : ∃ c', failStop
            { c with regs := c.regs.write32 Register.interruptStatus Status.video }
            (bits &&& Status.video &&& Status.faults) = .ok c' := exists_failStop _ hc
        exact FailsOnly.bind_of_ok hfail (failsOnly_ok _)
      · refine FailsOnly.bind ?_ fun _ _ => failsOnly_ok _
        have hcompletion : FailsOnly _ (handleCompletion
            { c with regs := c.regs.write32 Register.interruptStatus Status.video } now) :=
          failsOnly_handleCompletion now hserves hc
        rwa [read32_programPointer_write32] at hcompletion

/-- So it is when interrupt status is an operation of a session. -/
lemma failsOnly_perform_status [DmaBackend δ] (now : Int) (bits : UInt32)
    (hserves : c.Serves wanted) (hc : c.Equipped) :
    FailsOnly (fun fault => (c.active.tail ≠ [] ∨
        c.stopper.contains (c.regs.read32 Register.programPointer) = true) ∧
      RunsOut c.timeout now (c.active.length + c.queued.length) fault)
      (c.perform (.status now bits)) :=
  FailsOnly.bind (failsOnly_handleStatus now bits hserves hc) fun _ _ => failsOnly_ok _

/-! ## The timer -/

/-- **The timer is served to the end, or the numbers run out.** That is left to a deadline that has
passed, and to what has waited behind the chain.

**Proof sketch.** All of the chain exists and can be given up. What is left to be started is what
waited. -/
theorem failsOnly_checkTimeout (now : Int) (hserves : c.Serves wanted) (hc : c.Equipped) :
    FailsOnly (fun fault => (∃ deadline, c.deadline = some deadline ∧ deadline ≤ now) ∧
      c.queued ≠ [] ∧ RunsOut c.timeout now c.queued.length fault) (c.checkTimeout now) := by
  unfold checkTimeout
  split
  · exact failsOnly_ok _
  · next deadline hdeadline =>
    split
    · exact failsOnly_ok _
    · next hpassed =>
      dsimp only
      split
      · exact failsOnly_ok _
      · obtain ⟨q, hq⟩ : ∃ q, CaptureQueue.failAll
            { c.stopEngine.toCaptureQueue with deadline := none, active := [] } c.active = .ok q :=
          CaptureQueue.exists_failAll (lt_length_of_equipped hc)
        have hfailed := CaptureQueue.failed_of_failAll hq
        have hequipped : q.Equipped := hc.of_failed hfailed rfl rfl rfl
        have hactive : q.active = [] := by rw [hfailed.rest]
        have hqueued : q.queued = c.queued := by rw [hfailed.rest]; rfl
        have htimeout : q.timeout = c.timeout := by rw [hfailed.rest]; rfl
        refine FailsOnly.bind_of_ok hq (FailsOnly.bind ?_ fun _ _ => failsOnly_ok _)
        have hrestart : FailsOnly (fun fault => q.active ++ q.queued ≠ [] ∧
            RunsOut q.timeout now (q.active.length + q.queued.length) fault)
            (restart { c.stopEngine with
              toCaptureQueue := { q with stats.timeouts := q.stats.timeouts + 1 } } now) :=
          failsOnly_restart now (hserves.of_fixtures hfailed.fixtures_eq) hequipped
        refine hrestart.mono fun fault hout =>
          ⟨⟨deadline, hdeadline, Int.not_lt.mp hpassed⟩, ?_⟩
        rwa [hactive, hqueued, htimeout, List.nil_append, List.length_nil, Nat.zero_add] at hout

end Channel

end VideoCapture
