import VideoCapture.Proofs.Queue.Views

/-!
# What the steps of scheduling do

Every step of the scheduler either breaks off or does one thing. For each step this module says what
that is, once and in full: which buffers change and how, and that everything else stays. What the
operations keep is derived from here, and the steps are not opened again.

## Main definitions

* `VideoCapture.CaptureBuffer.pointed` — a buffer whose program's tail points at an address.
* `VideoCapture.CaptureQueue.Numbered`, `VideoCapture.CaptureQueue.Failed`,
  `VideoCapture.CaptureQueue.Promoted` — what numbering a chain, giving buffers up and letting
  waiting buffers into the chain do.

## Main results

* `VideoCapture.CaptureQueue.numbered_of_number`, `VideoCapture.CaptureQueue.failed_of_failAll`,
  `VideoCapture.CaptureQueue.promoted_of_promote` — the three loops of the scheduler.
* `VideoCapture.CaptureQueue.splice_eq_ok`, `VideoCapture.CaptureQueue.completeHead_cases` — joining
  and leaving the chain.
* `VideoCapture.Channel.startHead_cases`, `VideoCapture.Channel.restart_cases`,
  `VideoCapture.Channel.place_cases` — the engine is started, and a buffer finds its place.
-/

set_option autoImplicit false

namespace VideoCapture

/-- The buffer with the tail of its program, if it has one, pointed at an address, with an
interrupt. -/
def CaptureBuffer.pointed (buffer : CaptureBuffer) (target : UInt32) : CaptureBuffer :=
  { buffer with setup := buffer.setup.map fun setup =>
      { setup with program := setup.program.retarget target true } }

/-- Where a tail points does not show in the fixture. -/
lemma CaptureBuffer.fixture_pointed (buffer : CaptureBuffer) (target : UInt32) :
    (buffer.pointed target).fixture = buffer.fixture := by
  unfold fixture pointed
  cases buffer.setup with
  | none => rfl
  | some setup => simp [Setup.untied]

namespace CaptureQueue

/-! ## Links -/

/-- Pointing a tail changes one buffer. -/
lemma pointTail_eq_modify (q : CaptureQueue) (i : Nat) (target : UInt32) :
    q.pointTail i target = q.modify i (CaptureBuffer.pointed · target) := rfl

/-- Pointing a tail leaves the stages. -/
@[simp] lemma stateOf_pointTail (q : CaptureQueue) (i j : Nat) (target : UInt32) :
    (q.pointTail i target).stateOf j = q.stateOf j :=
  stateOf_modify q i j _ fun _ => rfl

/-- Pointing a tail leaves the positions. -/
@[simp] lemma positionOf_pointTail (q : CaptureQueue) (i j : Nat) (target : UInt32) :
    (q.pointTail i target).positionOf j = q.positionOf j :=
  positionOf_modify q i j _ fun _ => rfl

/-- Pointing a tail changes nothing but where it points. -/
@[simp] lemma fixtures_pointTail (q : CaptureQueue) (i : Nat) (target : UInt32) :
    (q.pointTail i target).fixtures = q.fixtures :=
  fixtures_modify q i _ fun buffer => buffer.fixture_pointed target

/-- Pointing a tail changes the setup of that buffer only, and there only the tail. -/
lemma setupOf_pointTail (q : CaptureQueue) (i j : Nat) (target : UInt32) :
    (q.pointTail i target).setupOf j = (q.setupOf j).map fun setup =>
      if i = j then { setup with program := setup.program.retarget target true } else setup := by
  rw [setupOf, pointTail_eq_modify, getElem?_modify, setupOf]
  split
  · cases q.buffers[j]? <;> rfl
  · simp

/-- A tail is pointed at the stopper if the buffer has a program. -/
lemma endAt_eq_ok {q q' : CaptureQueue} {i : Nat} :
    q.endAt i = .ok q' ↔ (∃ setup, q.setupOf i = some setup) ∧
      q' = q.pointTail i q.stopper.address := by
  simp only [endAt, bind_eq_ok, scheduled_eq_ok, pure_eq_ok, exists_and_right, eq_comm (a := q')]

/-- A program is linked to another if both buffers have one. -/
lemma link_eq_ok {q q' : CaptureQueue} {previous i : Nat} :
    q.link previous i = .ok q' ↔ ∃ setup, q.setupOf i = some setup ∧
      (∃ s, q.setupOf previous = some s) ∧ q' = q.pointTail previous setup.program.address := by
  simp only [link, bind_eq_ok, scheduled_eq_ok, pure_eq_ok, exists_and_right, eq_comm (a := q')]

/-- Two buffers are compared by their geometries. -/
lemma compatible_eq_ok {q : CaptureQueue} {previous i : Nat} {b : Bool} :
    q.compatible previous i = .ok b ↔ ∃ s t, q.setupOf previous = some s ∧
      q.setupOf i = some t ∧ s.geometry.chains t.geometry = b := by
  simp only [compatible, bind_eq_ok, scheduled_eq_ok, pure_eq_ok, exists_and_left]

/-! ## Positions and deadlines -/

/-- There is a position behind another as long as it can be counted. -/
lemma nextPosition_eq_ok {position next : Nat} :
    nextPosition position = .ok next ↔ position + 1 < bound32 ∧ position + 1 = next :=
  bounded_eq_ok

/-- A deadline is an instant that the clock can tell. -/
lemma due_eq_ok {q : CaptureQueue} {now deadline : Int} :
    q.due now = .ok deadline ↔ now + q.timeout ≤ lastInstant ∧ now + q.timeout = deadline := by
  unfold due
  split <;> simp [*]

/-- A chain that is not empty has a deadline, if the clock can tell it. -/
lemma dueFor_eq_ok {q : CaptureQueue} {now : Int} {chain : List Nat} {deadline : Option Int} :
    q.dueFor now chain = .ok deadline ↔ (chain ≠ [] → now + q.timeout ≤ lastInstant) ∧
      (if chain.isEmpty then none else some (now + q.timeout)) = deadline := by
  cases chain with
  | nil => simp [dueFor, pure_eq_ok]
  | cons i rest =>
    simp only [dueFor, bind_eq_ok, due_eq_ok, pure_eq_ok, and_assoc, exists_and_left,
      exists_eq_left']
    simp

/-- Activating a buffer changes its stage and its position. -/
lemma activate_eq_ok {q q' : CaptureQueue} {i position : Nat} :
    q.activate i position = .ok q' ↔ i < q.buffers.length ∧
      q' = q.modify i fun buffer => { buffer with state := .active, position } := by
  simp only [activate, bind_eq_ok, resident_eq_ok, pure_eq_ok, exists_and_right, eq_comm (a := q')]
  refine and_congr_left fun _ => ⟨fun ⟨buffer, hbuffer⟩ => ?_, fun hi => ?_⟩
  · exact (List.getElem?_eq_some_iff.mp hbuffer).1
  · exact ⟨_, List.getElem?_eq_getElem hi⟩

/-- What making the buffers of a chain active, at consecutive positions, does to a queue. -/
structure Numbered (q : CaptureQueue) (position : Nat) (chain : List Nat) (q' : CaptureQueue) :
    Prop where
  /-- Nothing changes but buffers and the next position. -/
  rest : q' = { q with buffers := q'.buffers, count := position + chain.length }
  /-- The buffers of the chain change in stage and position only. -/
  changed : ∀ i ∈ chain, ∃ buffer position, q.buffers[i]? = some buffer ∧
    q'.buffers[i]? = some { buffer with state := .active, position }
  /-- The others do not change. -/
  others : ∀ i, i ∉ chain → q'.buffers[i]? = q.buffers[i]?
  /-- The positions count on from the first. -/
  positions : chain.Nodup →
    chain.map q'.positionOf = (List.range' position chain.length).map some

/-- Numbering a chain does what it says.

**Proof sketch.** Induction on the chain. The head is activated first and may be activated again
only if it occurs in the rest, which a chain without repetitions rules out. -/
theorem numbered_of_number {q q' : CaptureQueue} {position : Nat} {chain : List Nat}
    (h : q.number position chain = .ok q') : q.Numbered position chain q' := by
  induction chain generalizing q position with
  | nil =>
    obtain rfl : { q with count := position } = q' := pure_eq_ok.mp h
    exact ⟨rfl, by simp, fun _ _ => rfl, fun _ => rfl⟩
  | cons i chain ih =>
    simp only [number, bind_eq_ok, nextPosition_eq_ok, activate_eq_ok] at h
    obtain ⟨_, ⟨-, rfl⟩, q₁, ⟨hi, rfl⟩, h⟩ := h
    have hrest := ih h
    obtain ⟨buffer, hbuffer⟩ : ∃ buffer, q.buffers[i]? = some buffer :=
      ⟨_, List.getElem?_eq_getElem hi⟩
    refine ⟨?_, fun j hj => ?_, fun j hj => ?_, fun hnodup => ?_⟩
    · rw [hrest.rest]
      simp only [modify, List.length_cons, CaptureQueue.mk.injEq, true_and, and_true]
      omega
    · by_cases hmem : j ∈ chain
      · obtain ⟨b, p, hb, hb'⟩ := hrest.changed j hmem
        rw [getElem?_modify] at hb
        split at hb
        · obtain ⟨b₀, hb₀, rfl⟩ := Option.map_eq_some_iff.mp hb
          exact ⟨b₀, p, hb₀, hb'⟩
        · exact ⟨b, p, hb, hb'⟩
      · obtain rfl : j = i := by simpa [hmem] using hj
        refine ⟨buffer, position, hbuffer, ?_⟩
        rw [hrest.others j hmem, getElem?_modify, if_pos rfl, hbuffer]
        rfl
    · obtain ⟨hne, hmem⟩ : j ≠ i ∧ j ∉ chain := by simpa using hj
      rw [hrest.others j hmem, getElem?_modify, if_neg (Ne.symm hne)]
    · obtain ⟨hmem, hnodup⟩ := List.nodup_cons.mp hnodup
      have hhead : q'.positionOf i = some position := by
        rw [positionOf, hrest.others i hmem, getElem?_modify, if_pos rfl, hbuffer]
        rfl
      rw [List.map_cons, hhead, hrest.positions hnodup, List.length_cons, List.range'_succ,
        List.map_cons]

/-! ## Leaving the chain -/

/-- What giving buffers up does to a queue. -/
structure Failed (q : CaptureQueue) (chain : List Nat) (q' : CaptureQueue) : Prop where
  /-- Nothing changes but buffers and the number of failed frames. -/
  rest : q' = { q with
    buffers := q'.buffers
    stats.framesFailed := q.stats.framesFailed + chain.length }
  /-- The buffers given up change in stage only. -/
  changed : ∀ i ∈ chain, ∃ buffer, q.buffers[i]? = some buffer ∧
    q'.buffers[i]? = some { buffer with state := .error }
  /-- The others do not change. -/
  others : ∀ i, i ∉ chain → q'.buffers[i]? = q.buffers[i]?

/-- Giving buffers up does what it says.

**Proof sketch.** Induction on the buffers. One that occurs again later is given up again, which
changes nothing more. -/
theorem failed_of_failAll {q q' : CaptureQueue} {chain : List Nat}
    (h : q.failAll chain = .ok q') : q.Failed chain q' := by
  induction chain generalizing q with
  | nil =>
    obtain rfl : q = q' := pure_eq_ok.mp h
    exact ⟨rfl, by simp, fun _ _ => rfl⟩
  | cons i chain ih =>
    simp only [failAll, bind_eq_ok, resident_eq_ok] at h
    obtain ⟨buffer, hbuffer, h⟩ := h
    have hrest := ih h
    -- the counters do not show in the buffers
    have hmodify : ∀ j, ({ q.modify i fun buffer => { buffer with state := .error } with
        stats.framesFailed := q.stats.framesFailed + 1 } : CaptureQueue).buffers[j]? =
        if i = j then q.buffers[j]?.map fun buffer => { buffer with state := .error }
        else q.buffers[j]? := fun j => getElem?_modify q i j _
    refine ⟨?_, fun j hj => ?_, fun j hj => ?_⟩
    · rw [hrest.rest]
      simp only [modify, List.length_cons, CaptureQueue.mk.injEq, QueueStats.mk.injEq, true_and,
        and_true]
      omega
    · by_cases hmem : j ∈ chain
      · obtain ⟨b, hb, hb'⟩ := hrest.changed j hmem
        rw [hmodify] at hb
        split at hb
        · obtain ⟨b₀, hb₀, rfl⟩ := Option.map_eq_some_iff.mp hb
          exact ⟨b₀, hb₀, hb'⟩
        · exact ⟨b, hb, hb'⟩
      · obtain rfl : j = i := by simpa [hmem] using hj
        refine ⟨buffer, hbuffer, ?_⟩
        rw [hrest.others j hmem, hmodify, if_pos rfl, hbuffer]
        rfl
    · obtain ⟨hne, hmem⟩ : j ≠ i ∧ j ∉ chain := by simpa using hj
      rw [hrest.others j hmem, hmodify, if_neg (Ne.symm hne)]

/-- The head of a chain is retired, if there is a chain. -/
lemma completeHead_cases {q q' : CaptureQueue} {now : Int} (h : q.completeHead now = .ok q') :
    (q.active = [] ∧ q' = q) ∨
    ∃ head rest setup, q.active = head :: rest ∧ q.setupOf head = some setup ∧
      q' = { q.modify head fun buffer =>
          { buffer with state := .done, timestamp := some now, sequence := q.sequence } with
        active := rest
        sequence := q.sequence + 1
        deadline := if rest.isEmpty then none else some (now + q.timeout)
        stats := { q.stats with
          framesCompleted := q.stats.framesCompleted + 1
          bytesCaptured := q.stats.bytesCaptured + setup.geometry.imageBytes } } := by
  unfold completeHead at h
  split at h
  · next hactive => exact .inl ⟨hactive, (pure_eq_ok.mp h).symm⟩
  · next head rest hactive =>
    simp only [bind_eq_ok, scheduled_eq_ok, dueFor_eq_ok, pure_eq_ok] at h
    obtain ⟨setup, hsetup, _, ⟨-, rfl⟩, rfl⟩ := h
    exact .inr ⟨head, rest, setup, hactive, hsetup, rfl⟩

/-- Retiring the head of a chain concerns buffers, the chain, its deadline and the counters. -/
lemma completeHead_rest {q q' : CaptureQueue} {now : Int} (h : q.completeHead now = .ok q') :
    ∃ buffers active sequence deadline stats,
      q' = { q with buffers, active, sequence, deadline, stats } := by
  obtain ⟨-, rfl⟩ | ⟨head, rest, setup, -, -, rfl⟩ := completeHead_cases h
  · exact ⟨_, _, _, _, _, rfl⟩
  · exact ⟨_, _, _, _, _, rfl⟩

/-! ## Entering the chain -/

/-- What letting waiting buffers into the chain does to a queue. -/
structure Promoted (q : CaptureQueue) (waiting taken : List Nat) (q' : CaptureQueue) : Prop where
  /-- Nothing changes but where tails point and the two lists. -/
  rest : q' = { q with buffers := q'.buffers, active := q.active ++ taken, queued := q'.queued }
  /-- Those not taken keep waiting, in the same order. -/
  split : waiting = taken ++ q'.queued
  /-- The stages do not change. -/
  states : ∀ i, q'.stateOf i = q.stateOf i
  /-- The positions do not change. -/
  positions : ∀ i, q'.positionOf i = q.positionOf i
  /-- The setups change only in where tails point. -/
  fixtures : q'.fixtures = q.fixtures
  /-- One buffer at least is taken into an empty chain. -/
  progress : q.active = [] → waiting ≠ [] → taken ≠ []

/-- What waiting buffers become when they are let into the chain: the first is appended to an empty
chain as it is, and any other that can follow the last of the chain is appended behind a link. -/
lemma promote_cases {q q' : CaptureQueue} {i : Nat} {waiting : List Nat}
    (h : q.promote (i :: waiting) = .ok q') :
    (q.active = [] ∧ { q with active := [i] }.promote waiting = .ok q') ∨
    ∃ previous s t, q.active.getLast? = some previous ∧ q.setupOf previous = some s ∧
      q.setupOf i = some t ∧
      (s.geometry.chains t.geometry = true ∧
        { q.pointTail previous t.program.address with active := q.active ++ [i] }.promote waiting =
          .ok q' ∨
       s.geometry.chains t.geometry = false ∧ q' = { q with queued := i :: waiting }) := by
  unfold promote at h
  split at h
  · next hlast => exact .inl ⟨List.getLast?_eq_none_iff.mp hlast, h⟩
  · next previous hlast =>
    obtain ⟨fits, hfits, h⟩ := bind_eq_ok.mp h
    obtain ⟨s, t, hs, ht, hchains⟩ := compatible_eq_ok.mp hfits
    refine .inr ⟨previous, s, t, hlast, hs, ht, ?_⟩
    split at h
    · next hyes =>
      obtain ⟨q₁, hlink, h⟩ := bind_eq_ok.mp h
      obtain ⟨target, htarget, -, rfl⟩ := link_eq_ok.mp hlink
      obtain rfl := Option.some.inj (ht.symm.trans htarget)
      exact .inl ⟨hchains.trans hyes, h⟩
    · next hno => exact .inr ⟨by simpa [hchains] using hno, (pure_eq_ok.mp h).symm⟩

/-- Letting waiting buffers into the chain does not show in any part of a buffer that does not
depend on where its tail points.

**Proof sketch.** Induction on those that wait. -/
lemma map_buffers_of_promote {α : Type} {view : CaptureBuffer → α}
    (hview : ∀ buffer target, view (buffer.pointed target) = view buffer) {q q' : CaptureQueue}
    {waiting : List Nat} (h : q.promote waiting = .ok q') :
    q'.buffers.map view = q.buffers.map view := by
  induction waiting generalizing q with
  | nil =>
    obtain rfl : { q with queued := [] } = q' := pure_eq_ok.mp h
    rfl
  | cons i waiting ih =>
    obtain ⟨-, hrest⟩ | ⟨previous, s, t, -, -, -, ⟨-, hrest⟩ | ⟨-, rfl⟩⟩ := promote_cases h
    · have hkept := ih hrest
      exact hkept
    · have hkept := ih hrest
      exact hkept.trans (map_buffers_modify q previous _ fun buffer => hview buffer _)
    · rfl

/-- Letting waiting buffers into the chain does what it says.

**Proof sketch.** Induction on those that wait. Each is appended, behind a link from the last of the
chain if there is one, until one cannot follow it. -/
theorem promoted_of_promote {q q' : CaptureQueue} {waiting : List Nat}
    (h : q.promote waiting = .ok q') : ∃ taken, q.Promoted waiting taken q' := by
  have hparts : ∀ {α : Type} (view : CaptureBuffer → α),
      (∀ buffer target, view (buffer.pointed target) = view buffer) → ∀ i : Nat,
      q'.buffers[i]?.map view = q.buffers[i]?.map view := by
    intro α view hview i
    simpa using congrArg (fun l => l[i]?) (map_buffers_of_promote hview h)
  suffices hlists : ∃ taken,
      q' = { q with buffers := q'.buffers, active := q.active ++ taken, queued := q'.queued } ∧
      waiting = taken ++ q'.queued ∧ (q.active = [] → waiting ≠ [] → taken ≠ []) by
    obtain ⟨taken, hrest, hsplit, hprogress⟩ := hlists
    exact ⟨taken, hrest, hsplit, hparts _ fun _ _ => rfl, hparts _ fun _ _ => rfl,
      map_buffers_of_promote CaptureBuffer.fixture_pointed h, hprogress⟩
  clear hparts
  induction waiting generalizing q with
  | nil =>
    obtain rfl : { q with queued := [] } = q' := pure_eq_ok.mp h
    exact ⟨[], by simp, rfl, fun _ h => absurd rfl h⟩
  | cons i waiting ih =>
    obtain ⟨hactive, hrest⟩ | ⟨previous, s, t, hlast, -, -, hcase⟩ := promote_cases h
    · obtain ⟨taken, hq, hsplit, -⟩ := ih hrest
      exact ⟨i :: taken, by rw [hq, hactive]; rfl, by rw [hsplit]; rfl, by simp⟩
    · have hactive : q.active ≠ [] := List.ne_nil_of_mem (List.mem_of_getLast? hlast)
      obtain ⟨-, hrest⟩ | ⟨-, rfl⟩ := hcase
      · obtain ⟨taken, hq, hsplit, -⟩ := ih hrest
        refine ⟨i :: taken, ?_, by rw [hsplit]; rfl, fun hnil => absurd hnil hactive⟩
        rw [hq]
        simp [pointTail, modify]
      · exact ⟨[], by simp, rfl, fun hnil => absurd hnil hactive⟩

/-- A buffer spliced onto the chain is active at the next position, and the buffer before it points
at it. -/
lemma splice_eq_ok {q q' : CaptureQueue} {previous i : Nat} :
    q.splice previous i = .ok q' ↔ q.count + 1 < bound32 ∧ i < q.buffers.length ∧
      ∃ setup, q.setupOf i = some setup ∧ (∃ s, q.setupOf previous = some s) ∧
      q' = { (q.modify i fun buffer =>
            { buffer with state := .active, position := q.count }).pointTail previous
              setup.program.address with
          active := q.active ++ [i]
          count := q.count + 1
          stats.chained := q.stats.chained + 1 } := by
  have hsetup : ∀ j, (q.modify i fun buffer =>
      { buffer with state := .active, position := q.count }).setupOf j = q.setupOf j :=
    fun j => setupOf_modify q i j _ fun _ => rfl
  simp only [splice, bind_eq_ok, nextPosition_eq_ok, activate_eq_ok, link_eq_ok, pure_eq_ok]
  constructor
  · rintro ⟨_, ⟨hcount, rfl⟩, _, ⟨hi, rfl⟩, _, ⟨setup, hset, hprev, rfl⟩, rfl⟩
    rw [hsetup] at hset hprev
    exact ⟨hcount, hi, setup, hset, hprev, rfl⟩
  · rintro ⟨hcount, hi, setup, hset, hprev, rfl⟩
    rw [← hsetup] at hset hprev
    exact ⟨_, ⟨hcount, rfl⟩, _, ⟨hi, rfl⟩, _, ⟨setup, hset, hprev, rfl⟩, rfl⟩

end CaptureQueue

namespace Channel

variable {δ : Type} {c c' : Channel δ} {now : Int}

/-- The engine is started on the head of the chain, if there is a chain. -/
lemma startHead_cases (h : c.startHead now = .ok c') :
    (c.active = [] ∧ c' = { c with deadline := none }) ∨
    ∃ head rest q setup engine regs, c.active = head :: rest ∧
      c.toCaptureQueue.Numbered 1 c.active q ∧ q.setupOf head = some setup ∧
      c.engine.start c.regs setup.program.address setup.geometry setup.norm = .ok (engine, regs) ∧
      c' = { c with
        toCaptureQueue := { q with
          engine
          deadline := some (now + c.timeout)
          stats.starts := c.stats.starts + 1 }
        regs } := by
  unfold startHead at h
  split at h
  · next hactive => exact .inl ⟨hactive, (pure_eq_ok.mp h).symm⟩
  · next head rest hactive =>
    simp only [bind_eq_ok, CaptureQueue.scheduled_eq_ok, CaptureQueue.due_eq_ok, pure_eq_ok] at h
    obtain ⟨q, hnumber, setup, hsetup, ⟨engine, regs⟩, hstart, _, ⟨-, rfl⟩, rfl⟩ := h
    have hnumbered := CaptureQueue.numbered_of_number hnumber
    have hrest := hnumbered.rest
    have hengine : q.engine = c.engine := by rw [hrest]
    have htimeout : q.timeout = c.timeout := by rw [hrest]
    have hstats : q.stats = c.stats := by rw [hrest]
    rw [hengine] at hstart
    exact .inr ⟨head, rest, q, setup, engine, regs, hactive, hnumbered, hsetup, hstart, by
      rw [htimeout, hstats]⟩

/-- The engine is started on the chain there is, or else on waiting buffers that can form one. -/
lemma restart_cases (h : c.restart now = .ok c') :
    (c.active ≠ [] ∧ c.startHead now = .ok c') ∨
    ∃ q, c.active = [] ∧ c.promote c.queued = .ok q ∧
      startHead { c with toCaptureQueue := q } now = .ok c' := by
  unfold restart at h
  split at h
  · next hempty =>
    simp only [bind_eq_ok] at h
    obtain ⟨q, hpromote, h⟩ := h
    exact .inr ⟨q, List.isEmpty_iff.mp hempty, hpromote, h⟩
  · next hempty => exact .inl ⟨fun hnil => hempty (by rw [hnil]; rfl), h⟩

/-- A buffer that finds its place has its tail pointed at the stopper. Then it waits, for which
there is a reason, starts a chain, or is spliced onto the one that runs. -/
lemma place_cases {i : Nat} (h : c.place now i = .ok c') :
    (∃ setup, c.setupOf i = some setup) ∧
    let q := c.pointTail i c.stopper.address
    ((c.queued = [] → c.fault = none → c.active ≠ []) ∧
      c' = { c with toCaptureQueue := q.wait i }) ∨
    (c.queued = [] ∧ c.fault = none ∧ c.active = [] ∧
      startHead { c with toCaptureQueue := { q with active := [i] } } now = .ok c') ∨
    ∃ previous spliced, c.queued = [] ∧ c.fault = none ∧ c.active.getLast? = some previous ∧
      q.compatible previous i = .ok true ∧ q.splice previous i = .ok spliced ∧
      c' = { c with toCaptureQueue := spliced } := by
  simp only [place, bind_eq_ok, CaptureQueue.endAt_eq_ok] at h
  obtain ⟨q, ⟨hsetup, rfl⟩, h⟩ := h
  refine ⟨hsetup, ?_⟩
  split at h
  · next hbusy =>
    have hnot : c.queued ≠ [] ∨ c.fault.isSome = true := by
      simpa [CaptureQueue.pointTail, CaptureQueue.modify] using hbusy
    refine .inl ⟨fun hqueued hfault => ?_, (pure_eq_ok.mp h).symm⟩
    simp [hqueued, hfault] at hnot
  · next hfree =>
    obtain ⟨hqueued, hfault⟩ : c.queued = [] ∧ c.fault = none := by
      simpa [CaptureQueue.pointTail, CaptureQueue.modify] using hfree
    split at h
    · next hlast =>
      exact .inr (.inl ⟨hqueued, hfault, List.getLast?_eq_none_iff.mp hlast, h⟩)
    · next previous hlast =>
      simp only [bind_eq_ok] at h
      obtain ⟨fits, hfits, h⟩ := h
      split at h
      · next hyes =>
        simp only [bind_eq_ok, pure_eq_ok] at h
        obtain ⟨spliced, hsplice, rfl⟩ := h
        exact .inr (.inr ⟨previous, spliced, hqueued, hfault, hlast, by rw [hfits, hyes], hsplice,
          rfl⟩)
      · have hactive : c.active ≠ [] := List.ne_nil_of_mem (List.mem_of_getLast? hlast)
        exact .inl ⟨fun _ _ => hactive, (pure_eq_ok.mp h).symm⟩

/-- What is kept when one buffer finds its place is kept when all do.

**Proof sketch.** Along the ready buffers, those that are prepared being placed and the others
passed over. -/
lemma placeAll_keeps {P : Channel δ → Prop}
    (hstep : ∀ c c' : Channel δ, ∀ i, P c → c.place now i = .ok c' → P c') {ready : List Nat}
    (h : c.placeAll now ready = .ok c') (hc : P c) : P c' := by
  induction ready generalizing c with
  | nil =>
    obtain rfl : c = c' := pure_eq_ok.mp h
    exact hc
  | cons i ready ih =>
    obtain ⟨buffer, -, h⟩ := bind_eq_ok.mp h
    by_cases hprepared : buffer.state = .prepared
    · rw [if_pos hprepared] at h
      obtain ⟨c₁, hplace, hrest⟩ := bind_eq_ok.mp h
      exact ih hrest (hstep c c₁ i hc hplace)
    · rw [if_neg hprepared] at h
      exact ih h hc

end Channel

end VideoCapture
