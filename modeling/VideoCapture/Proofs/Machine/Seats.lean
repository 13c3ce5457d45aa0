import VideoCapture.Opener
import VideoCapture.Proofs.Queue.Operations
import VideoCapture.Proofs.Queue.Setups

/-!
# What openers can do

Whatever an opener asks for comes down to operations of the queue, carried out one after the other,
and to the right to capture, which the opener may take on the way if it is free. An opener without
the right, while another has it, is refused nearly everything. There is one exception: a buffer that
is prepared already and not handed in yet is handed in without a look at the right.

## Main definitions

* `VideoCapture.Channel.Leads`, `VideoCapture.Channel.Follows` — operations lead from one channel to
  another, with nothing in between.
* `VideoCapture.Seat.Operation`, `VideoCapture.Seat.perform` — what an opener can ask for.
* `VideoCapture.Seat.Wants`, `VideoCapture.Seat.Carries` — what an opener has buffers prepared for,
  and what it has carried out on the queue.
* `VideoCapture.Seat.Progress`, `VideoCapture.Seat.Advance` — what can become of an opener and of
  what it works on.
* `VideoCapture.Seat.Barred` — an opener without the right while another has it.

## Main results

* `VideoCapture.Channel.Leads.keeps` — what no allowed operation breaks holds where they lead.
* `VideoCapture.Seat.progress_of_perform` — what an opener asks for comes down to operations of the
  queue.
* `VideoCapture.Seat.format_of_perform` — an opener has its format until it takes another one.
* `VideoCapture.Seat.Barred.refused`, `VideoCapture.Seat.perform_of_slipsIn` — an opener without the
  right is refused, unless it hands in a prepared buffer.
-/

set_option autoImplicit false

namespace VideoCapture

/-! ## Operations one after the other -/

/-- An operation is one that devices carry out by themselves: status is acted upon, interrupts are
masked, or a fault is reported. -/
def CaptureQueue.Operation.Unasked : Operation → Prop
  | .status _ _ | .maskAll | .takeFault => True
  | _ => False

/-- Such operations prepare nothing. -/
lemma CaptureQueue.Operation.Unasked.preparesFor {operation : Operation}
    (h : operation.Unasked) (wanted : Geometry → Norm → Prop) : operation.PreparesFor wanted := by
  cases operation with
  | prepare _ _ _ => exact h.elim
  | _ => exact trivial

namespace Channel

open CaptureQueue (Operation Answer Event)

variable {δ : Type} [DmaBackend δ] {allowed allowed' : Operation → Prop}
  {wanted : Geometry → Norm → Prop} {c c' c'' : Channel δ}

/-- Operations lead from one channel to another, with nothing in between, and all are allowed. -/
def Leads (allowed : Operation → Prop) (c c' : Channel δ) : Prop :=
  ∃ operations : List Operation, (∀ operation ∈ operations, allowed operation) ∧
    c.performAll operations = .ok c'

/-- No operations lead anywhere else. -/
lemma leads_refl (c : Channel δ) : c.Leads allowed c :=
  ⟨[], nofun, rfl⟩

/-- More may be allowed. -/
lemma Leads.mono (h : c.Leads allowed c')
    (hmore : ∀ operation, allowed operation → allowed' operation) : c.Leads allowed' c' := by
  obtain ⟨operations, hall, h⟩ := h
  exact ⟨operations, fun operation hoperation => hmore operation (hall operation hoperation), h⟩

/-- An operation may come first. -/
lemma Leads.after (operation : Operation) {answer : Answer} (h : c'.Leads allowed c'')
    (hallowed : allowed operation) (hfirst : c.perform operation = .ok (answer, c')) :
    c.Leads allowed c'' := by
  obtain ⟨operations, hall, h⟩ := h
  exact ⟨operation :: operations, List.forall_mem_cons.mpr ⟨hallowed, hall⟩,
    bind_eq_ok.mpr ⟨(answer, c'), hfirst, h⟩⟩

/-- A single operation leads on. -/
lemma leads_of_perform (operation : Operation) {answer : Answer} (hallowed : allowed operation)
    (h : c.perform operation = .ok (answer, c')) : c.Leads allowed c' :=
  (leads_refl c').after operation hallowed h

/-- **What no allowed operation breaks holds where they lead.**

**Proof sketch.** Induction on the operations. -/
theorem Leads.keeps {P : Channel δ → Prop} (h : c.Leads allowed c') (hc : P c)
    (hP : ∀ (c₁ c₂ : Channel δ) (operation : Operation) (answer : Answer),
      allowed operation → P c₁ → c₁.perform operation = .ok (answer, c₂) → P c₂) : P c' := by
  obtain ⟨operations, hall, h⟩ := h
  induction operations generalizing c with
  | nil => exact pure_eq_ok.mp h ▸ hc
  | cons operation rest ih =>
    obtain ⟨⟨answer, c₁⟩, hperform, hrest⟩ := bind_eq_ok.mp h
    obtain ⟨hallowed, hall⟩ := List.forall_mem_cons.mp hall
    exact ih (hP c c₁ operation answer hallowed hc hperform) hall hrest

/-- Operations may go on where others have led. -/
lemma Leads.trans (h : c.Leads allowed c') (h' : c'.Leads allowed c'') : c.Leads allowed c'' := by
  obtain ⟨operations, hall, h⟩ := h
  induction operations generalizing c with
  | nil => exact pure_eq_ok.mp h ▸ h'
  | cons operation rest ih =>
    obtain ⟨⟨answer, c₁⟩, hperform, hrest⟩ := bind_eq_ok.mp h
    obtain ⟨hallowed, hall⟩ := List.forall_mem_cons.mp hall
    exact (ih hall hrest).after operation hallowed hperform

/-- Serving an interrupt is acting on status, again and again, and masking everything in the end if
there is no end to it.

**Proof sketch.** Induction on the looks at the status. -/
lemma leads_of_interrupt {sense : Channel δ → UInt32} {now : Int} {handled mine : Bool}
    {passes : Nat} (h : c.interrupt sense now handled passes = .ok (mine, c')) :
    c.Leads Operation.Unasked c' := by
  induction passes generalizing c handled with
  | zero =>
    obtain ⟨-, rfl⟩ := Prod.mk.inj (pure_eq_ok.mp h)
    exact leads_of_perform .maskAll trivial rfl
  | succ passes ih =>
    simp only [interrupt] at h
    split at h
    · obtain ⟨-, rfl⟩ := Prod.mk.inj (pure_eq_ok.mp h)
      exact leads_refl c
    · obtain ⟨⟨acted, c₁⟩, hstatus, hrest⟩ := bind_eq_ok.mp h
      exact (ih hrest).after (.status now (sense c &&& c.engine.mask)) trivial
        (bind_eq_ok.mpr ⟨(acted, c₁), hstatus, rfl⟩)

/-- Reporting every fault is reporting one after the other.

**Proof sketch.** Induction on the faults. -/
lemma leads_service (c : Channel δ) : c.Leads Operation.Unasked c.service.2 := by
  suffices hall : ∀ (backlog : List UInt32) (c : Channel δ), c.backlog = backlog →
      c.Leads Operation.Unasked c.service.2 from hall c.backlog c rfl
  intro backlog
  induction backlog with
  | nil =>
    intro c hbacklog
    have hsame : c.service.2 = c := by
      rw [service, ← hbacklog]
    rw [hsame]
    exact leads_refl c
  | cons fault rest ih =>
    intro c hbacklog
    have htake : c.perform .takeFault = .ok (.report (some fault), { c with backlog := rest }) := by
      simp only [perform, CaptureQueue.takeFault, hbacklog]
      rfl
    exact (ih { c with backlog := rest } rfl).after .takeFault trivial htake

/-! ## What buffers are prepared for -/

/-- Operations lead from one channel to another, with nothing in between, and prepare buffers for
what is wanted only. -/
def Follows (wanted : Geometry → Norm → Prop) (c c' : Channel δ) : Prop :=
  ∃ operations : List Operation, (∀ operation ∈ operations, operation.PreparesFor wanted) ∧
    c.performAll operations = .ok c'

/-- Operations that are allowed may prepare for nothing else. -/
lemma Leads.follows (h : c.Leads allowed c')
    (hwanted : ∀ operation, allowed operation → operation.PreparesFor wanted) :
    c.Follows wanted c' :=
  h.mono hwanted

/-- What no such operation breaks holds where they lead. -/
lemma Follows.keeps {P : Channel δ → Prop} (h : c.Follows wanted c') (hc : P c)
    (hP : ∀ (c₁ c₂ : Channel δ) (operation : Operation) (answer : Answer),
      operation.PreparesFor wanted → P c₁ → c₁.perform operation = .ok (answer, c₂) → P c₂) :
    P c' :=
  Leads.keeps h hc hP

/-- A session goes on where operations lead. -/
lemma Session.follows {drifts : RegisterFile → RegisterFile → Prop} {events : List Event}
    (hsession : c.Session (fun _ _ => True) drifts events c') (h : c'.Follows wanted c'') :
    ∃ events, c.Session (fun _ _ => True) drifts events c'' :=
  h.keeps (P := fun c' => ∃ events, c.Session (fun _ _ => True) drifts events c')
    ⟨events, hsession⟩ fun _ _ _ _ _ ⟨_, hsession⟩ hperform =>
      ⟨_, hsession.perform trivial hperform⟩

end Channel

namespace Seat

open CaptureQueue (Answer)

/-! ## Asking -/

/-- What an opener can ask for. -/
inductive Operation where
  /-- Takes a format. -/
  | setFormat (request : FormatRequest)
  /-- Replaces the buffers. -/
  | request (count : Nat)
  /-- Prepares a buffer. -/
  | prepare (index : Nat)
  /-- Hands a buffer in. -/
  | enqueue (now : Int) (index : Nat)
  /-- Takes a finished buffer back. -/
  | dequeue
  /-- Takes a finished buffer back, waiting for it. -/
  | await
  /-- Starts or resumes capture. -/
  | streamOn (now : Int)
  /-- Stops capture. -/
  | streamOff

variable {δ : Type} [DmaBackend δ]

/-- Does what an opener asks for. -/
def perform (seat : Seat δ) : Operation → Except Fault (Answer × Seat δ)
  | .setFormat request => do
    let (result, seat) ← seat.setFormat request
    return (.of (fun _ => .done) result, seat)
  | .request count => do
    let (result, seat) ← seat.request count
    return (.of (fun _ => .done) result, seat)
  | .prepare index => do
    let (result, seat) ← seat.prepare index
    return (.of (fun _ => .done) result, seat)
  | .enqueue now index => do
    let (result, seat) ← seat.enqueue now index
    return (.of (fun _ => .done) result, seat)
  | .dequeue => do
    let (result, seat) ← seat.dequeue
    return (.of .frame result, seat)
  | .await => do
    let (result, seat) ← seat.await
    return (.of .frame result, seat)
  | .streamOn now => do
    let (result, seat) ← seat.streamOn now
    return (.of (fun _ => .done) result, seat)
  | .streamOff => do
    let (result, seat) ← seat.streamOff
    return (.of (fun _ => .done) result, seat)

variable {seat seat' : Seat δ}

omit [DmaBackend δ] in
/-- Putting an outcome into words changes nothing else. -/
lemma exists_result {α : Type} {x : Except Fault (α × Seat δ)} {words : α → Answer}
    {answer : Answer}
    (h : (do let (result, seat) ← x; return (words result, seat)) = .ok (answer, seat')) :
    ∃ result, x = .ok (result, seat') ∧ answer = words result := by
  obtain ⟨⟨result, _⟩, hx, hwords⟩ := bind_eq_ok.mp h
  obtain ⟨rfl, rfl⟩ := Prod.mk.inj (pure_eq_ok.mp hwords)
  exact ⟨result, hx, rfl⟩

/-! ## The right to capture -/

omit [DmaBackend δ] in
/-- The right is taken by an opener that has it already, or where nobody has it. -/
lemma claim_cases (h : seat.claim = .ok seat') :
    (seat.opener.holds = true ∧ seat' = seat) ∨
    (seat.opener.holds = false ∧ seat.chip.claimed = false ∧
      seat' = { seat with opener.holds := true, chip.claimed := true }) := by
  unfold claim at h
  split at h
  · next hholds => exact .inl ⟨hholds, (Except.ok.inj h).symm⟩
  · next hholds =>
    split at h
    · cases h
    · next hclaimed =>
      exact .inr ⟨by simpa using hholds, by simpa using hclaimed, (Except.ok.inj h).symm⟩

omit [DmaBackend δ] in
/-- Whoever takes the right has it. -/
lemma holds_of_claim (h : seat.claim = .ok seat') : seat'.opener.holds = true := by
  obtain ⟨hholds, rfl⟩ | ⟨-, -, rfl⟩ := claim_cases h
  · exact hholds
  · rfl

omit [DmaBackend δ] in
/-- Whoever takes the right had it, or it was free. -/
lemma right_of_claim (h : seat.claim = .ok seat') :
    seat.opener.holds = true ∨ seat.chip.claimed = false :=
  (claim_cases h).imp And.left fun hfree => hfree.2.1

omit [DmaBackend δ] in
/-- Taking the right does not concern the queue. -/
lemma channel_of_claim (h : seat.claim = .ok seat') : seat'.channel = seat.channel := by
  obtain ⟨-, rfl⟩ | ⟨-, -, rfl⟩ := claim_cases h <;> rfl

omit [DmaBackend δ] in
/-- Without the right nothing is done with the queue. -/
lemma ifHolding_cases {α : Type} {result : Except Error α}
    {act : Channel δ → Except Fault (Except Error α × Channel δ)}
    (h : seat.ifHolding act = .ok (result, seat')) :
    (seat.opener.holds = false ∧ result = .error .busy ∧ seat' = seat) ∨
    (seat.opener.holds = true ∧ ∃ channel, act seat.channel = .ok (result, channel) ∧
      seat' = { seat with channel }) := by
  unfold ifHolding at h
  split at h
  · next hholds =>
    obtain ⟨rfl, rfl⟩ := Prod.mk.inj (pure_eq_ok.mp h)
    exact .inl ⟨by simpa using hholds, rfl, rfl⟩
  · next hholds =>
    obtain ⟨⟨outcome, channel⟩, hact, h⟩ := bind_eq_ok.mp h
    obtain ⟨rfl, rfl⟩ := Prod.mk.inj (pure_eq_ok.mp h)
    exact .inr ⟨by simpa using hholds, channel, hact, rfl⟩

omit [DmaBackend δ] in
/-- With the right it is done. -/
lemma ifHolding_eq {α : Type} {act : Channel δ → Except Fault (Except Error α × Channel δ)}
    (hholds : seat.opener.holds = true) : seat.ifHolding act = do
      let (result, channel) ← act seat.channel
      return (result, { seat with channel }) := by
  unfold ifHolding
  rw [hholds]
  rfl

omit [DmaBackend δ] in
/-- It succeeds with the right where the queue answers. -/
lemma ifHolding_of_holds {α : Type} {result : Except Error α} {channel : Channel δ}
    {act : Channel δ → Except Fault (Except Error α × Channel δ)}
    (hholds : seat.opener.holds = true) (hact : act seat.channel = .ok (result, channel)) :
    seat.ifHolding act = .ok (result, { seat with channel }) := by
  rw [ifHolding_eq hholds, hact]
  rfl

/-- An opener that has the right gives it back when it is closed, and its queue is shut down. Any
other leaves everything as it is. -/
lemma close_cases (h : seat.close = .ok seat') :
    (seat.opener.holds = true ∧ ∃ channel, seat.channel.shutdown = .ok channel ∧
      seat' = { seat with channel, opener.holds := false, chip.claimed := false }) ∨
    (seat.opener.holds = false ∧ seat' = seat) := by
  unfold close at h
  split at h
  · next hholds =>
    obtain ⟨channel, hshutdown, h⟩ := bind_eq_ok.mp h
    exact .inl ⟨hholds, channel, hshutdown, (pure_eq_ok.mp h).symm⟩
  · next hholds => exact .inr ⟨by simpa using hholds, (pure_eq_ok.mp h).symm⟩

/-- An opener that has the right has any buffer there is prepared for its format. -/
lemma prepare_eq {index : Nat} (hholds : seat.opener.holds = true)
    (hindex : index < seat.channel.buffers.length) : seat.prepare index = do
      let (result, channel) ← seat.channel.prepare index seat.opener.geometry seat.chip.norm
      return (result, { seat with channel }) := by
  refine (ifHolding_eq hholds).trans ?_
  rw [CaptureQueue.handle, if_pos hindex]

/-- A buffer is handed in at once if it is prepared, and is prepared first otherwise.

**Proof sketch.** The number is in range or it is not, the buffer is prepared or it is not, and
preparing it succeeds or does not. -/
lemma enqueue_cases {now : Int} {index : Nat} {result : Except Error Unit}
    (h : seat.enqueue now index = .ok (result, seat')) :
    (seat.channel.buffers.length ≤ index ∧ result = .error .invalidArgument ∧ seat' = seat) ∨
    (index < seat.channel.buffers.length ∧ seat.channel.stateOf index = some .prepared ∧
      ∃ channel, seat.channel.enqueue now index = .ok (result, channel) ∧
        seat' = { seat with channel }) ∨
    (index < seat.channel.buffers.length ∧ seat.channel.stateOf index ≠ some .prepared ∧
      ∃ error, seat.prepare index = .ok (.error error, seat') ∧ result = .error error) ∨
    (index < seat.channel.buffers.length ∧ seat.channel.stateOf index ≠ some .prepared ∧
      ∃ seat₁ channel, seat.prepare index = .ok (.ok (), seat₁) ∧
        seat₁.channel.enqueue now index = .ok (result, channel) ∧
        seat' = { seat₁ with channel }) := by
  unfold enqueue CaptureQueue.handle at h
  by_cases hlength : index < seat.channel.buffers.length
  · rw [if_pos hlength] at h
    dsimp only at h
    have hready : ((seat.channel.info? index).any fun info => info.state = .prepared) =
        decide (seat.channel.stateOf index = some .prepared) := by
      rw [CaptureQueue.info?, CaptureQueue.stateOf, List.getElem?_eq_getElem hlength]
      simp [CaptureBuffer.info]
    rw [hready] at h
    by_cases hprepared : seat.channel.stateOf index = some .prepared
    · simp only [hprepared, decide_true, if_true] at h
      obtain ⟨_, hseat, h⟩ := bind_eq_ok.mp h
      obtain rfl := pure_eq_ok.mp hseat
      obtain ⟨⟨outcome, channel⟩, henqueue, h⟩ := bind_eq_ok.mp h
      obtain ⟨rfl, rfl⟩ := Prod.mk.inj (pure_eq_ok.mp h)
      exact .inr (.inl ⟨hlength, hprepared, channel, henqueue, rfl⟩)
    · simp only [hprepared, decide_false, Bool.false_eq_true, if_false] at h
      obtain ⟨⟨prepared, seat₁⟩, hprepare, h⟩ := bind_eq_ok.mp h
      dsimp only at h
      split at h
      · obtain ⟨rfl, rfl⟩ := Prod.mk.inj (pure_eq_ok.mp h)
        exact .inr (.inr (.inl ⟨hlength, hprepared, _, hprepare, rfl⟩))
      · obtain ⟨⟨outcome, channel⟩, henqueue, h⟩ := bind_eq_ok.mp h
        obtain ⟨rfl, rfl⟩ := Prod.mk.inj (pure_eq_ok.mp h)
        exact .inr (.inr (.inr ⟨hlength, hprepared, seat₁, channel, hprepare, henqueue, rfl⟩))
  · rw [if_neg hlength] at h
    obtain ⟨rfl, rfl⟩ := Prod.mk.inj (pure_eq_ok.mp h)
    exact .inl ⟨Nat.le_of_not_lt hlength, rfl, rfl⟩

omit [DmaBackend δ] in
/-- Taking a format concerns nobody else. -/
lemma exists_of_setFormat {request : FormatRequest} {result : Except Error Geometry}
    (h : seat.setFormat request = .ok (result, seat')) :
    ∃ geometry, seat' = { seat with opener.geometry := geometry } := by
  obtain ⟨outcome, -, h⟩ := bind_eq_ok.mp h
  split at h
  · obtain ⟨-, rfl⟩ := Prod.mk.inj (pure_eq_ok.mp h)
    exact ⟨_, rfl⟩
  · split at h
    · obtain ⟨-, rfl⟩ := Prod.mk.inj (pure_eq_ok.mp h)
      exact ⟨_, rfl⟩
    · obtain ⟨-, rfl⟩ := Prod.mk.inj (pure_eq_ok.mp h)
      exact ⟨_, rfl⟩

/-- How many buffers are meant by a number: a fixed number of them if none are asked for. -/
def meant (count : Nat) : Nat :=
  if count = 0 then defaultCount else count

/-- How many of the buffers that are meant an opener may have. Their images are counted against the
memory that it may have. -/
def granted (seat : Seat δ) (count : Nat) : Nat :=
  fitting seat.opener.geometry.imageBytes seat.memoryBytes (meant count)

omit [DmaBackend δ] in
/-- Taking the right leaves the memory. -/
lemma memoryBytes_of_claim (h : seat.claim = .ok seat') :
    seat'.memoryBytes = seat.memoryBytes := by
  obtain ⟨-, rfl⟩ | ⟨-, -, rfl⟩ := claim_cases h <;> rfl

omit [DmaBackend δ] in
/-- So it leaves the buffers that there is room for. -/
lemma granted_of_claim (h : seat.claim = .ok seat') (count : Nat) :
    seat'.granted count = seat.granted count := by
  obtain ⟨-, rfl⟩ | ⟨-, -, rfl⟩ := claim_cases h <;> rfl

/-- Once a request has taken the right, there is room for some buffers or for none, if the memory
can be told in 64 bits. -/
lemma request_of_claim {seat₁ : Seat δ} (h : seat.claim = .ok seat₁) (count : Nat) :
    seat.request count = if bound64 ≤ seat₁.memoryBytes then .error .numberTooWide
      else if seat₁.granted count = 0 then .ok (.error .outOfMemory, seat₁)
      else seat₁.ifHolding fun c => c.requestBuffers (seat₁.granted count)
        (wholePages seat₁.opener.geometry.imageBytes) := by
  rw [request, h]
  dsimp only
  by_cases hwide : bound64 ≤ seat₁.memoryBytes
  · rw [if_pos hwide, bounded_eq_error.mpr ⟨hwide, rfl⟩]
    rfl
  · rw [if_neg hwide, bounded_eq_ok.mpr ⟨Nat.lt_of_not_le hwide, rfl⟩]
    rfl

/-- A request takes the right first, or is refused without it. Then the memory of the opener is
told, and there is room for some buffers or for none. They are as large as the format of the opener
needs.

**Proof sketch.** The right is there to be taken or it is not. Then the memory of the opener fits
its number, or the request ends in a fault and has no result. -/
lemma request_cases {count : Nat} {result : Except Error Nat}
    (h : seat.request count = .ok (result, seat')) :
    (∃ error, seat.claim = .error error ∧ result = .error error ∧ seat' = seat) ∨
    ∃ seat₁, seat.claim = .ok seat₁ ∧ seat₁.memoryBytes < bound64 ∧
      ((seat₁.granted count = 0 ∧ result = .error .outOfMemory ∧ seat' = seat₁) ∨
        (seat₁.granted count ≠ 0 ∧ seat₁.ifHolding (fun c => c.requestBuffers (seat₁.granted count)
          (wholePages seat₁.opener.geometry.imageBytes)) = .ok (result, seat'))) := by
  cases hclaim : seat.claim with
  | error error =>
    rw [request, hclaim] at h
    obtain ⟨rfl, rfl⟩ := Prod.mk.inj (pure_eq_ok.mp h)
    exact .inl ⟨error, rfl, rfl, rfl⟩
  | ok seat₁ =>
    rw [request_of_claim hclaim] at h
    split at h
    · cases h
    · next hnarrow =>
      refine .inr ⟨seat₁, rfl, Nat.lt_of_not_le hnarrow, ?_⟩
      split at h
      · next hnone =>
        obtain ⟨rfl, rfl⟩ := Prod.mk.inj (Except.ok.inj h)
        exact .inl ⟨hnone, rfl, rfl⟩
      · next hsome => exact .inr ⟨hsome, h⟩

omit [DmaBackend δ] in
/-- Starting capture takes the right first, or is refused without it. -/
lemma streamOn_cases {now : Int} {result : Except Error Unit}
    (h : seat.streamOn now = .ok (result, seat')) :
    (∃ error, seat.claim = .error error ∧ result = .error error ∧ seat' = seat) ∨
    ∃ seat₁, seat.claim = .ok seat₁ ∧
      seat₁.ifHolding (fun c => c.streamOn now) = .ok (result, seat') := by
  unfold streamOn at h
  split at h
  · next error hclaim =>
    obtain ⟨rfl, rfl⟩ := Prod.mk.inj (pure_eq_ok.mp h)
    exact .inl ⟨error, hclaim, rfl, rfl⟩
  · next seat₁ hclaim => exact .inr ⟨seat₁, hclaim, h⟩

omit [DmaBackend δ] in
/-- Waiting for a buffer is looking for one, and looking again after the chain has been recovered if
it had to be waited for. -/
lemma await_cases {result : Except Error Frame} (h : seat.await = .ok (result, seat')) :
    ∃ first seat₁, seat.dequeue = .ok (first, seat₁) ∧ (result = first ∧ seat' = seat₁ ∨
      ∃ deadline stalled channel, seat₁.channel.checkTimeout deadline = .ok (stalled, channel) ∧
        dequeue { seat₁ with channel } = .ok (result, seat')) := by
  obtain ⟨⟨first, seat₁⟩, hdequeue, h⟩ := bind_eq_ok.mp h
  refine ⟨first, seat₁, hdequeue, ?_⟩
  dsimp only at h
  split at h
  · obtain ⟨⟨stalled, channel⟩, htimeout, h⟩ := bind_eq_ok.mp h
    exact .inr ⟨_, stalled, channel, htimeout, h⟩
  · obtain ⟨rfl, rfl⟩ := Prod.mk.inj (pure_eq_ok.mp h)
    exact .inl ⟨rfl, rfl⟩

/-! ## What becomes of an opener -/

/-- What an opener has buffers prepared for: its format, and the norm in force, as long as it has
the right to capture. -/
def Wants (seat : Seat δ) (geometry : Geometry) (norm : Norm) : Prop :=
  seat.opener.holds = true ∧ geometry = seat.opener.geometry ∧ norm = seat.chip.norm

/-- What an opener has carried out on the queue. Buffers are prepared for what it wants, and they
are requested with room for its format, if it has the right to capture or the right is free. -/
def Carries (seat : Seat δ) : CaptureQueue.Operation → Prop
  | .prepare _ geometry norm => seat.Wants geometry norm
  | .request _ capacity => (seat.opener.holds = true ∨ seat.chip.claimed = false) ∧
    capacity = wholePages seat.opener.geometry.imageBytes
  | .enqueue _ _ | .dequeue | .streamOn _ | .streamOff | .timeout _ => True
  | .status _ _ | .maskAll | .takeFault | .shutdown => False

/-- What can become of an opener and of what it works on: operations are carried out on the queue,
which prepare buffers for what the opener wants, and the right to capture is taken if it is free, or
not. -/
structure Advance (seat seat' : Seat δ) : Prop where
  /-- The settings stay. -/
  config : seat'.config = seat.config
  /-- The right stays where it is, or it is taken because nobody has it. -/
  right : (seat'.opener.holds = seat.opener.holds ∧ seat'.chip = seat.chip) ∨
    (seat.opener.holds = false ∧ seat.chip.claimed = false ∧ seat'.opener.holds = true ∧
      seat'.chip = { seat.chip with claimed := true })
  /-- Operations are carried out on the queue. -/
  channel : seat.channel.Follows seat.Wants seat'.channel

/-- What becomes of an opener, with all that it has carried out on the queue. -/
structure Progress (seat seat' : Seat δ) : Prop where
  /-- The settings stay. -/
  config : seat'.config = seat.config
  /-- The right stays where it is, or it is taken because nobody has it. -/
  right : (seat'.opener.holds = seat.opener.holds ∧ seat'.chip = seat.chip) ∨
    (seat.opener.holds = false ∧ seat.chip.claimed = false ∧ seat'.opener.holds = true ∧
      seat'.chip = { seat.chip with claimed := true })
  /-- Operations are carried out on the queue. -/
  channel : seat.channel.Leads seat.Carries seat'.channel

/-- Nothing that an opener has carried out prepares buffers for anything else. -/
lemma Progress.advance (h : seat.Progress seat') : seat.Advance seat' where
  config := h.config
  right := h.right
  channel := h.channel.follows fun operation hcarries => by
    cases operation with
    | prepare _ _ _ => exact hcarries
    | _ => exact trivial

/-- The queue is worked on with the right where it is. -/
lemma progress_channel {channel : Channel δ} (h : seat.channel.Leads seat.Carries channel) :
    seat.Progress { seat with channel } :=
  ⟨rfl, .inl ⟨rfl, rfl⟩, h⟩

/-- The queue is worked on after the right was taken. -/
lemma progress_of_claim {channel : Channel δ} (h : seat.claim = .ok seat')
    (hchannel : seat'.channel.Leads seat.Carries channel) :
    seat.Progress { seat' with channel } := by
  obtain ⟨-, rfl⟩ | ⟨hholds, hclaimed, rfl⟩ := claim_cases h
  · exact progress_channel hchannel
  · exact ⟨rfl, .inr ⟨hholds, hclaimed, rfl, rfl⟩, hchannel⟩

/-- What is done with the queue by an opener that has the right, or refused to one that has not. -/
lemma leads_of_ifHolding (allowed : CaptureQueue.Operation → Prop) {α : Type}
    {result : Except Error α} {act : Channel δ → Except Fault (Except Error α × Channel δ)}
    (hact : ∀ {outcome channel}, seat.opener.holds = true →
      act seat.channel = .ok (outcome, channel) → seat.channel.Leads allowed channel)
    (h : seat.ifHolding act = .ok (result, seat')) :
    ∃ channel, seat.channel.Leads allowed channel ∧ seat' = { seat with channel } := by
  obtain ⟨-, -, rfl⟩ | ⟨hholds, channel, hchannel, rfl⟩ := ifHolding_cases h
  · exact ⟨_, Channel.leads_refl _, rfl⟩
  · exact ⟨channel, hact hholds hchannel, rfl⟩

/-- Taking a buffer back is carried out on the queue, and nothing else changes. -/
lemma leads_of_dequeue {result : Except Error Frame} (h : seat.dequeue = .ok (result, seat')) :
    ∃ channel, seat.channel.Leads seat.Carries channel ∧ seat' = { seat with channel } :=
  leads_of_ifHolding _ (fun _ hact => Channel.leads_of_perform .dequeue trivial
    (bind_eq_ok.mpr ⟨_, hact, rfl⟩)) h

/-- Buffers are prepared for what the opener wants. -/
lemma leads_of_prepare {index : Nat} {result : Except Error Unit}
    (h : seat.prepare index = .ok (result, seat')) :
    ∃ channel, seat.channel.Leads seat.Carries channel ∧ seat' = { seat with channel } := by
  refine leads_of_ifHolding _ (fun hholds hact => ?_) h
  split at hact
  · obtain ⟨-, rfl⟩ := Prod.mk.inj (pure_eq_ok.mp hact)
    exact Channel.leads_refl _
  · next index _ =>
    exact Channel.leads_of_perform
      (.prepare index seat.opener.geometry seat.chip.norm) ⟨hholds, rfl, rfl⟩
      (bind_eq_ok.mpr ⟨_, hact, rfl⟩)

/-- An opener that takes a format carries nothing out on the queue. -/
lemma progress_of_setFormat {request : FormatRequest} {result : Except Error Geometry}
    (h : seat.setFormat request = .ok (result, seat')) : seat.Progress seat' := by
  obtain ⟨geometry, rfl⟩ := exists_of_setFormat h
  exact ⟨rfl, .inl ⟨rfl, rfl⟩, Channel.leads_refl _⟩

/-- Buffers are requested with room for the format of the opener. -/
lemma progress_of_request {count : Nat} {result : Except Error Nat}
    (h : seat.request count = .ok (result, seat')) : seat.Progress seat' := by
  obtain ⟨_, -, -, rfl⟩ | ⟨seat₁, hclaim, -, ⟨-, -, rfl⟩ | ⟨-, hact⟩⟩ := request_cases h
  · exact progress_channel (Channel.leads_refl _)
  · exact progress_of_claim hclaim (Channel.leads_refl _)
  · have hcarries : seat.Carries
        (.request (seat₁.granted count) (wholePages seat₁.opener.geometry.imageBytes)) := by
      obtain ⟨hholds, rfl⟩ | ⟨-, hfree, rfl⟩ := claim_cases hclaim
      · exact ⟨.inl hholds, rfl⟩
      · exact ⟨.inr hfree, rfl⟩
    obtain ⟨channel, hchannel, rfl⟩ := leads_of_ifHolding seat.Carries (fun _ hact =>
      Channel.leads_of_perform _ hcarries (bind_eq_ok.mpr ⟨_, hact, rfl⟩)) hact
    exact progress_of_claim hclaim hchannel

/-- An opener that hands a buffer in may have to prepare it first. -/
lemma progress_of_enqueue {now : Int} {index : Nat} {result : Except Error Unit}
    (h : seat.enqueue now index = .ok (result, seat')) : seat.Progress seat' := by
  obtain ⟨-, -, rfl⟩ | ⟨-, -, channel, henqueue, rfl⟩ | ⟨-, -, error, hprepare, -⟩ |
    ⟨-, -, seat₁, channel, hprepare, henqueue, rfl⟩ := enqueue_cases h
  · exact progress_channel (Channel.leads_refl _)
  · exact progress_channel (Channel.leads_of_perform (.enqueue now index) trivial
      (bind_eq_ok.mpr ⟨_, henqueue, rfl⟩))
  · obtain ⟨channel, hchannel, rfl⟩ := leads_of_prepare hprepare
    exact progress_channel hchannel
  · obtain ⟨channel₁, hchannel, rfl⟩ := leads_of_prepare hprepare
    exact progress_channel (hchannel.trans (Channel.leads_of_perform
      (.enqueue now index) trivial (bind_eq_ok.mpr ⟨_, henqueue, rfl⟩)))

/-- An opener that waits for a buffer may have the timer run out before it takes one back. -/
lemma progress_of_await {result : Except Error Frame} (h : seat.await = .ok (result, seat')) :
    seat.Progress seat' := by
  obtain ⟨first, seat₁, hdequeue, ⟨-, rfl⟩ | ⟨deadline, stalled, waited, htimeout, hagain⟩⟩ :=
    await_cases h
  · obtain ⟨channel, hchannel, rfl⟩ := leads_of_dequeue hdequeue
    exact progress_channel hchannel
  · obtain ⟨channel, hchannel, rfl⟩ := leads_of_dequeue hdequeue
    obtain ⟨channel', hchannel', rfl⟩ := leads_of_dequeue hagain
    exact progress_channel ((hchannel.trans (Channel.leads_of_perform
      (.timeout deadline) trivial (bind_eq_ok.mpr ⟨_, htimeout, rfl⟩))).trans
        hchannel')

/-- An opener that starts capture may claim the right to it first. -/
lemma progress_of_streamOn {now : Int} {result : Except Error Unit}
    (h : seat.streamOn now = .ok (result, seat')) : seat.Progress seat' := by
  obtain ⟨_, -, -, rfl⟩ | ⟨seat₁, hclaim, hact⟩ := streamOn_cases h
  · exact progress_channel (Channel.leads_refl _)
  · obtain ⟨channel, hchannel, rfl⟩ := leads_of_ifHolding seat.Carries (fun _ hact =>
      Channel.leads_of_perform (.streamOn now) trivial (bind_eq_ok.mpr ⟨_, hact, rfl⟩)) hact
    exact progress_of_claim hclaim hchannel

/-- **What an opener asks for comes down to operations of the queue**, and to the right to capture,
which may be taken if it is free.

**Proof sketch.** One case for each operation. All of them come down to operations of the queue;
only requests and the start of capture take the right first. -/
theorem progress_of_perform {operation : Operation} {answer : Answer}
    (h : seat.perform operation = .ok (answer, seat')) : seat.Progress seat' := by
  cases operation with
  | setFormat request =>
    obtain ⟨result, hformat, -⟩ := exists_result h
    exact progress_of_setFormat hformat
  | request count =>
    obtain ⟨result, hrequest, -⟩ := exists_result h
    exact progress_of_request hrequest
  | prepare index =>
    obtain ⟨result, hprepare, -⟩ := exists_result h
    obtain ⟨channel, hchannel, rfl⟩ := leads_of_prepare hprepare
    exact progress_channel hchannel
  | enqueue now index =>
    obtain ⟨result, henqueue, -⟩ := exists_result h
    exact progress_of_enqueue henqueue
  | dequeue =>
    obtain ⟨result, hdequeue, -⟩ := exists_result h
    obtain ⟨channel, hchannel, rfl⟩ := leads_of_dequeue hdequeue
    exact progress_channel hchannel
  | await =>
    obtain ⟨result, hawait, -⟩ := exists_result h
    exact progress_of_await hawait
  | streamOn now =>
    obtain ⟨result, hon, -⟩ := exists_result h
    exact progress_of_streamOn hon
  | streamOff =>
    obtain ⟨result, hoff, -⟩ := exists_result h
    obtain ⟨channel, hchannel, rfl⟩ := leads_of_ifHolding seat.Carries (fun _ hact =>
      Channel.leads_of_perform .streamOff trivial (bind_eq_ok.mpr ⟨_, hact, rfl⟩)) hoff
    exact progress_channel hchannel

/-- What an opener asks for prepares buffers for what the opener wants only. -/
lemma advance_of_perform {operation : Operation} {answer : Answer}
    (h : seat.perform operation = .ok (answer, seat')) : seat.Advance seat' :=
  (progress_of_perform h).advance

/-- Closing an opener shuts the queue down, if it has the right. -/
lemma leads_of_close (h : seat.close = .ok seat') :
    seat.channel.Leads (· = .shutdown) seat'.channel := by
  obtain ⟨-, channel, hshutdown, rfl⟩ | ⟨-, rfl⟩ := close_cases h
  · exact Channel.leads_of_perform .shutdown rfl (bind_eq_ok.mpr ⟨channel, hshutdown, rfl⟩)
  · exact Channel.leads_refl _

/-- That prepares nothing. -/
lemma follows_of_close (wanted : Geometry → Norm → Prop) (h : seat.close = .ok seat') :
    seat.channel.Follows wanted seat'.channel :=
  (leads_of_close h).follows fun _ hshutdown => hshutdown ▸ trivial

/-! ## The format of an opener -/

omit [DmaBackend δ] in
/-- Taking the right to capture leaves the format. -/
lemma geometry_of_claim (h : seat.claim = .ok seat') :
    seat'.opener.geometry = seat.opener.geometry := by
  obtain ⟨-, rfl⟩ | ⟨-, -, rfl⟩ := claim_cases h <;> rfl

omit [DmaBackend δ] in
/-- So does what is done with the queue. -/
lemma geometry_of_ifHolding {α : Type} {result : Except Error α}
    {act : Channel δ → Except Fault (Except Error α × Channel δ)}
    (h : seat.ifHolding act = .ok (result, seat')) :
    seat'.opener.geometry = seat.opener.geometry := by
  obtain ⟨-, -, rfl⟩ | ⟨-, channel, -, rfl⟩ := ifHolding_cases h <;> rfl

/-- **An opener has its format until it takes another one**, and then nothing is done with the
queue.

**Proof sketch.** One case for each operation: all but setting the format keep the opener, up to the
right that it takes. -/
theorem format_of_perform {operation : Operation} {answer : Answer}
    (h : seat.perform operation = .ok (answer, seat')) :
    seat'.opener.geometry = seat.opener.geometry ∨
      (∃ request, operation = .setFormat request) ∧ seat'.channel = seat.channel := by
  cases operation with
  | setFormat request =>
    obtain ⟨result, hformat, -⟩ := exists_result h
    obtain ⟨geometry, rfl⟩ := exists_of_setFormat hformat
    exact .inr ⟨⟨request, rfl⟩, rfl⟩
  | request count =>
    obtain ⟨result, hrequest, -⟩ := exists_result h
    left
    obtain ⟨_, -, -, rfl⟩ | ⟨seat₁, hclaim, -, ⟨-, -, rfl⟩ | ⟨-, hact⟩⟩ := request_cases hrequest
    · rfl
    · exact geometry_of_claim hclaim
    · exact (geometry_of_ifHolding hact).trans (geometry_of_claim hclaim)
  | prepare index =>
    obtain ⟨result, hprepare, -⟩ := exists_result h
    exact .inl (geometry_of_ifHolding hprepare)
  | enqueue now index =>
    obtain ⟨result, henqueue, -⟩ := exists_result h
    left
    obtain ⟨-, -, rfl⟩ | ⟨-, -, channel, -, rfl⟩ | ⟨-, -, error, hprepare, -⟩ |
      ⟨-, -, seat₁, channel, hprepare, -, rfl⟩ := enqueue_cases henqueue
    · rfl
    · rfl
    · exact geometry_of_ifHolding hprepare
    · have hkept := geometry_of_ifHolding hprepare
      exact hkept
  | dequeue =>
    obtain ⟨result, hdequeue, -⟩ := exists_result h
    exact .inl (geometry_of_ifHolding hdequeue)
  | await =>
    obtain ⟨result, hawait, -⟩ := exists_result h
    left
    obtain ⟨first, seat₁, hdequeue, ⟨-, rfl⟩ | ⟨deadline, stalled, channel, -, hagain⟩⟩ :=
      await_cases hawait
    · exact geometry_of_ifHolding hdequeue
    · have hkept := geometry_of_ifHolding hdequeue
      exact (geometry_of_ifHolding hagain).trans hkept
  | streamOn now =>
    obtain ⟨result, hon, -⟩ := exists_result h
    left
    obtain ⟨_, -, -, rfl⟩ | ⟨seat₁, hclaim, hact⟩ := streamOn_cases hon
    · rfl
    · exact (geometry_of_ifHolding hact).trans (geometry_of_claim hclaim)
  | streamOff =>
    obtain ⟨result, hoff, -⟩ := exists_result h
    exact .inl (geometry_of_ifHolding hoff)

/-! ## Openers without the right -/

/-- Whether an operation hands in a buffer that is prepared already and not handed in yet. -/
def Operation.SlipsIn (q : CaptureQueue) : Operation → Prop
  | .enqueue _ index => q.stateOf index = some .prepared ∧ index ∉ q.stream
  | _ => False

/-- An opener has not got the right to capture while another has it. -/
structure Barred (seat : Seat δ) : Prop where
  /-- The opener has not got the right. -/
  without : seat.opener.holds = false
  /-- The right is not free. -/
  claimed : seat.chip.claimed = true

omit [DmaBackend δ] in
/-- The right cannot be taken. -/
lemma Barred.claim_eq (h : seat.Barred) : seat.claim = .error .busy := by
  simp [claim, h.without, h.claimed]

omit [DmaBackend δ] in
/-- Only an opener for which this is so cannot take it. -/
lemma barred_of_claim {error : Error} (h : seat.claim = .error error) :
    error = .busy ∧ seat.Barred := by
  unfold claim at h
  split at h
  · cases h
  · next hholds =>
    split at h
    · next hclaimed => exact ⟨(Except.error.inj h).symm, by simpa using hholds, hclaimed⟩
    · cases h

omit [DmaBackend δ] in
/-- Any other opener can take it. -/
lemma exists_claim (h : seat.opener.holds = true ∨ seat.chip.claimed = false) :
    ∃ after, seat.claim = .ok after := by
  cases hclaim : seat.claim with
  | ok after => exact ⟨after, rfl⟩
  | error error =>
    obtain ⟨-, hbarred⟩ := barred_of_claim hclaim
    obtain hholds | hfree := h
    · cases hholds.symm.trans hbarred.without
    · cases hfree.symm.trans hbarred.claimed

omit [DmaBackend δ] in
/-- Nothing is done with the queue. -/
lemma Barred.ifHolding_eq (h : seat.Barred) {α : Type}
    (act : Channel δ → Except Fault (Except Error α × Channel δ)) :
    seat.ifHolding act = .ok (.error .busy, seat) := by
  simp only [ifHolding, h.without]
  rfl

/-- A buffer that is not prepared, or handed in already, is refused.

**Proof sketch.** A buffer that does not exist is refused by the handle, one that is in the stream
by the queue, and one that is not prepared when it would have to be. -/
lemma Barred.exists_enqueue (h : seat.Barred) (now : Int) {index : Nat}
    (hready : ¬(seat.channel.stateOf index = some .prepared ∧ index ∉ seat.channel.stream)) :
    ∃ error, seat.enqueue now index = .ok (.error error, seat) := by
  have hprepare : seat.prepare index = .ok (.error .busy, seat) := h.ifHolding_eq _
  unfold enqueue CaptureQueue.handle
  by_cases hlength : index < seat.channel.buffers.length
  · obtain ⟨buffer, hbuffer⟩ : ∃ buffer, seat.channel.buffers[index]? = some buffer :=
      ⟨_, List.getElem?_eq_getElem hlength⟩
    by_cases hprepared : buffer.state = .prepared
    · have hstream : index ∈ seat.channel.stream := by
        refine Decidable.not_not.mp fun hnot => hready ⟨?_, hnot⟩
        rw [CaptureQueue.stateOf_of_getElem? hbuffer, hprepared]
      have henqueue : seat.channel.enqueue now index = .ok (.error .busy, seat.channel) := by
        simp only [Channel.enqueue, hbuffer, hprepared]
        simp [hstream]
        rfl
      refine ⟨.busy, ?_⟩
      simp only [hlength, if_true, CaptureQueue.info?, hbuffer, Option.map_some,
        CaptureBuffer.info, hprepared, Option.any_some, decide_true]
      exact bind_eq_ok.mpr ⟨_, rfl, bind_eq_ok.mpr ⟨_, henqueue, rfl⟩⟩
    · refine ⟨.busy, ?_⟩
      simp only [hlength, if_true, CaptureQueue.info?, hbuffer, Option.map_some,
        CaptureBuffer.info, hprepared, Option.any_some, decide_false, Bool.false_eq_true, if_false]
      exact bind_eq_ok.mpr ⟨_, hprepare, rfl⟩
  · rw [if_neg hlength]
    exact ⟨.invalidArgument, rfl⟩

/-- **An opener without the right is refused**, and everything stays as it is, unless it takes a
format or hands in a prepared buffer.

**Proof sketch.** Everything that needs the right asks for it first. -/
theorem Barred.refused (h : seat.Barred) (operation : Operation)
    (hformat : ∀ request, operation ≠ .setFormat request)
    (hslips : ¬operation.SlipsIn seat.channel.toCaptureQueue) :
    ∃ error, seat.perform operation = .ok (.refused error, seat) := by
  have hdequeue : seat.dequeue = .ok (.error .busy, seat) := h.ifHolding_eq _
  cases operation with
  | setFormat request => exact absurd rfl (hformat request)
  | request count =>
    refine ⟨.busy, bind_eq_ok.mpr ⟨(.error .busy, seat), ?_, rfl⟩⟩
    rw [request, h.claim_eq]
    rfl
  | prepare index => exact ⟨.busy, bind_eq_ok.mpr ⟨_, h.ifHolding_eq _, rfl⟩⟩
  | enqueue now index =>
    obtain ⟨error, henqueue⟩ := h.exists_enqueue now hslips
    exact ⟨error, bind_eq_ok.mpr ⟨_, henqueue, rfl⟩⟩
  | dequeue => exact ⟨.busy, bind_eq_ok.mpr ⟨_, hdequeue, rfl⟩⟩
  | await =>
    refine ⟨.busy, bind_eq_ok.mpr ⟨(.error .busy, seat), ?_, rfl⟩⟩
    exact bind_eq_ok.mpr ⟨_, hdequeue, rfl⟩
  | streamOn now =>
    refine ⟨.busy, bind_eq_ok.mpr ⟨(.error .busy, seat), ?_, rfl⟩⟩
    rw [streamOn, h.claim_eq]
    rfl
  | streamOff => exact ⟨.busy, bind_eq_ok.mpr ⟨_, h.ifHolding_eq _, rfl⟩⟩

/-- A prepared buffer is handed in as it is. -/
lemma enqueue_of_slipsIn {now : Int} {index : Nat}
    (hslips : (Operation.enqueue now index).SlipsIn seat.channel.toCaptureQueue) :
    seat.enqueue now index = do
      let (result, channel) ← seat.channel.enqueue now index
      return (result, { seat with channel }) := by
  obtain ⟨buffer, hbuffer, hstate⟩ := Option.map_eq_some_iff.mp hslips.1
  have hlength : index < seat.channel.buffers.length := (List.getElem?_eq_some_iff.mp hbuffer).1
  simp only [enqueue, CaptureQueue.handle, hlength, if_true, CaptureQueue.info?, hbuffer,
    Option.map_some, CaptureBuffer.info, hstate, Option.any_some, decide_true]
  rfl

/-- **A prepared buffer is handed in by anyone**: it is at the end of the stream then. -/
theorem perform_of_slipsIn {now : Int} {index : Nat} {answer : Answer}
    (hslips : (Operation.enqueue now index).SlipsIn seat.channel.toCaptureQueue)
    (h : seat.perform (.enqueue now index) = .ok (answer, seat')) :
    answer = .done ∧ seat'.channel.stream = seat.channel.stream ++ [index] := by
  obtain ⟨result, henqueue, rfl⟩ := exists_result h
  rw [enqueue_of_slipsIn hslips, Channel.enqueue_of_ready now hslips.1 hslips.2] at henqueue
  obtain ⟨⟨_, channel⟩, hjoined, henqueue⟩ := bind_eq_ok.mp henqueue
  obtain ⟨rfl, rfl⟩ := Prod.mk.inj (pure_eq_ok.mp henqueue)
  split at hjoined
  · obtain ⟨_, hplace, hjoined⟩ := bind_eq_ok.mp hjoined
    obtain ⟨rfl, rfl⟩ := Prod.mk.inj (pure_eq_ok.mp hjoined)
    exact ⟨rfl, (Channel.steady_of_place hplace).stream⟩
  · obtain ⟨rfl, rfl⟩ := Prod.mk.inj (Except.ok.inj hjoined)
    exact ⟨rfl, rfl⟩

/-- While capture is off nothing stands in the way of that. -/
lemma exists_perform_of_slipsIn {now : Int} {index : Nat}
    (hslips : (Operation.enqueue now index).SlipsIn seat.channel.toCaptureQueue)
    (hoff : seat.channel.streaming = false) :
    ∃ seat', seat.perform (.enqueue now index) = .ok (.done, seat') := by
  have hjoined := Channel.enqueue_of_ready now hslips.1 hslips.2
  rw [hoff] at hjoined
  have henqueue := (enqueue_of_slipsIn hslips).trans (congrArg (· >>= _) hjoined)
  exact ⟨_, bind_eq_ok.mpr ⟨(.ok (), _), henqueue, rfl⟩⟩

end Seat

end VideoCapture
