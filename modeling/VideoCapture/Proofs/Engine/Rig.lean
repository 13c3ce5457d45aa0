import VideoCapture.Proofs.Engine.Location
import VideoCapture.Proofs.Engine.PowerOn

/-!
# The driver and the engine side by side

A rig is a capture queue together with the engine that executes its programs. The two take turns:
users, the interrupt handler and the timer carry out operations, each as a whole, and the engine
leaves the program it is in by the jump at the tail, in whatever order.

The engine knows nothing of the queue. If it is enabled at an address where the queue has no
program, or the tail of that program is no jump, it strays: then it may be anywhere, and nothing is
known of what it runs. The rig never gets there.

## Main definitions

* `VideoCapture.Rig` — a queue and where its engine is.
* `VideoCapture.Rig.Step`, `VideoCapture.Rig.Reaches` — what can happen next, and in the long run.
* `VideoCapture.Rig.Safe` — the engine executes what is in flight, and done means executed.

## Main results

* `VideoCapture.Rig.tracked_of_step` — no step loses the engine.
* `VideoCapture.Rig.safe_of_reaches` — every reachable rig is safe.
-/

set_option autoImplicit false

namespace VideoCapture

open CaptureQueue (Operation Answer)

namespace Channel

variable {δ : Type} [DmaBackend δ] [LawfulDmaBackend δ] {others : List BusRange} {c : Channel δ}
  {s : Sequencer} {passed ahead : List Nat}

/-- The engine is in a program that is in flight. -/
lemma Sound.program_of_passed (hc : c.Sound others) (h : c.Passed s passed ahead) :
    ∃ program, c.programAt s.position = some program ∧
      (program = c.stopper ∨ ∃ i setup, i ∈ c.active ∧ c.setupOf i = some setup ∧
        setup.program = program) := by
  obtain ⟨i, rest, hahead, haddress⟩ | ⟨-, hparked⟩ := h.position
  · obtain ⟨setup, hsetup, hposition⟩ := Option.map_eq_some_iff.mp haddress
    have hmem : i ∈ c.active := by
      rw [h.active, hahead]
      exact List.mem_append_right _ List.mem_cons_self
    rw [← hposition]
    exact ⟨setup.program, hc.stocked.find?_setup hsetup, .inr ⟨i, setup, hmem, hsetup, rfl⟩⟩
  · rw [hparked]
    exact ⟨c.stopper, hc.stocked.find?_eq List.mem_cons_self, .inl rfl⟩

/-- **The engine never leaves the chain.** Where it gets by the tail of the program it is in, it has
passed the buffer of that program, if it was in one, and otherwise it is in the stopper still.

**Proof sketch.** In the program of a buffer of the chain the tail points to the next buffer, or to
the stopper if it is the last. The stopper points to itself. -/
theorem Sound.passed_of_follow (hc : c.Sound others) (h : c.Passed s passed ahead) :
    ∃ next, c.follow s.position = some next ∧ ∀ ran, (∀ i ∈ passed, i ∈ ran) →
      (∀ i, c.addressOf i = some s.position → i ∈ ran) →
      ∃ passed' ahead', c.Passed { s with position := next, ran } passed' ahead' := by
  have hlinked := hc.chained.linked
  have hfind : ∀ j setup, c.setupOf j = some setup →
      c.programAt setup.program.address = some setup.program := fun _ _ => hc.stocked.find?_setup
  obtain ⟨i, rest, rfl, haddress⟩ | ⟨hne, hparked⟩ := h.position
  · have hgrown : c.active = (passed ++ [i]) ++ rest := by
      rw [h.active, List.append_assoc]
      rfl
    have hrun : ∀ ran : List Nat, (∀ j ∈ passed, j ∈ ran) →
        (∀ j, c.addressOf j = some s.position → j ∈ ran) → ∀ j ∈ passed ++ [i], j ∈ ran := by
      intro ran hran hhere j hj
      obtain hj | hj := List.mem_append.mp hj
      · exact hran j hj
      · obtain rfl := List.mem_singleton.mp hj
        exact hhere j haddress
    cases rest with
    | nil =>
      have hends : c.Ends i := hlinked.last i (by rw [h.active]; simp)
      refine ⟨c.stopper.address, CaptureQueue.follow_of_tailOf hfind haddress hends,
        fun ran hran hhere => ⟨passed ++ [i], [], hgrown, hrun ran hran hhere, .inr ⟨?_, rfl⟩⟩⟩
      simp
    | cons j rest =>
      have hpoints : c.Points i j := by
        have hchain := hlinked.points
        rw [h.active] at hchain
        exact (List.isChain_cons_cons.mp hchain.right_of_append).1
      obtain ⟨next, hnext, htail⟩ := hpoints
      exact ⟨next, CaptureQueue.follow_of_tailOf hfind haddress htail,
        fun ran hran hhere => ⟨passed ++ [i], j :: rest, hgrown, hrun ran hran hhere,
          .inl ⟨j, rest, rfl, hnext⟩⟩⟩
  · rw [hparked]
    exact ⟨c.stopper.address, hc.stocked.follow_stopper, fun ran hran _ =>
      ⟨passed, ahead, h.active, hran, .inr ⟨hne, rfl⟩⟩⟩

end Channel

/-- A capture queue and the engine that executes its programs. -/
structure Rig (δ : Type) where
  /-- The queue, in its surroundings. -/
  channel : Channel δ
  /-- The address at which the program begins that the engine is in. -/
  position : UInt32
  /-- The buffers whose programs the engine has run through their tails, since it was enabled or, if
  that was later, since they joined the chain. -/
  ran : List Nat

namespace Rig

variable {δ : Type}

/-- Whether the engine is enabled. -/
def running (r : Rig δ) : Bool :=
  Engine.running r.channel.regs

/-- The engine as an operation finds it. Of what it has run only the chain counts, so that a buffer
that joins the chain has not been run. -/
def sequencer (r : Rig δ) : Sequencer where
  enabled := r.running
  start := r.channel.regs.read32 Register.programStart
  position := r.position
  ran := r.ran.filter fun i => r.channel.active.contains i

/-- The rig after an operation that led to the given channel: the engine has done what the registers
were told. -/
def after (r : Rig δ) (c : Channel δ) : Rig δ :=
  let s := r.sequencer.watch c.regs
  { channel := c, position := s.position, ran := s.ran }

/-- The buffers whose programs begin where the engine is. -/
def here (r : Rig δ) : List Nat :=
  (List.range r.channel.buffers.length).filter fun i => r.channel.addressOf i = some r.position

/-- The rig after the engine has left the program it is in by a jump, which latches an interrupt if
it carries one. -/
def leave (r : Rig δ) (jump : Instruction) : Rig δ where
  channel := { r.channel with
    regs := if jump.irq then r.channel.regs.raise Status.program else r.channel.regs }
  position := jump.address
  ran := r.ran ++ r.here

variable [DmaBackend δ]

/-- What can happen next. -/
inductive Step (r : Rig δ) : Rig δ → Prop where
  /-- Registers change, but not the bit that enables the engine. -/
  | drift {regs : RegisterFile} : Engine.running regs = r.running →
      Step r { r with channel := { r.channel with regs } }
  /-- An operation is carried out, while the engine fetches from the program it is in. The writes
  of the operation are looked at apart from those before. -/
  | operate {operation : Operation} {answer : Answer} {c : Channel δ} :
      r.channel.Fetches r.position →
      Channel.perform { r.channel with regs := r.channel.regs.forget } operation = .ok (answer, c) →
      Step r (r.after c)
  /-- The engine leaves the program it is in by the jump at the tail. -/
  | leave {program : Program} {jump : Instruction} : r.running = true →
      r.channel.programAt r.position = some program → program.tailInstruction = some jump →
      jump.opcode = .jump → Step r (r.leave jump)
  /-- The engine is nowhere, or cannot get on. -/
  | stray {position : UInt32} {ran : List Nat} : r.running = true →
      r.channel.follow r.position = none → Step r { r with position, ran }

/-- What can happen in the long run. -/
inductive Reaches (r : Rig δ) : Rig δ → Prop where
  /-- Nothing happens. -/
  | refl : Reaches r r
  /-- One thing more happens. -/
  | step {r₁ r₂ : Rig δ} : Reaches r r₁ → r₁.Step r₂ → Reaches r r₂

/-- The engine executes what is in flight, and done means executed. -/
structure Safe (r : Rig δ) : Prop where
  /-- While the engine is enabled it is in a program that the queue holds: the stopper, or the
  program of a buffer in the chain, which is active and not handed back. -/
  executes : r.running = true → ∃ program, r.channel.programAt r.position = some program ∧
    (program = r.channel.stopper ∨ ∃ i setup, i ∈ r.channel.active ∧ i ∈ r.channel.stream ∧
      r.channel.stateOf i = some .active ∧ r.channel.setupOf i = some setup ∧
      setup.program = program)
  /-- A buffer becomes done only if it is in the chain and the engine has run its program through
  the tail since it was enabled, and since the buffer joined the chain. -/
  completes : ∀ r' i, r.Step r' → r'.channel.stateOf i = some .done →
    r.channel.stateOf i ≠ some .done → i ∈ r.channel.active ∧ i ∈ r.ran

/-! ## No step loses the engine -/

/-- What is known about a rig between two steps. -/
structure Tracked [LawfulDmaBackend δ] (others : List BusRange) (r : Rig δ) : Prop where
  /-- The queue is sound. -/
  sound : r.channel.Sound others
  /-- The engine is in its chain. -/
  located : r.channel.Located r.sequencer

omit [DmaBackend δ] in
/-- Where the engine is may be told by another record of it, if that claims no more to have been
run. -/
lemma located_sequencer {r : Rig δ} {s : Sequencer} (h : r.channel.Located s)
    (hposition : s.position = r.position) (hran : ∀ i ∈ s.ran, i ∈ r.ran) :
    r.channel.Located r.sequencer where
  enabled := rfl
  idle hoff := h.idle (h.enabled.trans hoff)
  inside hon := by
    obtain ⟨passed, ahead, hpassed⟩ := h.inside (h.enabled.trans hon)
    refine ⟨passed, ahead, hpassed.active, fun i hi => List.mem_filter.mpr ⟨?_, ?_⟩, ?_⟩
    · exact hran i (hpassed.ran i hi)
    · simp [hpassed.active, hi]
    · have hwhere := hpassed.position
      rwa [hposition] at hwhere

omit [DmaBackend δ] in
/-- The buffers whose programs begin where the engine is are those. -/
lemma mem_here {r : Rig δ} {i : Nat} (h : r.channel.addressOf i = some r.position) :
    i ∈ r.here := by
  obtain ⟨setup, hsetup, -⟩ := Option.map_eq_some_iff.mp h
  obtain ⟨buffer, hbuffer, -⟩ := Option.bind_eq_some_iff.mp hsetup
  refine List.mem_filter.mpr ⟨List.mem_range.mpr (List.getElem?_eq_some_iff.mp hbuffer).1, ?_⟩
  exact decide_eq_true h

variable [LawfulDmaBackend δ] {others : List BusRange} {r r' : Rig δ}

/-- An operation does not lose the engine. -/
lemma tracked_of_operate {operation : Operation} {answer : Answer} {c : Channel δ}
    (hr : r.Tracked others) (hfetches : r.channel.Fetches r.position)
    (h : Channel.perform { r.channel with regs := r.channel.regs.forget } operation =
      .ok (answer, c)) : (r.after c).Tracked others := by
  have hsound := hr.sound.change r.channel.regs.forget
  have hlocated : Channel.Located { r.channel with regs := r.channel.regs.forget } r.sequencer :=
    hr.located.congr rfl (fun _ _ => rfl) rfl rfl
  -- the registers remember no writes, so the engine is where it was
  have hafter := (Channel.relating_located r.sequencer).of_perform h hsound hfetches hlocated
  exact ⟨Channel.keeping_sound.relating.of_perform h hsound,
    located_sequencer (r := r.after c) hafter rfl fun _ => id⟩

/-- The engine does not get lost by itself.

**Proof sketch.** The jump goes where the tail points, so the engine stays in the chain and has
passed the buffer that it was in. What it has run is kept up to those that are still in the chain.
-/
lemma tracked_of_leave {program : Program} {jump : Instruction} (hr : r.Tracked others)
    (hrunning : r.running = true) (hprogram : r.channel.programAt r.position = some program)
    (htail : program.tailInstruction = some jump) (hjump : jump.opcode = .jump) :
    (r.leave jump).Tracked others := by
  refine ⟨hr.sound.change _, ?_⟩
  have hregs : Engine.running (r.leave jump).channel.regs = Engine.running r.channel.regs := by
    show Engine.running (if jump.irq then _ else _) = _
    split
    · exact Engine.running_setSlot_ne (by decide) _
    · rfl
  obtain ⟨passed, ahead, hpassed⟩ := hr.located.inside hrunning
  obtain ⟨next, hfollow, hmove⟩ := hr.sound.passed_of_follow hpassed
  have hnext : next = jump.address := by
    simp only [CaptureQueue.follow, show r.sequencer.position = r.position from rfl, hprogram,
      htail, Option.bind_eq_bind, Option.bind_some, hjump, if_true, Option.some.injEq] at hfollow
    exact hfollow.symm
  obtain ⟨passed', ahead', hpassed'⟩ := hmove (r.ran ++ r.here)
    (fun i hi => List.mem_append_left _ (List.mem_filter.mp (hpassed.ran i hi)).1)
    fun i hi => List.mem_append_right _ (mem_here hi)
  rw [hnext] at hpassed'
  have hleft : (r.leave jump).channel.Located
      { r.sequencer with position := jump.address, ran := r.ran ++ r.here } :=
    ⟨hregs.symm, fun hoff => hr.located.idle hoff, fun _ => ⟨passed', ahead', hpassed'⟩⟩
  exact located_sequencer hleft rfl fun _ => id

/-- **No step loses the engine.** -/
theorem tracked_of_step (hr : r.Tracked others) (h : r.Step r') : r'.Tracked others := by
  cases h with
  | drift hregs =>
    refine ⟨hr.sound.change _, located_sequencer (hr.located.congr rfl (fun _ _ => rfl) rfl hregs)
      rfl fun i hi => ?_⟩
    exact (List.mem_filter.mp hi).1
  | operate hfetches hperform => exact tracked_of_operate hr hfetches hperform
  | leave hrunning hprogram htail hjump => exact tracked_of_leave hr hrunning hprogram htail hjump
  | stray hrunning hlost =>
    -- from where the engine is one always gets on
    obtain ⟨passed, ahead, hpassed⟩ := hr.located.inside hrunning
    obtain ⟨next, hfollow, -⟩ := hr.sound.passed_of_follow hpassed
    cases hfollow.symm.trans hlost

/-- A queue whose engine is disabled has not lost it. -/
lemma tracked_of_create {regs : RegisterFile} {dma dma' : δ} {config : Config} {c : Channel δ}
    (hdma : LawfulDmaBackend.Holds dma others)
    (hcreate : Channel.create regs dma config = (.ok c, dma')) (hoff : Engine.running regs = false)
    (position : UInt32) (ran : List Nat) : Tracked others { channel := c, position, ran } := by
  refine ⟨Channel.sound_of_create hdma hcreate, ?_⟩
  obtain ⟨stopper, -, rfl⟩ := Channel.create_eq_ok hcreate
  exact Channel.Idle.located ⟨hoff, hoff⟩ rfl

/-- The engine of every reachable rig is in the chain.

**Proof sketch.** On the length of the run, with `tracked_of_step`. -/
lemma tracked_of_reaches (hr : r.Tracked others) (h : r.Reaches r') : r'.Tracked others := by
  induction h with
  | refl => exact hr
  | step _ hstep ih => exact tracked_of_step ih hstep

/-- A rig whose engine is in the chain is safe.

**Proof sketch.** While the engine runs it is in a program of the chain or in the stopper. Only
operations complete buffers, and a buffer completes only at the head of the chain with the engine
outside its program, hence when it has been passed. -/
theorem Tracked.safe (hr : r.Tracked others) : r.Safe where
  executes hrunning := by
    obtain ⟨passed, ahead, hpassed⟩ := hr.located.inside hrunning
    obtain ⟨program, hfind, hcase⟩ := hr.sound.program_of_passed hpassed
    refine ⟨program, hfind, ?_⟩
    obtain hstopper | ⟨i, setup, hi, hsetup, hprogram⟩ := hcase
    · exact .inl hstopper
    · exact .inr ⟨i, setup, hi, hr.sound.settled.mem_stream (.inl hi),
        hr.sound.settled.stateOf_eq hi, hsetup, hprogram⟩
  completes r' i hstep hdone hbefore := by
    cases hstep with
    | drift | leave | stray => exact absurd hdone hbefore
    | operate hfetches hperform =>
      have hlocated :
          Channel.Located { r.channel with regs := r.channel.regs.forget } r.sequencer :=
        hr.located.congr rfl (fun _ _ => rfl) rfl rfl
      obtain hsame | hmay := Channel.relating_done.of_perform hperform i hdone
      · exact absurd hsame hbefore
      · have hran := hlocated.mem_ran (hr.sound.change _).stocked hfetches hmay
        obtain ⟨hran, hactive⟩ := List.mem_filter.mp hran
        exact ⟨by simpa using hactive, hran⟩

/-- **Every reachable rig is safe**: in whatever order users, interrupts and the timer take turns
with the engine, the engine executes only what is in flight, and a buffer becomes done only after
the engine has run its program through. -/
theorem safe_of_reaches {regs : RegisterFile} {dma dma' : δ} {config : Config} {c₀ : Channel δ}
    (hdma : LawfulDmaBackend.Holds dma others)
    (hcreate : Channel.create regs dma config = (.ok c₀, dma'))
    (hoff : Engine.running regs = false) {position : UInt32} {ran : List Nat}
    (h : Reaches { channel := c₀, position, ran } r) : r.Safe :=
  (tracked_of_reaches (tracked_of_create hdma hcreate hoff position ran) h).safe

/-! ## Rigs without hardware -/

/-- What is made to happen in a rig without hardware. -/
inductive Action where
  /-- The engine fetches the first instruction of its program. -/
  | fetch
  /-- An operation is carried out. -/
  | operate (operation : Operation)
  /-- The engine leaves its program. -/
  | leave

/-- The rig after an action, if it can happen. -/
def act (r : Rig HostDma) : Action → Option (Rig HostDma)
  | .fetch =>
    let regs := r.channel.regs.setSlot (Register.programPointer / 4) r.position
    some { r with channel := { r.channel with regs } }
  | .operate operation =>
    let pointer := r.channel.regs.read32 Register.programPointer
    let regs := r.channel.regs.forget
    if r.running → (r.channel.programAt r.position).all (·.contains pointer) then
      match Channel.perform { r.channel with regs } operation with
      | .ok (_, c) => some (r.after c)
      | .error _ => none
    else none
  | .leave => do
    let program ← r.channel.programAt r.position
    let jump ← program.tailInstruction
    if r.running ∧ jump.opcode = .jump then some (r.leave jump) else none

/-- An action is a step. -/
lemma step_of_act {r r' : Rig HostDma} {action : Action} (h : r.act action = some r') :
    r.Step r' := by
  cases action with
  | fetch =>
    obtain rfl := Option.some.inj h
    exact .drift (Engine.running_setSlot_ne (by decide) _)
  | operate operation =>
    simp only [act] at h
    split at h
    · next hfetches =>
      split at h
      · next c hperform =>
        obtain rfl := Option.some.inj h
        refine .operate (fun hrunning program hprogram => ?_) hperform
        have hall := hfetches hrunning
        rw [hprogram] at hall
        exact hall
      · cases h
    · cases h
  | leave =>
    simp only [act, Option.bind_eq_bind, Option.bind_eq_some_iff] at h
    obtain ⟨program, hprogram, jump, htail, h⟩ := h
    split at h
    · next hjump =>
      obtain rfl := Option.some.inj h
      exact .leave hjump.1 hprogram htail hjump.2
    · cases h

/-- What is seen of the rig that actions lead to. -/
def actAll (r : Rig HostDma) : List Action → Option (Rig HostDma)
  | [] => some r
  | action :: rest => (r.act action).bind fun r => r.actAll rest

/-- Actions lead where steps lead.

**Proof sketch.** Along the actions, each of which is a step (`step_of_act`). -/
lemma reaches_of_actAll {r r₁ r' : Rig HostDma} {actions : List Action} (hr : r.Reaches r₁)
    (h : r₁.actAll actions = some r') : r.Reaches r' := by
  induction actions generalizing r₁ with
  | nil =>
    obtain rfl := Option.some.inj h
    exact hr
  | cons action rest ih =>
    obtain ⟨r₂, hact, hrest⟩ := Option.bind_eq_some_iff.mp h
    exact ih (hr.step (step_of_act hact)) hrest

/-- The registers of a chip that has just been brought up. -/
def poweredOn : RegisterFile :=
  (Chip.bringUp 0 { bus := 0, slot := 0, vendor := 0, device := 0 } 0 {} {}).2

/-- The rig of a new queue on such a chip. -/
def hosted : Option (Rig HostDma) := do
  let c ← (Channel.create poweredOn HostDma.create {}).1.toOption
  return { channel := c, position := 0, ran := [] }

/-- Two buffers are captured in a row, and a single interrupt reports both: the first is done, and
the second is captured anew. -/
def coalescedActions : List Action :=
  let geometry : Geometry := { width := 48, height := 32, format := .initial, field := .bottom }
  [.operate (.request 2 8192), .operate (.prepare 0 geometry .initial),
    .operate (.prepare 1 geometry .initial), .operate (.enqueue 0 0), .operate (.enqueue 0 1),
    .operate (.streamOn 0), .leave, .leave, .fetch, .operate (.status 1 Status.program), .leave,
    .fetch]

/-- After both have been reported by one interrupt, the second is done only once the engine has run
it again. -/
theorem safe_of_reaches_coalesced :
    LawfulDmaBackend.Holds HostDma.create [] ∧ Engine.running poweredOn = false ∧
    ∃ c₀ dma r r', Channel.create poweredOn HostDma.create {} = (.ok c₀, dma) ∧
      Reaches { channel := c₀, position := 0, ran := [] } r ∧ r.Step r' ∧
      (r.running, r.ran, r.channel.stateOf 1, r'.channel.stateOf 1) =
        (true, [1], some .active, some .done) ∧ r.Safe := by
  have hdma : LawfulDmaBackend.Holds HostDma.create [] := HostDma.accounts_create (by decide)
  have hoff : Engine.running poweredOn = false := (Chip.poweredOn_bringUp _ _ _ _ _).running
  have hrun : ((hosted.bind (actAll · coalescedActions)).bind fun r =>
      (r.act (.operate (.status 2 Status.program))).map fun r' =>
        (r.running, r.ran, r.channel.stateOf 1, r'.channel.stateOf 1)) =
      some (true, [1], some .active, some .done) := by decide +kernel
  obtain ⟨r, hreach, h⟩ := Option.bind_eq_some_iff.mp hrun
  obtain ⟨r', hlast, hview⟩ := Option.map_eq_some_iff.mp h
  obtain ⟨r₀, hhosted, hactions⟩ := Option.bind_eq_some_iff.mp hreach
  simp only [hosted, Option.bind_eq_bind, Option.bind_eq_some_iff, Option.pure_def,
    Option.some.injEq] at hhosted
  obtain ⟨c₀, hcreate, rfl⟩ := hhosted
  have hcreated : Channel.create poweredOn HostDma.create {} =
      (.ok c₀, (Channel.create poweredOn HostDma.create {}).2) :=
    Prod.ext (toOption_eq_some.mp hcreate) rfl
  have hreaches := reaches_of_actAll .refl hactions
  exact ⟨hdma, hoff, c₀, _, r, r', hcreated, hreaches, step_of_act hlast, hview,
    safe_of_reaches hdma hcreated hoff hreaches⟩

end Rig

end VideoCapture
