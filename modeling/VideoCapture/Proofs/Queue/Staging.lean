import VideoCapture.Proofs.Queue.Setups

/-!
# Which buffers hold anything

A buffer that needs to be initialised holds nothing, and any other holds a geometry, a norm, its
chunks and a program. Preparing a buffer ends in one of the two ways, whatever fails meanwhile, and
releasing it in the first. Scheduling takes no buffer back to the first stage, and moves only
buffers on that hold a program.

## Main definitions

* `VideoCapture.CaptureBuffer.Staged`, `VideoCapture.CaptureQueue.Staged` — buffers hold nothing
  exactly as long as they need to be initialised.
* `VideoCapture.CaptureQueue.Onward` — what scheduling does to stages.

## Main results

* `VideoCapture.CaptureBuffer.staged_of_prepare` — preparing a buffer, however it ends.
* `VideoCapture.Channel.responding_staged` — no operation breaks this.
* `VideoCapture.Channel.staged_of_reaches` — it holds in every session.
-/

set_option autoImplicit false

namespace VideoCapture

/-! ## Buffers -/

namespace CaptureBuffer

/-- The buffer holds nothing exactly as long as it needs to be initialised. -/
def Staged (buffer : CaptureBuffer) : Prop :=
  buffer.state = .needsInit ↔ buffer.setup = none

/-- An emptied buffer holds nothing and needs to be initialised. -/
lemma staged_emptied (buffer : CaptureBuffer) : buffer.emptied.Staged :=
  ⟨fun _ => rfl, fun _ => rfl⟩

/-- A prepared buffer that holds anything need not be initialised. -/
lemma staged_prepared (buffer : CaptureBuffer) (setup : Setup) :
    Staged { buffer with state := .prepared, setup := some setup } :=
  ⟨nofun, nofun⟩

variable {δ : Type} [DmaBackend δ] {dma dma' : δ} {index : Nat} {chunks : ScatterList}
  {old : Option Program} {geometry : Geometry} {norm : Norm} {mode : LineOffset}
  {buffer buffer' : CaptureBuffer} {result : Except Error Unit}

/-- A buffer that was given a new program holds everything, or nothing if there can be none. -/
lemma Reprogrammed.staged
    (h : buffer.Reprogrammed dma index chunks old geometry norm mode result buffer' dma') :
    buffer'.Staged := by
  cases h with
  | failed _ => exact staged_emptied buffer
  | built _ => exact staged_prepared buffer _

/-- **A buffer that one tried to prepare holds everything or nothing**, as its stage says. -/
theorem staged_of_prepare
    (h : buffer.prepare dma index geometry norm mode = .ok (result, buffer', dma')) :
    buffer'.Staged := by
  obtain ⟨-, hdrain⟩ | ⟨-, _, -, -, rfl⟩ | ⟨-, _, _, -, hnew⟩ | ⟨_, -, -, -, rfl, -⟩ |
    ⟨_, -, hnew⟩ := prepare_cases h
  · unfold drain at hdrain
    split at hdrain <;> obtain ⟨rfl, -⟩ := Prod.mk.inj hdrain <;> exact staged_emptied buffer
  · exact staged_emptied buffer
  · exact hnew.staged
  · exact staged_prepared buffer _
  · exact hnew.staged

end CaptureBuffer

/-! ## Queues -/

namespace CaptureQueue

/-- Each buffer holds nothing exactly as long as it needs to be initialised. -/
def Staged (q : CaptureQueue) : Prop :=
  ∀ buffer ∈ q.buffers, buffer.Staged

/-- What scheduling does to a queue: buffers keep what they hold, and those that change their stage
hold something and are past being prepared afterwards. -/
def Onward (q q' : CaptureQueue) : Prop :=
  q'.fixtures = q.fixtures ∧ ∀ i, q'.stateOf i = q.stateOf i ∨
    (q'.stateOf i ≠ some .needsInit ∧ q'.stateOf i ≠ some .prepared) ∧
      ∃ setup, q.setupOf i = some setup

variable {q q' q'' : CaptureQueue}

/-- A buffer of a staged queue that need not be initialised holds something. -/
lemma Staged.exists_setupOf (hq : q.Staged) {i : Nat} {state : BufferState}
    (hstate : q.stateOf i = some state) (hne : state ≠ .needsInit) :
    ∃ setup, q.setupOf i = some setup := by
  obtain ⟨buffer, hbuffer, rfl⟩ := Option.map_eq_some_iff.mp hstate
  have hsome : buffer.setup ≠ none := fun hnone =>
    hne ((hq buffer (List.mem_of_getElem? hbuffer)).mpr hnone)
  obtain ⟨setup, hsetup⟩ := Option.ne_none_iff_exists'.mp hsome
  exact ⟨setup, (setupOf_of_getElem? hbuffer).trans hsetup⟩

/-- A buffer of a staged queue that needs to be initialised holds nothing. -/
lemma Staged.setupOf_eq_none (hq : q.Staged) {i : Nat} (hstate : q.stateOf i = some .needsInit) :
    q.setupOf i = none := by
  obtain ⟨buffer, hbuffer, hinit⟩ := Option.map_eq_some_iff.mp hstate
  rw [setupOf_of_getElem? hbuffer]
  exact (hq buffer (List.mem_of_getElem? hbuffer)).mp hinit

/-- Buffers that hold nothing are staged if they all need to be initialised. -/
lemma staged_of_forall
    (h : ∀ buffer ∈ q.buffers, buffer.state = .needsInit ∧ buffer.setup = none) : q.Staged :=
  fun buffer hbuffer => ⟨fun _ => (h buffer hbuffer).2, fun _ => (h buffer hbuffer).1⟩

/-- A queue that stays as it is goes onward. -/
lemma Onward.refl (q : CaptureQueue) : q.Onward q :=
  ⟨rfl, fun _ => .inl rfl⟩

/-- One step onward after the other is a step onward. -/
lemma Onward.trans (h : q.Onward q') (h' : q'.Onward q'') : q.Onward q'' := by
  refine ⟨h'.1.trans h.1, fun i => ?_⟩
  obtain hsame | ⟨hstage, hsetup⟩ := h'.2 i
  · rw [hsame]
    exact h.2 i
  · exact .inr ⟨hstage, exists_setupOf_congr h.1.symm hsetup⟩

/-- **Scheduling leaves buffers staged.**

**Proof sketch.** What a buffer holds stays. So it is staged as before if its stage stays as well,
and if its stage changes it holds something and is past being prepared. -/
theorem Staged.onward (hq : q.Staged) (h : q.Onward q') : q'.Staged := by
  intro buffer hbuffer
  obtain ⟨i, hi⟩ := List.mem_iff_getElem?.mp hbuffer
  have hstate := stateOf_of_getElem? hi
  have hsetup := setupOf_of_getElem? hi
  rw [CaptureBuffer.Staged, ← hsetup]
  constructor
  · intro hinit
    obtain hsame | ⟨hstage, -⟩ := h.2 i
    · -- the buffer needed to be initialised before, and held nothing
      have hbefore : q.setupOf i = none :=
        hq.setupOf_eq_none (hsame.symm.trans (hstate.trans (congrArg some hinit)))
      have hkept := setupOf_eq_of_fixtures h.1 i
      rwa [hbefore, Option.map_none, Option.map_eq_none_iff] at hkept
    · exact absurd (hstate.trans (congrArg some hinit)) hstage.1
  · intro hnone
    have hkept := setupOf_eq_of_fixtures h.1 i
    rw [hnone, Option.map_none, eq_comm, Option.map_eq_none_iff] at hkept
    obtain hsame | ⟨-, setup, hbefore⟩ := h.2 i
    · refine Decidable.byContradiction fun hne => ?_
      obtain ⟨setup, hbefore⟩ := hq.exists_setupOf (hsame.symm.trans hstate) hne
      cases hkept.symm.trans hbefore
    · cases hkept.symm.trans hbefore

/-- Stages that do not change do not go back. -/
lemma onward_of_stateOf_eq (hfixtures : q'.fixtures = q.fixtures)
    (h : ∀ i, q'.stateOf i = q.stateOf i) : q.Onward q' :=
  ⟨hfixtures, fun i => .inl (h i)⟩

/-- Neither do those of buffers that hold something and change to another stage than the first
two. -/
lemma onward_of_restage (chain : List Nat) {s : BufferState}
    (hs : s ≠ .needsInit ∧ s ≠ .prepared)
    (hfixtures : q'.fixtures = q.fixtures) (hsetup : ∀ i ∈ chain, ∃ setup, q.setupOf i = some setup)
    (hchain : ∀ i ∈ chain, q'.stateOf i = some s)
    (hothers : ∀ i, i ∉ chain → q'.stateOf i = q.stateOf i) : q.Onward q' := by
  refine ⟨hfixtures, fun i => ?_⟩
  by_cases hmem : i ∈ chain
  · refine .inr ⟨?_, hsetup i hmem⟩
    rw [hchain i hmem]
    exact hs.imp (mt Option.some.inj) (mt Option.some.inj)
  · exact .inl (hothers i hmem)

/-- Neither does that of one such buffer. -/
lemma onward_modify (q : CaptureQueue) (i : Nat) {f : CaptureBuffer → CaptureBuffer}
    {s : BufferState} (hfixture : ∀ buffer, (f buffer).fixture = buffer.fixture)
    (hf : ∀ buffer, (f buffer).state = s) (hs : s ≠ .needsInit ∧ s ≠ .prepared)
    (hsetup : ∃ setup, q.setupOf i = some setup) : q.Onward (q.modify i f) := by
  obtain ⟨setup, hsetup⟩ := hsetup
  obtain ⟨buffer, hbuffer, -⟩ := Option.bind_eq_some_iff.mp hsetup
  have hi : i < q.buffers.length := (List.getElem?_eq_some_iff.mp hbuffer).1
  refine onward_of_restage [i] hs (fixtures_modify q i f hfixture) ?_ ?_ ?_
  · simpa using ⟨setup, hsetup⟩
  · simpa using stateOf_modify_self q i f hi hf
  · intro j hj
    exact stateOf_modify_ne q i j f fun heq => hj (by simp [heq])

/-- Giving a chain up does not take buffers back. -/
lemma Failed.onward {chain : List Nat} (h : q.Failed chain q')
    (hsetup : ∀ i ∈ chain, ∃ setup, q.setupOf i = some setup) : q.Onward q' :=
  onward_of_restage chain (by decide) h.fixtures_eq hsetup (fun _ => h.stateOf_eq)
    fun i hi => congrArg (Option.map CaptureBuffer.state) (h.others i hi)

/-- Retiring the head of the chain does not. -/
lemma onward_of_completeHead {now : Int} (h : q.completeHead now = .ok q') : q.Onward q' := by
  obtain ⟨-, rfl⟩ | ⟨head, rest, setup, -, hsetup, rfl⟩ := completeHead_cases h
  · exact .refl q'
  · exact onward_modify q head (fun _ => rfl) (fun _ => rfl) (by decide) ⟨setup, hsetup⟩

end CaptureQueue

namespace Channel

open CaptureQueue (onward_of_stateOf_eq)

variable {δ : Type} {c c' : Channel δ} {now : Int}

/-! ## Scheduling -/

/-- Starting the engine does not take buffers back, if those of the chain hold a program. -/
lemma onward_of_startHead (h : c.startHead now = .ok c')
    (hchain : ∀ i ∈ c.active, ∃ setup, c.setupOf i = some setup) : c.Onward c'.toCaptureQueue := by
  obtain ⟨-, -, -, -, hstage, hothers⟩ := stages_of_startHead h
  exact CaptureQueue.onward_of_restage c.active (by decide) (sameHoldings_of_startHead h).fixtures
    hchain hstage hothers

/-- Starting what waits takes equipped buffers on. -/
lemma onward_of_restart (h : c.restart now = .ok c') (hc : c.Equipped) :
    c.Onward c'.toCaptureQueue := by
  obtain ⟨-, hstart⟩ | ⟨q, hnil, hpromote, hstart⟩ := restart_cases h
  · exact onward_of_startHead hstart fun i hi => hc i (List.mem_append_left _ hi)
  · obtain ⟨taken, hq⟩ := CaptureQueue.promoted_of_promote hpromote
    have hpromoted : c.Onward q := onward_of_stateOf_eq hq.fixtures hq.states
    have hlists : ∀ i ∈ q.active ++ q.queued, i ∈ c.active ++ c.queued := by
      intro i hi
      rw [hq.rest, hnil, hq.split] at *
      exact hi
    have hequipped : q.Equipped := hc.of_fixtures hq.fixtures hlists
    exact hpromoted.trans
      (onward_of_startHead hstart fun i hi => hequipped i (List.mem_append_left _ hi))

/-- A buffer that finds its place holds a program.

**Proof sketch.** Pointing its tail leaves all stages. Then the buffer becomes one that waits or
runs, and it holds a program. -/
lemma onward_of_place {i : Nat} (h : c.place now i = .ok c') : c.Onward c'.toCaptureQueue := by
  obtain ⟨hsetup, hcase⟩ := place_cases h
  have hpointed : c.Onward (c.pointTail i c.stopper.address) :=
    onward_of_stateOf_eq (CaptureQueue.fixtures_pointTail _ i _)
      fun j => CaptureQueue.stateOf_pointTail _ i j _
  have hheld : ∃ setup, (c.pointTail i c.stopper.address).setupOf i = some setup := by
    obtain ⟨setup, hsetup⟩ := hsetup
    rw [CaptureQueue.setupOf_pointTail, hsetup]
    exact ⟨_, rfl⟩
  dsimp only at hcase
  obtain ⟨-, rfl⟩ | ⟨-, -, -, hstart⟩ | ⟨previous, spliced, -, -, -, -, hsplice, rfl⟩ := hcase
  · exact hpointed.trans
      (CaptureQueue.onward_modify _ i (fun _ => rfl) (fun _ => rfl) (by decide) hheld)
  · have hstarted := onward_of_startHead hstart fun j hj => List.mem_singleton.mp hj ▸ hheld
    exact hpointed.trans hstarted
  · obtain ⟨-, -, target, -, -, rfl⟩ := CaptureQueue.splice_eq_ok.mp hsplice
    have hactive := CaptureQueue.onward_modify (c.pointTail i c.stopper.address) i
      (f := fun buffer => { buffer with state := .active, position := c.count })
      (fun _ => rfl) (fun _ => rfl) (by decide) hheld
    refine hpointed.trans (hactive.trans (onward_of_stateOf_eq ?_ fun j => ?_))
    · exact CaptureQueue.fixtures_pointTail _ _ _
    · exact CaptureQueue.stateOf_pointTail _ _ j _

/-- Buffers that find their places go onward. -/
lemma onward_of_placeAll {ready : List Nat} (h : c.placeAll now ready = .ok c') :
    c.Onward c'.toCaptureQueue :=
  placeAll_keeps (P := fun c' => c.Onward c'.toCaptureQueue)
    (fun _ _ _ hc hplace => hc.trans (onward_of_place hplace)) h (.refl _)

/-! ## Operations -/

/-- A buffer that is handed in goes onward. -/
lemma onward_of_enqueue {i : Nat} {result : Except Error Unit}
    (h : c.enqueue now i = .ok (result, c')) : c.Onward c'.toCaptureQueue := by
  obtain ⟨_, -, rfl⟩ | ⟨-, -, -, ⟨-, hplace⟩ | ⟨-, rfl⟩⟩ := enqueue_cases h
  · exact .refl _
  · have hplaced := onward_of_place hplace
    exact hplaced
  · have hsame : c.Onward c.toCaptureQueue := .refl _
    exact hsame

/-- Starting or resuming capture takes buffers onward. -/
lemma onward_of_streamOn {result : Except Error Unit} (h : c.streamOn now = .ok (result, c'))
    (hc : c.Equipped) : c.Onward c'.toCaptureQueue := by
  obtain ⟨-, -, -, rfl⟩ | ⟨-, -, -, hrestart⟩ | ⟨-, -, hplace⟩ := streamOn_cases h
  · exact .refl _
  · have hrestarted := onward_of_restart hrestart hc
    exact hrestarted
  · have hplaced := onward_of_placeAll hplace
    exact hplaced

/-- A completion takes buffers onward. -/
lemma onward_of_handleCompletion (h : c.handleCompletion now = .ok c') (hc : c.Equipped) :
    c.Onward c'.toCaptureQueue := by
  obtain ⟨-, rfl⟩ | ⟨q, -, hcomplete, hcase⟩ := handleCompletion_cases h
  · exact .refl _
  · have hretired := CaptureQueue.onward_of_completeHead hcomplete
    obtain ⟨-, hpark⟩ | ⟨-, rfl⟩ := hcase
    · obtain ⟨-, -, rfl⟩ | ⟨-, hrestart⟩ := park_cases hpark
      · exact hretired
      · have hequipped := equipped_of_completeHead hcomplete hc
        have hrestarted := onward_of_restart hrestart hequipped
        exact hretired.trans hrestarted
    · exact hretired

/-- Interrupt status takes buffers onward. -/
lemma onward_of_handleStatus {bits : UInt32} {mine : Bool}
    (h : c.handleStatus now bits = .ok (mine, c')) (hc : c.Equipped) :
    c.Onward c'.toCaptureQueue := by
  obtain ⟨-, -, rfl⟩ | ⟨-, -, ⟨-, rfl⟩ | ⟨-, -, hfail⟩ | ⟨-, -, hcompletion⟩⟩ :=
    handleStatus_cases h
  · exact .refl _
  · have hsame : c.Onward c.toCaptureQueue := .refl _
    exact hsame
  · obtain ⟨q, backlog, hq, rfl⟩ := failStop_cases hfail
    have hfailed := hq.onward fun i hi => hc i (List.mem_append_left _ hi)
    exact hfailed
  · have hcompleted := onward_of_handleCompletion hcompletion hc
    exact hcompleted

/-- Recovering from a stall takes buffers onward. -/
lemma onward_of_checkTimeout {stalled : Bool} (h : c.checkTimeout now = .ok (stalled, c'))
    (hc : c.Equipped) : c.Onward c'.toCaptureQueue := by
  obtain ⟨-, rfl, -⟩ | ⟨-, -, rfl⟩ | ⟨-, -, q, hq, hrestart⟩ := checkTimeout_cases h
  · exact .refl _
  · have hsame : c.Onward c.toCaptureQueue := .refl _
    exact hsame
  · have hfailed := hq.onward fun i hi => hc i (List.mem_append_left _ hi)
    have hequipped : q.Equipped := hc.of_failed hq rfl rfl rfl
    have hrestarted := onward_of_restart hrestart hequipped
    exact hfailed.trans hrestarted

section Operations

variable [DmaBackend δ]

/-- New buffers need to be initialised and hold nothing. -/
lemma staged_of_requestBuffers {count capacity : Nat} {result : Except Error Nat}
    (h : c.requestBuffers count capacity = .ok (result, c')) (hc : c.Staged) : c'.Staged := by
  obtain ⟨-, -, rfl⟩ | ⟨-, _, _, -, -, rfl⟩ := requestBuffers_cases h
  · exact hc
  · refine CaptureQueue.staged_of_forall fun buffer hbuffer => ?_
    rw [(List.mem_replicate.mp hbuffer).2]
    exact ⟨rfl, rfl⟩

/-- Stopping capture takes nothing from buffers, and leaves none of them to be initialised. -/
lemma staged_of_streamOff {result : Except Error Unit} (h : c.streamOff = .ok (result, c'))
    (hc : c.Staged) : c'.Staged := by
  obtain ⟨-, -, rfl⟩ | ⟨-, -, buffers, _, hrelease, rfl⟩ := streamOff_cases h
  · exact hc
  · obtain ⟨rfl, -⟩ := released_of_releaseAll hrelease
    refine CaptureQueue.staged_of_forall fun buffer hbuffer => ?_
    obtain ⟨_, -, rfl⟩ := List.mem_map.mp hbuffer
    exact ⟨rfl, rfl⟩

/-- A buffer is prepared with something to hold, or is left with nothing. -/
lemma staged_of_prepare {i : Nat} {geometry : Geometry} {norm : Norm}
    {result : Except Error Unit} (h : c.prepare i geometry norm = .ok (result, c'))
    (hc : c.Staged) : c'.Staged := by
  obtain ⟨_, -, rfl⟩ | ⟨buffer, buffer', dma, -, -, -, hprepare, rfl⟩ := prepare_cases h
  · exact hc
  · intro b hb
    obtain hb | rfl := List.mem_or_eq_of_mem_set hb
    · exact hc b hb
    · exact CaptureBuffer.staged_of_prepare hprepare

/-- **No operation leaves a buffer with a part of what it may hold.** -/
theorem responding_staged : Responding fun _ _ (c c' : Channel δ) =>
    c.Equipped → c.Staged → c'.Staged where
  request h _ hc := staged_of_requestBuffers h hc
  prepare h _ hc := staged_of_prepare h hc
  enqueue h _ hc := hc.onward (onward_of_enqueue h)
  dequeue h _ hc := by
    obtain ⟨_, -, rfl⟩ | ⟨_, _, _, _, -, -, -, -, -, rfl⟩ := dequeue_cases h <;> exact hc
  streamOn h hequipped hc := hc.onward (onward_of_streamOn h hequipped)
  streamOff h _ hc := staged_of_streamOff h hc
  status h hequipped hc := hc.onward (onward_of_handleStatus h hequipped)
  timeout h hequipped hc := hc.onward (onward_of_checkTimeout h hequipped)
  maskAll _ hc := hc
  report _ _ _ hc := hc
  shutdown h _ hc := by
    obtain ⟨c₁, ⟨-, rfl⟩ | ⟨-, _, hoff⟩, _, hrequest⟩ := shutdown_cases h
    · exact staged_of_requestBuffers hrequest hc
    · exact staged_of_requestBuffers hrequest (staged_of_streamOff hoff hc)

/-- **In every session a buffer holds nothing exactly as long as it needs to be initialised.**

**Proof sketch.** Induction on the session. What runs or waits holds a program, so scheduling moves
only buffers on that hold one. -/
theorem staged_of_reaches {regs : RegisterFile} {dma dma' : δ} {config : Config} {c₀ : Channel δ}
    (hcreate : create regs dma config = (.ok c₀, dma')) (h : c₀.Reaches c) : c.Staged := by
  induction h with
  | refl =>
    obtain ⟨stopper, -, rfl⟩ := create_eq_ok hcreate
    exact CaptureQueue.staged_of_forall nofun
  | perform hbefore hperform ih =>
    exact responding_staged.of_perform hperform (equipped_of_reaches hcreate hbefore) ih
  | change _ _ ih => exact ih

end Operations

end Channel

end VideoCapture
