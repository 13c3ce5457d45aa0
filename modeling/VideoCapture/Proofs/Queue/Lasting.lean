import VideoCapture.Proofs.Queue.Confinement
import VideoCapture.Proofs.Queue.Settings

/-!
# What lasts while buffers are used

What a buffer holds comes about when a program is built for it. Afterwards nothing of it changes but
where the tail of the program points and which norm goes with it, until the buffer is prepared anew
or gives everything back; and whether lines report their offset is settled when a queue is created.
So if something is true of whatever a built program is held with, and neither tail nor norm matter
to it, then it is true of all buffers in every session.

## Main definitions

* `VideoCapture.Setup.Lasting` — something lasts from the time that a program was built.
* `VideoCapture.CaptureBuffer.All`, `VideoCapture.CaptureQueue.All` — it is true of what a buffer
  holds, or all buffers of a queue.

## Main results

* `VideoCapture.CaptureBuffer.all_of_prepare` — preparing a buffer keeps what lasts.
* `VideoCapture.Channel.keeping_all` — so does every operation.
-/

set_option autoImplicit false

namespace VideoCapture

variable {δ : Type}

/-- Something that can be true of what buffers of a given capacity hold in a queue whose lines
report their offset or not. -/
abbrev Setup.Trait : Type :=
  (capacity : Nat) → LineOffset → Setup → Prop

/-- Chunks come from a mapping of a given capacity, or they were held before with something true of
what was held. -/
def Setup.Trait.Grants (P : Setup.Trait) (δ : Type) [DmaBackend δ] (capacity : Nat)
    (mode : LineOffset) (chunks : ScatterList) : Prop :=
  (∃ (dma dma' : δ) (index : Nat), DmaBackend.map dma index capacity = (.ok chunks, dma')) ∨
    ∃ setup : Setup, P capacity mode setup ∧ setup.chunks = chunks

/-- Something lasts: it is true of every program with the chunks that it was built for, and neither
the tail of the program nor the norm matters. -/
structure Setup.Lasting (δ : Type) [DmaBackend δ] (P : Setup.Trait) : Prop where
  /-- Where the tail points does not matter. -/
  untied : ∀ {capacity : Nat} {mode : LineOffset} {setup : Setup},
    P capacity mode setup.untied ↔ P capacity mode setup
  /-- Neither does the norm. -/
  norm : ∀ {capacity : Nat} {mode : LineOffset} {setup : Setup} (norm : Norm),
    P capacity mode setup → P capacity mode { setup with norm }
  /-- It is true once a program has been built. -/
  built : ∀ {capacity : Nat} {mode : LineOffset} {geometry : Geometry} {norm : Norm}
    {chunks : ScatterList} {program : Program} {dma dma' : δ}, P.Grants δ capacity mode chunks →
    CaptureBuffer.buildProgram dma chunks geometry mode = .ok (.ok program, dma') →
    P capacity mode { geometry, norm, chunks, program }

/-! ## Buffers -/

namespace CaptureBuffer

variable {P : Setup.Trait} {mode : LineOffset} {buffer buffer' : CaptureBuffer}

/-- Something is true of what a buffer holds, if it holds anything. -/
def All (P : Setup.Trait) (mode : LineOffset) (buffer : CaptureBuffer) : Prop :=
  ∀ setup, buffer.setup = some setup → P buffer.capacity mode setup

/-- A buffer may hold nothing. -/
lemma all_of_none (h : buffer.setup = none) : buffer.All P mode := by
  intro setup hsetup
  cases h.symm.trans hsetup

/-- A buffer keeps its capacity when it is drained. -/
lemma capacity_of_drain [DmaBackend δ] {dma dma' : δ} {index : Nat}
    (h : buffer.drain dma index = (buffer', dma')) : buffer'.capacity = buffer.capacity := by
  unfold drain at h
  split at h <;> obtain ⟨rfl, -⟩ := Prod.mk.inj h <;> rfl

section Preparing

variable [DmaBackend δ] {dma dma' : δ} {index : Nat} {g : Geometry} {n : Norm}
  {result : Except Error Unit} {chunks : ScatterList} {old : Option Program}

/-- It keeps it when it is given a new program. -/
lemma Reprogrammed.capacity_eq
    (h : buffer.Reprogrammed dma index chunks old g n mode result buffer' dma') :
    buffer'.capacity = buffer.capacity := by
  cases h <;> rfl

/-- It keeps it when it is prepared. -/
lemma capacity_of_prepare (h : buffer.prepare dma index g n mode = .ok (result, buffer', dma')) :
    buffer'.capacity = buffer.capacity := by
  obtain ⟨-, hdrain⟩ | ⟨-, _, -, -, rfl⟩ | ⟨-, _, _, -, hnew⟩ | ⟨_, -, -, -, rfl, -⟩ |
    ⟨_, -, hnew⟩ := prepare_cases h
  · exact capacity_of_drain hdrain
  · rfl
  · exact hnew.capacity_eq
  · rfl
  · exact hnew.capacity_eq

/-- A new program makes true what lasts. -/
lemma Reprogrammed.all (hP : Setup.Lasting δ P) (hchunks : P.Grants δ buffer.capacity mode chunks)
    (h : buffer.Reprogrammed dma index chunks old g n mode result buffer' dma') :
    buffer'.All P mode := by
  cases h with
  | failed _ => exact all_of_none rfl
  | built hbuild =>
    intro setup hsetup
    obtain rfl := Option.some.inj hsetup
    exact hP.built hchunks hbuild

/-- **Preparing a buffer keeps what lasts**, however it ends. -/
theorem all_of_prepare (hP : Setup.Lasting δ P) (hbuffer : buffer.All P mode)
    (h : buffer.prepare dma index g n mode = .ok (result, buffer', dma')) :
    buffer'.All P mode := by
  obtain ⟨-, hdrain⟩ | ⟨-, _, -, -, rfl⟩ | ⟨-, _, _, hmap, hnew⟩ | ⟨setup, hsetup, -, -, rfl, -⟩ |
    ⟨setup, hsetup, hnew⟩ := prepare_cases h
  · exact all_of_none (setup_of_drain hdrain)
  · exact all_of_none rfl
  · exact hnew.all hP (.inl ⟨_, _, _, hmap⟩)
  · intro kept hkept
    obtain rfl := Option.some.inj hkept
    exact hP.norm n (hbuffer setup hsetup)
  · exact hnew.all hP (.inr ⟨setup, hbuffer setup hsetup, rfl⟩)

end Preparing

/-- Scheduling does not touch what lasts. -/
lemma all_fixture [DmaBackend δ] (hP : Setup.Lasting δ P) :
    buffer.fixture.All P mode ↔ buffer.All P mode := by
  unfold All fixture
  cases buffer.setup with
  | none => simp
  | some setup => simp [hP.untied]

end CaptureBuffer

/-! ## Queues -/

namespace CaptureQueue

variable {P : Setup.Trait} {q q' : CaptureQueue}

/-- Something is true of what the buffers of a queue hold. -/
def All (P : Setup.Trait) (q : CaptureQueue) : Prop :=
  ∀ buffer ∈ q.buffers, buffer.All P q.lineOffset

/-- Buffers may hold nothing. -/
lemma all_of_empty (h : ∀ buffer ∈ q.buffers, buffer.setup = none) : q.All P :=
  fun buffer hbuffer => CaptureBuffer.all_of_none (h buffer hbuffer)

/-- What is true of all buffers is true of what any of them holds. -/
lemma All.of_setupOf (hq : q.All P) {i : Nat} {setup : Setup} (h : q.setupOf i = some setup) :
    ∃ capacity, P capacity q.lineOffset setup := by
  obtain ⟨buffer, hbuffer, hsetup⟩ := Option.bind_eq_some_iff.mp h
  exact ⟨_, hq buffer (List.mem_of_getElem? hbuffer) setup hsetup⟩

/-- Scheduling does not touch what lasts. -/
lemma All.of_fixtures [DmaBackend δ] (hP : Setup.Lasting δ P) (hq : q.All P)
    (h : q'.fixtures = q.fixtures) (hsettings : q'.settings = q.settings) : q'.All P := by
  rw [All, (Prod.mk.inj hsettings).2]
  exact forall_of_fixtures (fun _ => CaptureBuffer.all_fixture hP) h hq

end CaptureQueue

namespace Channel

variable {P : Setup.Trait} {c c' : Channel δ}

/-! ## Operations -/

section Operations

variable [DmaBackend δ]

/-- Replaced buffers hold nothing. -/
lemma empty_of_requestBuffers {count capacity : Nat} {result : Except Error Nat}
    (h : c.requestBuffers count capacity = .ok (result, c')) :
    c' = c ∨ ∀ buffer ∈ c'.buffers, buffer.setup = none := by
  obtain ⟨-, -, rfl⟩ | ⟨-, _, _, -, -, rfl⟩ := requestBuffers_cases h
  · exact .inl rfl
  · refine .inr fun buffer hbuffer => ?_
    rw [(List.mem_replicate.mp hbuffer).2]

/-- Neither do buffers once capture was stopped. -/
lemma empty_of_streamOff {result : Except Error Unit} (h : c.streamOff = .ok (result, c')) :
    c' = c ∨ ∀ buffer ∈ c'.buffers, buffer.setup = none := by
  obtain ⟨-, -, rfl⟩ | ⟨-, -, buffers, _, hrelease, rfl⟩ := streamOff_cases h
  · exact .inl rfl
  · obtain ⟨rfl, -⟩ := released_of_releaseAll hrelease
    refine .inr fun buffer hbuffer => ?_
    obtain ⟨_, -, rfl⟩ := List.mem_map.mp hbuffer
    rfl

/-- **No operation breaks what lasts.**

**Proof sketch.** One case for each operation. Preparing a buffer makes it last anew, requests and
the end of capture leave all buffers as they are or empty, and all others keep what the setups have
except their tails. -/
theorem keeping_all (hP : Setup.Lasting δ P) : Keeping fun c : Channel δ => c.All P where
  request hc h := by
    obtain rfl | hempty := empty_of_requestBuffers h
    · exact hc
    · exact CaptureQueue.all_of_empty hempty
  prepare hc h := by
    obtain ⟨_, -, rfl⟩ | ⟨buffer, buffer', dma, -, hbuffer, -, hprepare, rfl⟩ := prepare_cases h
    · exact hc
    · intro b hb
      obtain hb | rfl := List.mem_or_eq_of_mem_set hb
      · exact hc b hb
      · exact CaptureBuffer.all_of_prepare hP (hc buffer (List.mem_of_getElem? hbuffer)) hprepare
  enqueue hc h := hc.of_fixtures hP (sameHoldings_of_enqueue h).fixtures (settings_of_enqueue h)
  dequeue hc h := by
    obtain ⟨_, -, rfl⟩ | ⟨_, _, _, _, -, -, -, -, -, rfl⟩ := dequeue_cases h <;> exact hc
  streamOn hc h :=
    hc.of_fixtures hP (sameHoldings_of_streamOn h).fixtures (settings_of_streamOn h)
  streamOff hc h := by
    obtain rfl | hempty := empty_of_streamOff h
    · exact hc
    · exact CaptureQueue.all_of_empty hempty
  status hc h :=
    hc.of_fixtures hP (sameHoldings_of_handleStatus h).fixtures (settings_of_handleStatus h)
  timeout hc h :=
    hc.of_fixtures hP (sameHoldings_of_checkTimeout h).fixtures (settings_of_checkTimeout h)
  maskAll hc := hc
  report _ hc := hc

/-- A new queue has no buffers yet. -/
lemma all_of_create {regs : RegisterFile} {dma dma' : δ} {config : Config}
    (h : create regs dma config = (.ok c, dma')) : c.All P := by
  obtain ⟨stopper, -, rfl⟩ := create_eq_ok h
  exact CaptureQueue.all_of_empty nofun

/-- **What lasts is true in every session.** -/
theorem all_of_reaches (hP : Setup.Lasting δ P) {regs : RegisterFile} {dma dma' : δ}
    {config : Config} {c₀ : Channel δ} (hcreate : create regs dma config = (.ok c₀, dma'))
    (h : c₀.Reaches c) : c.All P :=
  (keeping_all hP).of_reaches (fun _ _ hc => hc) (all_of_create hcreate) h

end Operations

end Channel

end VideoCapture
