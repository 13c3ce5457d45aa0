import VideoCapture.Proofs.Queue.Inventory

/-!
# What a refusal leaves behind

An operation that is refused might have been carried out in part. Nearly all of them look before
they act, so that a refusal leaves the queue, the registers and the backend as they were. Preparing
a buffer is the exception, because it asks the backend for a mapping and for the memory of a program
on the way, and either may be missing. A buffer that was neither in the stream nor in flight then
gives back all that it held, what it was just given included, and holds nothing; nothing else has
changed.

## Main definitions

* `VideoCapture.CaptureBuffer.Unbuilt`, `VideoCapture.CaptureBuffer.Abandoned` — why a program or a
  preparation fails, and what has become of the backend then.
* `VideoCapture.Channel.Spares` — what refusals leave behind.

## Main results

* `VideoCapture.Channel.spares_of_refused` — no refusal leaves more behind.
* `VideoCapture.Channel.returned_of_reaches` — what a backend without hardware has got back.
-/

set_option autoImplicit false

namespace VideoCapture

variable {δ : Type} [DmaBackend δ]

/-! ## Buffers -/

namespace CaptureBuffer

/-- There can be no program for a geometry in the given chunks: the error tells why, and the backend
`dma` has become another. -/
inductive Unbuilt (dma : δ) (chunks : ScatterList) (g : Geometry) : Error → δ → Prop where
  /-- The engine cannot reach all chunks. -/
  | unreachable : (∃ chunk ∈ chunks, 0x100000000 < chunk.limit) →
      Unbuilt dma chunks g .addressRange dma
  /-- The chunks are too small. -/
  | short : ScatterList.size chunks < g.imageBytes → Unbuilt dma chunks g .invalidArgument dma
  /-- There is no memory for it. -/
  | unallocated {size : Nat} {error : Error} {dma' : δ} :
      DmaBackend.allocate dma size = (.error error, dma') → Unbuilt dma chunks g error dma'

/-- A buffer cannot be prepared for a geometry: the error tells why, and of the backend `dma` has
become another, which has got back the program and the mapping of the buffer. -/
inductive Abandoned (buffer : CaptureBuffer) (dma : δ) (index : Nat) (g : Geometry) :
    Error → δ → Prop where
  /-- It is refused before the backend is asked for anything. -/
  | unfit : Abandoned buffer dma index g .invalidArgument (buffer.drain dma index).2
  /-- It held nothing, and cannot be mapped. -/
  | unmapped {error : Error} {dma' : δ} : buffer.setup = none →
      DmaBackend.map dma index buffer.capacity = (.error error, dma') →
      Abandoned buffer dma index g error dma'
  /-- It held nothing and has been mapped, but there can be no program. -/
  | bare {chunks : ScatterList} {error : Error} {dma₁ dma₂ : δ} : buffer.setup = none →
      DmaBackend.map dma index buffer.capacity = (.ok chunks, dma₁) →
      Unbuilt dma₁ chunks g error dma₂ →
      Abandoned buffer dma index g error (DmaBackend.unmap dma₂ index)
  /-- It held a program for another geometry, and there can be none for this one. -/
  | outdated {setup : Setup} {error : Error} {dma₁ : δ} : buffer.setup = some setup →
      Unbuilt dma setup.chunks g error dma₁ →
      Abandoned buffer dma index g error
        (DmaBackend.unmap (setup.program.discard dma₁) index)

variable {buffer buffer' : CaptureBuffer} {dma dma' : δ} {index : Nat} {chunks : ScatterList}
  {g : Geometry} {n : Norm} {mode : LineOffset} {error : Error}

/-- Why there is no program. -/
lemma unbuilt_of_buildProgram (h : buildProgram dma chunks g mode = .ok (.error error, dma')) :
    Unbuilt dma chunks g error dma' := by
  obtain ⟨hlimit, hbuilt, rfl⟩ | ⟨hshort, hbuilt, rfl⟩ | ⟨-, layout, -, hbuild⟩ :=
    buildProgram_cases h
  · obtain rfl := Except.error.inj hbuilt
    exact .unreachable hlimit
  · obtain rfl := Except.error.inj hbuilt
    exact .short hshort
  · obtain ⟨_, hallocate, hbuilt⟩ | ⟨_, _, -, -, hbuilt⟩ := Program.build_cases hbuild
    · obtain rfl := Except.error.inj hbuilt
      exact .unallocated hallocate
    · cases hbuilt

/-- **A buffer that could not be prepared holds nothing**, and the backend has got back what it
held. -/
theorem abandoned_of_prepare
    (h : buffer.prepare dma index g n mode = .ok (.error error, buffer', dma')) :
    buffer' = buffer.emptied ∧ buffer.Abandoned dma index g error dma' := by
  obtain ⟨hsame, hdrain⟩ | ⟨hnone, _, hmap, hsame, rfl⟩ | ⟨hnone, chunks, dma₁, hmap, hnew⟩ |
    ⟨_, -, -, hsame, -⟩ | ⟨setup, hsetup, hnew⟩ := prepare_cases h
  · obtain rfl := Except.error.inj hsame
    have hbackend : (buffer.drain dma index).2 = dma' := congrArg Prod.snd hdrain
    refine ⟨?_, hbackend ▸ .unfit⟩
    unfold drain at hdrain
    split at hdrain <;> exact (Prod.mk.inj hdrain).1.symm
  · obtain rfl := Except.error.inj hsame
    exact ⟨rfl, .unmapped hnone hmap⟩
  · cases hnew with
    | failed hbuild => exact ⟨rfl, .bare hnone hmap (unbuilt_of_buildProgram hbuild)⟩
  · cases hsame
  · cases hnew with
    | failed hbuild => exact ⟨rfl, .outdated hsetup (unbuilt_of_buildProgram hbuild)⟩

/-- That it is busy is never the reason, unless the backend says so. -/
lemma Abandoned.ne_busy (h : buffer.Abandoned dma index g error dma')
    (hallocate : ∀ (dma : δ) size, (DmaBackend.allocate dma size).1 ≠ .error .busy)
    (hmap : ∀ (dma : δ) index size, (DmaBackend.map dma index size).1 ≠ .error .busy) :
    error ≠ .busy := by
  have hbuild : ∀ {dma₁ dma₂ : δ} {chunks : ScatterList} {error : Error},
      Unbuilt dma₁ chunks g error dma₂ → error ≠ .busy := by
    intro dma₁ dma₂ chunks error hunbuilt
    cases hunbuilt with
    | unreachable _ => exact nofun
    | short _ => exact nofun
    | unallocated hanswer =>
      rintro rfl
      exact hallocate _ _ (congrArg Prod.fst hanswer)
  cases h with
  | unfit => exact nofun
  | unmapped _ hanswer =>
    rintro rfl
    exact hmap _ _ _ (congrArg Prod.fst hanswer)
  | bare _ _ hunbuilt => exact hbuild hunbuilt
  | outdated _ hunbuilt => exact hbuild hunbuilt

end CaptureBuffer

namespace Channel

open CaptureQueue (Operation Answer)

variable {c c' : Channel δ} {i : Nat} {g : Geometry} {n : Norm} {error : Error}

/-! ## Refusals -/

/-- What refusals leave behind. Asking for the index of a buffer has an answer and nothing else. -/
structure Spares (c : Channel δ) : Prop where
  /-- The index of a buffer is refused exactly if there is no such buffer. -/
  handle : ∀ i, c.handle i = .error .invalidArgument ↔ c.buffers[i]? = none
  /-- A refusal changes nothing, unless a buffer was to be prepared. -/
  refused : ∀ operation error c', (∀ i g n, operation ≠ .prepare i g n) →
    c.perform operation = .ok (.refused error, c') → c' = c
  /-- A buffer that is handed in is not prepared, and nothing changes. -/
  streamed : ∀ i g n, i ∈ c.stream → c.prepare i g n = .ok (.error .busy, c)
  /-- Neither is one that is in flight. -/
  flying : ∀ i g n buffer, c.buffers[i]? = some buffer → buffer.state.inFlight = true →
    c.prepare i g n = .ok (.error .busy, c)
  /-- Neither is one that does not exist. -/
  unknown : ∀ i g n, i ∉ c.stream → c.buffers[i]? = none →
    c.prepare i g n = .ok (.error .invalidArgument, c)
  /-- Any other buffer that could not be prepared holds nothing afterwards, and the backend has got
  back what it held. Nothing else has changed. -/
  abandoned : ∀ i g n error c' buffer, i ∉ c.stream → c.buffers[i]? = some buffer →
    buffer.state.inFlight = false → c.prepare i g n = .ok (.error error, c') →
    buffer.Abandoned c.dma i g error c'.dma ∧
      c' = { c with buffers := c.buffers.set i buffer.emptied, dma := c'.dma }
  /-- That a buffer is busy is not the reason then, unless the backend says so. -/
  busy : ∀ i g n c', (∀ (dma : δ) size, (DmaBackend.allocate dma size).1 ≠ .error .busy) →
    (∀ (dma : δ) index size, (DmaBackend.map dma index size).1 ≠ .error .busy) →
    c.prepare i g n = .ok (.error .busy, c') → c' = c

/-- Operations other than preparing change nothing when they are refused.

**Proof sketch.** One case for each operation. Each decides whether it refuses before it changes
anything, and the operations that have no error to answer refuse nothing. -/
lemma responding_refused : Responding fun operation answer (c c' : Channel δ) =>
    (∀ i g n, operation ≠ .prepare i g n) → ∀ error, answer = .refused error → c' = c where
  request {c c' count capacity result} h _ error herror := by
    obtain ⟨-, rfl, rfl⟩ | ⟨-, _, _, -, rfl, -⟩ := requestBuffers_cases h
    · rfl
    · cases herror
  prepare _ hother := absurd rfl (hother _ _ _)
  enqueue {c c' now i result} h _ error herror := by
    obtain ⟨_, rfl, rfl⟩ | ⟨rfl, -⟩ := enqueue_cases h
    · rfl
    · cases herror
  dequeue {c c' result} h _ error herror := by
    obtain ⟨_, rfl, rfl⟩ | ⟨_, _, _, _, -, -, -, rfl, -⟩ := dequeue_cases h
    · rfl
    · cases herror
  streamOn {c c' now result} h _ error herror := by
    obtain ⟨-, -, -, rfl⟩ | ⟨-, -, rfl, -⟩ | ⟨-, rfl, -⟩ := streamOn_cases h
    · rfl
    · cases herror
    · cases herror
  streamOff {c c' result} h _ error herror := by
    obtain ⟨-, -, rfl⟩ | ⟨-, rfl, -⟩ := streamOff_cases h
    · rfl
    · cases herror
  status _ _ _ := nofun
  timeout _ _ _ := nofun
  maskAll _ _ := nofun
  report _ _ _ _ := nofun
  shutdown _ _ _ := nofun

/-- A buffer in the stream is busy. -/
lemma prepare_of_mem_stream (g : Geometry) (n : Norm) (h : i ∈ c.stream) :
    c.prepare i g n = .ok (.error .busy, c) := by
  unfold prepare
  rw [if_pos (by simpa using h)]
  rfl

/-- So is a buffer in flight. -/
lemma prepare_of_inFlight {buffer : CaptureBuffer} (g : Geometry) (n : Norm)
    (hbuffer : c.buffers[i]? = some buffer) (hflight : buffer.state.inFlight = true) :
    c.prepare i g n = .ok (.error .busy, c) := by
  unfold prepare
  split
  · rfl
  · simp only [hbuffer, hflight, if_true]
    rfl

/-- A buffer that does not exist is no argument. -/
lemma prepare_of_unknown (g : Geometry) (n : Norm) (hstream : i ∉ c.stream)
    (hnone : c.buffers[i]? = none) : c.prepare i g n = .ok (.error .invalidArgument, c) := by
  unfold prepare
  rw [if_neg (by simpa using hstream), hnone]
  rfl

/-- A buffer that could be prepared as far as the queue is concerned holds nothing if it is not. -/
lemma abandoned_of_prepare {buffer : CaptureBuffer} (hstream : i ∉ c.stream)
    (hbuffer : c.buffers[i]? = some buffer) (hflight : buffer.state.inFlight = false)
    (h : c.prepare i g n = .ok (.error error, c')) :
    buffer.Abandoned c.dma i g error c'.dma ∧
      c' = { c with buffers := c.buffers.set i buffer.emptied, dma := c'.dma } := by
  unfold prepare at h
  rw [if_neg (by simpa using hstream), hbuffer] at h
  simp only [hflight, Bool.false_eq_true, if_false] at h
  obtain ⟨⟨result, buffer', dma⟩, hprepare, h⟩ := bind_eq_ok.mp h
  obtain ⟨rfl, rfl⟩ := Prod.mk.inj (pure_eq_ok.mp h)
  obtain ⟨rfl, habandoned⟩ := CaptureBuffer.abandoned_of_prepare hprepare
  exact ⟨habandoned, rfl⟩

/-- **A refusal changes nothing, except that a buffer which could not be prepared holds nothing**,
and that the backend has got back what it held. That goes for every state of a queue, whatever its
registers hold and whatever backend it gets its memory from. -/
theorem spares_of_refused (c : Channel δ) : c.Spares where
  handle i := by
    rw [List.getElem?_eq_none_iff]
    unfold CaptureQueue.handle
    split <;> simp <;> omega
  refused operation error c' hother h := responding_refused.of_perform h hother error rfl
  streamed i g n h := prepare_of_mem_stream g n h
  flying i g n buffer hbuffer hflight := prepare_of_inFlight g n hbuffer hflight
  unknown i g n hstream hnone := prepare_of_unknown g n hstream hnone
  abandoned i g n error c' buffer hstream hbuffer hflight h :=
    abandoned_of_prepare hstream hbuffer hflight h
  busy i g n c' hallocate hmap h := by
    obtain ⟨_, -, rfl⟩ | ⟨buffer, _, _, hstream, hbuffer, hflight, -, -⟩ := prepare_cases h
    · rfl
    · obtain ⟨habandoned, -⟩ := abandoned_of_prepare hstream hbuffer hflight h
      exact absurd rfl (habandoned.ne_busy hallocate hmap)

/-! ## A backend without hardware -/

/-- A failed preparation costs a buffer its program and its mapping: after any session the backend
counts one allocation less if the buffer held a program, and has all mappings but that of the
buffer.

**Proof sketch.** In every session the allocations are the programs held, and the table has what
buffers hold. Both are so before and after, and only the one buffer has changed. -/
theorem returned_of_reaches {regs : RegisterFile} {size : Nat} {limit : Option Nat} {dma : HostDma}
    {config : Config} {c₀ c c' : Channel HostDma} {buffer : CaptureBuffer}
    (hcreate : create regs (HostDma.create size limit) config = (.ok c₀, dma))
    (hreach : c₀.Reaches c) (hstream : i ∉ c.stream) (hbuffer : c.buffers[i]? = some buffer)
    (hflight : buffer.state.inFlight = false) (h : c.prepare i g n = .ok (.error error, c')) :
    c'.dma.live + buffer.tally = c.dma.live ∧
      ∀ j, c'.dma.mapped.lookup j = if j = i then none else c.dma.mapped.lookup j := by
  obtain ⟨-, hc'⟩ := abandoned_of_prepare hstream hbuffer hflight h
  have hbuffers : c'.buffers = c.buffers.set i buffer.emptied := by rw [hc']
  have hperform : c.perform (.prepare i g n) = .ok (.refused error, c') :=
    bind_eq_ok.mpr ⟨(.error error, c'), h, rfl⟩
  have hafter := hreach.perform hperform
  have hi := (List.getElem?_eq_some_iff.mp hbuffer).1
  constructor
  · -- what all hold comes to the same but for what the buffer held
    have hlive : c.Tallied := tallied_of_reaches hcreate hreach
    have hlive' : c'.Tallied := tallied_of_reaches hcreate hafter
    obtain ⟨hbefore, hset⟩ := sum_tally_set hbuffer
    have hnothing : buffer.emptied.tally = 0 := rfl
    rw [hlive', hlive, hbuffers, hset, hbefore, hnothing]
    omega
  · intro j
    have htable := (sited_of_reaches hcreate hreach).table j
    have htable' := (sited_of_reaches hcreate hafter).table j
    rw [htable', htable, hbuffers]
    by_cases hj : j = i
    · rw [if_pos hj, hj, List.getElem?_set_self hi]
      rfl
    · rw [if_neg hj, List.getElem?_set_ne (Ne.symm hj)]

end Channel

end VideoCapture
