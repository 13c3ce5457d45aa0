import VideoCapture.Proofs.Queue.Steps

/-!
# What the operations of a queue do

For each operation this module says in which cases it can end, and what has changed in each. An
operation that breaks off at a fault does not end, so the cases are those of success.

## Main definitions

* `VideoCapture.CaptureBuffer.Reprogrammed` — what giving a buffer a new program can do.

## Main results

* `VideoCapture.released_of_releaseAll` — released buffers are not in flight and hold nothing.
* `VideoCapture.CaptureBuffer.prepare_cases` — the ends of preparing a buffer.
* `VideoCapture.Channel.create_eq_ok` — what a new queue is.
* `VideoCapture.Channel.requestBuffers_cases`, `VideoCapture.Channel.prepare_cases`,
  `VideoCapture.Channel.enqueue_cases`, `VideoCapture.Channel.dequeue_cases`,
  `VideoCapture.Channel.streamOn_cases`, `VideoCapture.Channel.streamOff_cases` — what users do.
* `VideoCapture.Channel.handleStatus_cases`, `VideoCapture.Channel.checkTimeout_cases` — what
  interrupts and the timer do.
-/

set_option autoImplicit false

namespace VideoCapture

variable {δ : Type} [DmaBackend δ]

/-! ## Buffers -/

/-- Released buffers are not in flight and hold nothing afterwards.

**Proof sketch.** Induction on the buffers. None of them is in flight, or releasing it would have
broken off. -/
theorem released_of_releaseAll {dma dma' : δ} {index : Nat} {buffers released : List CaptureBuffer}
    (h : releaseAll dma index buffers = .ok (released, dma')) :
    released = buffers.map CaptureBuffer.emptied ∧
      ∀ buffer ∈ buffers, buffer.state.inFlight = false := by
  induction buffers generalizing dma index released with
  | nil =>
    obtain ⟨rfl, -⟩ : [] = released ∧ dma = dma' := by
      simpa only [releaseAll, pure_eq_ok, Prod.mk.injEq] using h
    exact ⟨rfl, by simp⟩
  | cons buffer buffers ih =>
    simp only [releaseAll, bind_eq_ok, pure_eq_ok, Prod.mk.injEq] at h
    obtain ⟨⟨empty, dma₁⟩, hrelease, ⟨rest, dma₂⟩, hrest, rfl, rfl⟩ := h
    obtain ⟨rfl, hidle⟩ := ih hrest
    unfold CaptureBuffer.release at hrelease
    split at hrelease
    · cases hrelease
    · next hflight =>
      have hempty : empty = buffer.emptied := by
        have hdrain : buffer.drain dma index = (empty, dma₁) := by simpa using hrelease
        unfold CaptureBuffer.drain at hdrain
        split at hdrain <;> exact (congrArg Prod.fst hdrain).symm
      refine ⟨by rw [hempty, List.map_cons], fun b hb => ?_⟩
      obtain rfl | hb := List.mem_cons.mp hb
      · simpa using hflight
      · exact hidle b hb

namespace CaptureBuffer

/-- The ends of building a program for a geometry: the chunks are out of reach or too small, or the
program is built for them, if there is memory for it. -/
lemma buildProgram_cases {dma dma' : δ} {chunks : ScatterList} {geometry : Geometry}
    {mode : LineOffset} {built : Except Error Program}
    (h : buildProgram dma chunks geometry mode = .ok (built, dma')) :
    ((∃ chunk ∈ chunks, 0x100000000 < chunk.limit) ∧ built = .error .addressRange ∧ dma' = dma) ∨
    (ScatterList.size chunks < geometry.imageBytes ∧ built = .error .invalidArgument ∧
      dma' = dma) ∨
    (geometry.imageBytes ≤ ScatterList.size chunks ∧ ∃ layout, geometry.layout = .ok layout ∧
      Program.build dma chunks layout mode = .ok (built, dma')) := by
  unfold buildProgram at h
  split at h
  · next hlimit =>
    obtain ⟨rfl, rfl⟩ := Prod.mk.inj (pure_eq_ok.mp h)
    exact .inl ⟨by simpa using hlimit, rfl, rfl⟩
  · split at h
    · next hshort =>
      obtain ⟨rfl, rfl⟩ := Prod.mk.inj (pure_eq_ok.mp h)
      exact .inr (.inl ⟨hshort, rfl, rfl⟩)
    · next hroom =>
      obtain ⟨layout, hlayout, h⟩ := bind_eq_ok.mp h
      exact .inr (.inr ⟨Nat.le_of_not_lt hroom, layout, hlayout, h⟩)

/-- What giving a buffer a new program can do: from the backend `dma` it leads to a result, a buffer
and a backend. -/
inductive Reprogrammed (buffer : CaptureBuffer) (dma : δ) (index : Nat) (chunks : ScatterList)
    (old : Option Program) (geometry : Geometry) (norm : Norm) (mode : LineOffset) :
    Except Error Unit → CaptureBuffer → δ → Prop where
  /-- There can be no program, and the buffer gives back everything. -/
  | failed {error : Error} {dma₁ : δ} :
      buildProgram dma chunks geometry mode = .ok (.error error, dma₁) →
      Reprogrammed buffer dma index chunks old geometry norm mode (.error error) buffer.emptied
        (DmaBackend.unmap (old.elim dma₁ fun program => program.discard dma₁) index)
  /-- The buffer has a new program, and its old one is given back. -/
  | built {program : Program} {dma₁ : δ} :
      buildProgram dma chunks geometry mode = .ok (.ok program, dma₁) →
      Reprogrammed buffer dma index chunks old geometry norm mode (.ok ())
        { buffer with state := .prepared, setup := some { geometry, norm, chunks, program } }
        (old.elim dma₁ fun program => program.discard dma₁)

/-- A buffer that is given a new program gets one, or is left without anything. -/
lemma reprogrammed_of_reprogram {buffer buffer' : CaptureBuffer} {dma dma' : δ} {index : Nat}
    {chunks : ScatterList} {old : Option Program} {geometry : Geometry} {norm : Norm}
    {mode : LineOffset} {result : Except Error Unit}
    (h : buffer.reprogram dma index chunks old geometry norm mode = .ok (result, buffer', dma')) :
    buffer.Reprogrammed dma index chunks old geometry norm mode result buffer' dma' := by
  unfold reprogram at h
  obtain ⟨⟨built, dma₁⟩, hbuild, h⟩ := bind_eq_ok.mp h
  cases old <;> cases built <;>
    simp only [pure_eq_ok, Prod.mk.injEq] at h <;> obtain ⟨rfl, rfl, rfl⟩ := h
  · exact .failed hbuild
  · exact .built hbuild
  · exact .failed hbuild
  · exact .built hbuild

/-- The ends of preparing a buffer: it is refused and drained, it cannot be mapped, it is mapped and
programmed, it is ready already, or it is programmed anew. -/
lemma prepare_cases {buffer buffer' : CaptureBuffer} {dma dma' : δ} {index : Nat}
    {geometry : Geometry} {norm : Norm} {mode : LineOffset} {result : Except Error Unit}
    (h : buffer.prepare dma index geometry norm mode = .ok (result, buffer', dma')) :
    (result = .error .invalidArgument ∧ buffer.drain dma index = (buffer', dma')) ∨
    (buffer.setup = none ∧ ∃ error,
      DmaBackend.map dma index buffer.capacity = (.error error, dma') ∧
      result = .error error ∧ buffer' = buffer.emptied) ∨
    (buffer.setup = none ∧ ∃ chunks dma₁,
      DmaBackend.map dma index buffer.capacity = (.ok chunks, dma₁) ∧
      buffer.Reprogrammed dma₁ index chunks none geometry norm mode result buffer' dma') ∨
    (∃ setup, buffer.setup = some setup ∧ setup.geometry = geometry ∧ result = .ok () ∧
      buffer' = { buffer with state := .prepared, setup := some { setup with norm } } ∧
      dma' = dma) ∨
    (∃ setup, buffer.setup = some setup ∧
      buffer.Reprogrammed dma index setup.chunks (some setup.program) geometry norm mode result
        buffer' dma') := by
  unfold prepare at h
  by_cases hflight : buffer.state.inFlight = true
  · rw [if_pos hflight] at h
    cases h
  · rw [if_neg hflight] at h
    split at h
    · simp only [pure_eq_ok, Prod.mk.injEq] at h
      obtain ⟨rfl, h⟩ := h
      exact .inl ⟨rfl, h⟩
    · cases hsetup : buffer.setup with
      | none =>
        rw [hsetup] at h
        rcases hmap : DmaBackend.map dma index buffer.capacity with ⟨mapping, dma₁⟩
        cases mapping with
        | error error =>
          simp only [hmap, pure_eq_ok, Prod.mk.injEq] at h
          obtain ⟨rfl, rfl, rfl⟩ := h
          exact .inr (.inl ⟨rfl, error, rfl, rfl, rfl⟩)
        | ok chunks =>
          simp only [hmap] at h
          exact .inr (.inr (.inl ⟨rfl, chunks, dma₁, rfl, reprogrammed_of_reprogram h⟩))
      | some setup =>
        rw [hsetup] at h
        by_cases hsame : setup.geometry = geometry
        · subst hsame
          simp only [if_true, pure_eq_ok, Prod.mk.injEq] at h
          obtain ⟨rfl, rfl, rfl⟩ := h
          exact .inr (.inr (.inr (.inl ⟨setup, rfl, rfl, rfl, rfl, rfl⟩)))
        · simp only [hsame, if_false] at h
          exact .inr (.inr (.inr (.inr ⟨setup, rfl, reprogrammed_of_reprogram h⟩)))

/-- Preparing a buffer drains it, unless the norm accepts the size and the buffer has the room. -/
lemma accepts_of_prepare {buffer buffer' : CaptureBuffer} {dma dma' : δ} {index : Nat}
    {geometry : Geometry} {norm : Norm} {mode : LineOffset} {result : Except Error Unit}
    (h : buffer.prepare dma index geometry norm mode = .ok (result, buffer', dma')) :
    buffer.drain dma index = (buffer', dma') ∨
      norm.accepts geometry.width geometry.height = true ∧
        geometry.imageBytes ≤ buffer.capacity := by
  unfold prepare at h
  by_cases hflight : buffer.state.inFlight = true
  · rw [if_pos hflight] at h
    cases h
  · rw [if_neg hflight] at h
    split at h
    · obtain ⟨-, hdrain⟩ := Prod.mk.inj (pure_eq_ok.mp h)
      exact .inl hdrain
    · next hfits => exact .inr (by simpa using hfits)

/-- A drained buffer holds nothing. -/
lemma setup_of_drain {buffer buffer' : CaptureBuffer} {dma dma' : δ} {index : Nat}
    (h : buffer.drain dma index = (buffer', dma')) : buffer'.setup = none := by
  unfold drain at h
  split at h <;> obtain ⟨rfl, -⟩ := Prod.mk.inj h <;> rfl

/-- **What a buffer holds after it was prepared is what it was prepared for**, and its norm accepts
the size.

**Proof sketch.** In the cases of `prepare_cases` the buffer is left without a setup, or with one
that was made or renewed for what was asked. -/
theorem setup_of_prepare {buffer buffer' : CaptureBuffer} {dma dma' : δ} {index : Nat}
    {geometry : Geometry} {norm : Norm} {mode : LineOffset} {result : Except Error Unit}
    (h : buffer.prepare dma index geometry norm mode = .ok (result, buffer', dma')) {setup : Setup}
    (hsetup : buffer'.setup = some setup) :
    setup.geometry = geometry ∧ setup.norm = norm ∧
      norm.accepts geometry.width geometry.height = true := by
  have hnew : ∀ {dma₁ : δ} {chunks old},
      buffer.Reprogrammed dma₁ index chunks old geometry norm mode result buffer' dma' →
      setup.geometry = geometry ∧ setup.norm = norm := by
    intro dma₁ chunks old hnew
    cases hnew with
    | failed _ => cases hsetup
    | built _ =>
      obtain rfl := Option.some.inj hsetup
      exact ⟨rfl, rfl⟩
  suffices hsame : setup.geometry = geometry ∧ setup.norm = norm by
    obtain hdrain | ⟨haccepts, -⟩ := accepts_of_prepare h
    · cases (setup_of_drain hdrain).symm.trans hsetup
    · exact ⟨hsame.1, hsame.2, haccepts⟩
  obtain ⟨-, hdrain⟩ | ⟨-, _, -, -, rfl⟩ | ⟨-, _, _, -, hprogram⟩ | ⟨kept, -, rfl, -, rfl, -⟩ |
    ⟨_, -, hprogram⟩ := prepare_cases h
  · cases (setup_of_drain hdrain).symm.trans hsetup
  · cases hsetup
  · exact hnew hprogram
  · obtain rfl := Option.some.inj hsetup
    exact ⟨rfl, rfl⟩
  · exact hnew hprogram

/-- A buffer that was given a new program is prepared or holds nothing. -/
lemma Reprogrammed.state_eq {buffer buffer' : CaptureBuffer} {dma dma' : δ} {index : Nat}
    {chunks : ScatterList} {old : Option Program} {geometry : Geometry} {norm : Norm}
    {mode : LineOffset} {result : Except Error Unit}
    (h : buffer.Reprogrammed dma index chunks old geometry norm mode result buffer' dma') :
    buffer'.state = .needsInit ∨ buffer'.state = .prepared := by
  cases h with
  | failed _ => exact .inl rfl
  | built _ => exact .inr rfl

/-- **A buffer that one tried to prepare is prepared or holds nothing.** -/
theorem state_of_prepare {buffer buffer' : CaptureBuffer} {dma dma' : δ} {index : Nat}
    {geometry : Geometry} {norm : Norm} {mode : LineOffset} {result : Except Error Unit}
    (h : buffer.prepare dma index geometry norm mode = .ok (result, buffer', dma')) :
    buffer'.state = .needsInit ∨ buffer'.state = .prepared := by
  obtain ⟨-, hdrain⟩ | ⟨-, _, -, -, rfl⟩ | ⟨-, _, _, -, hnew⟩ | ⟨_, -, -, -, rfl, -⟩ |
    ⟨_, -, hnew⟩ := prepare_cases h
  · left
    unfold drain at hdrain
    split at hdrain <;> obtain ⟨rfl, -⟩ := Prod.mk.inj hdrain <;> rfl
  · exact .inl rfl
  · exact hnew.state_eq
  · exact .inr rfl
  · exact hnew.state_eq

end CaptureBuffer

namespace Channel

variable {c c' : Channel δ} {now : Int}

/-! ## What users do -/

/-- A new queue has its stopper and nothing else. -/
lemma create_eq_ok {regs : RegisterFile} {dma dma' : δ} {config : Config}
    (h : create regs dma config = (.ok c, dma')) :
    ∃ stopper, Program.stopper dma = (.ok stopper, dma') ∧
      c = { stopper, timeout := config.bufferTimeout, lineOffset := config.lineOffset, regs,
            dma := dma' } := by
  unfold create at h
  split at h
  · cases h
  · next stopper dma₁ hstopper =>
    simp only [Prod.mk.injEq, Except.ok.injEq] at h
    obtain ⟨rfl, rfl⟩ := h
    exact ⟨stopper, hstopper, rfl⟩

/-- A request is refused while capture is on; otherwise it replaces all buffers. -/
lemma requestBuffers_cases {count capacity : Nat} {result : Except Error Nat}
    (h : c.requestBuffers count capacity = .ok (result, c')) :
    (c.streaming = true ∧ result = .error .busy ∧ c' = c) ∨
    (c.streaming = false ∧ ∃ released dma, releaseAll c.dma 0 c.buffers = .ok (released, dma) ∧
      result = .ok count ∧
      c' = { c with buffers := List.replicate count { capacity }, stream := [], dma }) := by
  unfold requestBuffers at h
  split at h
  · next hstreaming =>
    obtain ⟨rfl, rfl⟩ := Prod.mk.inj (pure_eq_ok.mp h)
    exact .inl ⟨hstreaming, rfl, rfl⟩
  · next hstreaming =>
    simp only [bind_eq_ok, pure_eq_ok, Prod.mk.injEq] at h
    obtain ⟨⟨released, dma⟩, hrelease, rfl, rfl⟩ := h
    exact .inr ⟨by simpa using hstreaming, released, dma, hrelease, rfl, rfl⟩

/-- Preparing is refused for a buffer that is handed in, in flight or unknown. -/
lemma prepare_cases {i : Nat} {geometry : Geometry} {norm : Norm} {result : Except Error Unit}
    (h : c.prepare i geometry norm = .ok (result, c')) :
    (∃ error, result = .error error ∧ c' = c) ∨
    ∃ buffer buffer' dma, i ∉ c.stream ∧ c.buffers[i]? = some buffer ∧
      buffer.state.inFlight = false ∧
      buffer.prepare c.dma i geometry norm c.lineOffset = .ok (result, buffer', dma) ∧
      c' = { c with buffers := c.buffers.set i buffer', dma } := by
  unfold prepare at h
  split at h
  · obtain ⟨rfl, rfl⟩ := Prod.mk.inj (pure_eq_ok.mp h)
    exact .inl ⟨_, rfl, rfl⟩
  · next hstream =>
    cases hbuffer : c.buffers[i]? with
    | none =>
      simp only [hbuffer, pure_eq_ok, Prod.mk.injEq] at h
      exact .inl ⟨_, h.1.symm, h.2.symm⟩
    | some buffer =>
      cases hflight : buffer.state.inFlight with
      | true =>
        simp only [hbuffer, hflight, if_true, pure_eq_ok, Prod.mk.injEq] at h
        exact .inl ⟨_, h.1.symm, h.2.symm⟩
      | false =>
        simp only [hbuffer, hflight, Bool.false_eq_true, if_false, bind_eq_ok, pure_eq_ok,
          Prod.mk.injEq] at h
        obtain ⟨⟨r, buffer', dma⟩, hprepare, rfl, rfl⟩ := h
        exact .inr ⟨buffer, buffer', dma, by simpa using hstream, rfl, hflight, hprepare, rfl⟩

omit [DmaBackend δ] in
/-- A buffer that is prepared and not in the stream joins it, and is placed while capture is on. -/
lemma enqueue_of_ready (now : Int) {index : Nat} (hprepared : c.stateOf index = some .prepared)
    (hstream : index ∉ c.stream) :
    let c₁ := { c with stream := c.stream ++ [index] }
    c.enqueue now index =
      if c.streaming then do return (.ok (), ← c₁.place now index) else .ok (.ok (), c₁) := by
  obtain ⟨buffer, hbuffer, hstate⟩ := Option.map_eq_some_iff.mp hprepared
  simp only [enqueue, hbuffer, hstate, List.contains_eq_mem, hstream, decide_false,
    Bool.false_eq_true, if_false]
  rfl

omit [DmaBackend δ] in
/-- A prepared buffer that is not in the stream is handed in; any other is refused. -/
lemma enqueue_cases {i : Nat} {result : Except Error Unit}
    (h : c.enqueue now i = .ok (result, c')) :
    (∃ error, result = .error error ∧ c' = c) ∨
    (result = .ok () ∧ i ∉ c.stream ∧ c.stateOf i = some .prepared ∧
      let c₁ := { c with stream := c.stream ++ [i] }
      (c.streaming = true ∧ c₁.place now i = .ok c' ∨ c.streaming = false ∧ c' = c₁)) := by
  unfold enqueue at h
  cases hbuffer : c.buffers[i]? with
  | none =>
    simp only [hbuffer, pure_eq_ok, Prod.mk.injEq] at h
    exact .inl ⟨_, h.1.symm, h.2.symm⟩
  | some buffer =>
    cases hstate : buffer.state with
    | prepared =>
      simp only [hbuffer, hstate] at h
      split at h
      · simp only [pure_eq_ok, Prod.mk.injEq] at h
        exact .inl ⟨_, h.1.symm, h.2.symm⟩
      · next hstream =>
        have hprepared : c.stateOf i = some .prepared := by
          rw [CaptureQueue.stateOf_of_getElem? hbuffer, hstate]
        split at h
        · next hstreaming =>
          simp only [bind_eq_ok, pure_eq_ok, Prod.mk.injEq] at h
          obtain ⟨c₁, hplace, rfl, rfl⟩ := h
          exact .inr ⟨rfl, by simpa using hstream, hprepared, .inl ⟨hstreaming, hplace⟩⟩
        · next hstreaming =>
          simp only [pure_eq_ok, Prod.mk.injEq] at h
          exact .inr ⟨h.1.symm, by simpa using hstream, hprepared,
            .inr ⟨by simpa using hstreaming, h.2.symm⟩⟩
    | needsInit | queued | active | done | error =>
      simp only [hbuffer, hstate, pure_eq_ok, Prod.mk.injEq] at h
      exact .inl ⟨_, h.1.symm, h.2.symm⟩

omit [DmaBackend δ] in
/-- The oldest buffer is taken out of the stream if it is finished; otherwise nothing changes.

**Proof sketch.** On the stream: without a first buffer, or with one that is not finished, an error
is answered from the same state. A finished one is taken out, and the bytes of a frame that is done
are those of its geometry. -/
lemma dequeue_cases {result : Except Error Frame} (h : c.dequeue = .ok (result, c')) :
    (∃ error, result = .error error ∧ c' = c) ∨
    ∃ i rest buffer bytesUsed, c.stream = i :: rest ∧ c.buffers[i]? = some buffer ∧
      buffer.state.finished = true ∧
      result = .ok
        { index := i, state := buffer.state, sequence := buffer.sequence,
          timestamp := buffer.timestamp, bytesUsed } ∧
      (buffer.state = .done → ∃ setup, c.setupOf i = some setup ∧
        bytesUsed = setup.geometry.imageBytes) ∧
      c' = { c with stream := rest } := by
  unfold dequeue at h
  cases hstream : c.stream with
  | nil =>
    simp only [hstream, pure_eq_ok, Prod.mk.injEq] at h
    exact .inl ⟨_, h.1.symm, h.2.symm⟩
  | cons i rest =>
    simp only [hstream, bind_eq_ok, CaptureQueue.resident_eq_ok] at h
    obtain ⟨buffer, hbuffer, h⟩ := h
    cases hfinished : buffer.state.finished with
    | true =>
      right
      simp only [hfinished, if_true] at h
      by_cases hdone : buffer.state = .done
      · simp only [hdone, if_true, bind_eq_ok, CaptureQueue.scheduled_eq_ok, pure_eq_ok,
          Prod.mk.injEq] at h
        obtain ⟨setup, hsetup, bytesUsed, rfl, rfl, rfl⟩ := h
        exact ⟨i, rest, buffer, _, rfl, hbuffer, hfinished, by rw [hdone],
          fun _ => ⟨setup, hsetup, rfl⟩, rfl⟩
      · simp only [hdone, if_false, bind_eq_ok, pure_eq_ok, Prod.mk.injEq] at h
        obtain ⟨bytesUsed, -, rfl, rfl⟩ := h
        exact ⟨i, rest, buffer, _, rfl, hbuffer, hfinished, rfl, fun hyes => absurd hyes hdone, rfl⟩
    | false =>
      left
      simp only [hfinished, Bool.false_eq_true, if_false] at h
      split at h
      · simp only [pure_eq_ok, Prod.mk.injEq] at h
        exact ⟨_, h.1.symm, h.2.symm⟩
      · split at h <;> simp only [pure_eq_ok, Prod.mk.injEq] at h <;>
          exact ⟨_, h.1.symm, h.2.symm⟩

omit [DmaBackend δ] in
/-- Capture is refused if it is on without a fault, resumed if a fault has stopped it, and else
started with the buffers handed in. -/
lemma streamOn_cases {result : Except Error Unit} (h : c.streamOn now = .ok (result, c')) :
    (c.streaming = true ∧ c.fault = none ∧ result = .error .busy ∧ c' = c) ∨
    (c.streaming = true ∧ c.fault ≠ none ∧ result = .ok () ∧
      (stopEngine { c with fault := none }).restart now = .ok c') ∨
    (c.streaming = false ∧ result = .ok () ∧
      placeAll { c with fault := none, streaming := true } now c.stream = .ok c') := by
  unfold streamOn at h
  split at h
  · next hstreaming =>
    cases hfault : c.fault with
    | none =>
      simp only [hfault, pure_eq_ok, Prod.mk.injEq] at h
      exact .inl ⟨hstreaming, rfl, h.1.symm, h.2.symm⟩
    | some fault =>
      simp only [hfault, bind_eq_ok, pure_eq_ok, Prod.mk.injEq] at h
      obtain ⟨c₁, hrestart, rfl, rfl⟩ := h
      exact .inr (.inl ⟨hstreaming, by simp, rfl, hrestart⟩)
  · next hstreaming =>
    simp only [bind_eq_ok, pure_eq_ok, Prod.mk.injEq] at h
    obtain ⟨c₁, hplace, rfl, rfl⟩ := h
    exact .inr (.inr ⟨by simpa using hstreaming, rfl, hplace⟩)

/-- Stopping is refused while capture is off; otherwise the engine is stopped, every buffer is given
up and released, and the lists are emptied. -/
lemma streamOff_cases {result : Except Error Unit} (h : c.streamOff = .ok (result, c')) :
    (c.streaming = false ∧ result = .error .notStreaming ∧ c' = c) ∨
    (c.streaming = true ∧ result = .ok () ∧ ∃ buffers dma,
      releaseAll c.dma 0 (c.buffers.map fun buffer => { buffer with state := .error }) =
        .ok (buffers, dma) ∧
      c' = { c.stopEngine with
        buffers, stream := [], queued := [], active := [], streaming := false, deadline := none,
        fault := none, sequence := 0, dma }) := by
  unfold streamOff at h
  cases hstreaming : c.streaming with
  | false =>
    simp only [hstreaming, Bool.not_false, if_true, pure_eq_ok, Prod.mk.injEq] at h
    exact .inl ⟨rfl, h.1.symm, h.2.symm⟩
  | true =>
    simp only [hstreaming, Bool.not_true, Bool.false_eq_true, if_false, bind_eq_ok, pure_eq_ok,
      Prod.mk.injEq] at h
    obtain ⟨⟨buffers, dma⟩, hrelease, rfl, rfl⟩ := h
    exact .inr ⟨rfl, rfl, buffers, dma, hrelease, rfl⟩

/-! ## What interrupts and the timer do -/

omit [DmaBackend δ]

/-- A fault stops the engine and has the whole chain given up. -/
lemma failStop_cases {fault : UInt32} (h : c.failStop fault = .ok c') :
    ∃ q backlog,
      CaptureQueue.Failed
        { c.stopEngine.toCaptureQueue with deadline := none, fault := some fault, active := [] }
        c.active q ∧
      c' = { c.stopEngine with
        toCaptureQueue := { q with stats.faults := q.stats.faults + 1, backlog } } := by
  simp only [failStop, bind_eq_ok, pure_eq_ok] at h
  obtain ⟨q, hfail, rfl⟩ := h
  exact ⟨q, _, CaptureQueue.failed_of_failAll hfail, rfl⟩

/-- An engine in the stopper is stopped, and started again if anything waits. -/
lemma park_cases (h : c.park now = .ok c') :
    let c₁ := { c.stopEngine with
      deadline := none, stats.stopperHits := c.stats.stopperHits + 1 }
    (c.active = [] ∧ c.queued = [] ∧ c' = c₁) ∨
    ((c.active ≠ [] ∨ c.queued ≠ []) ∧ c₁.restart now = .ok c') := by
  unfold park at h
  dsimp only at h ⊢
  split at h
  · next hempty =>
    have hlists : c.active = [] ∧ c.queued = [] := by simpa [stopEngine] using hempty
    exact .inl ⟨hlists.1, hlists.2, (pure_eq_ok.mp h).symm⟩
  · next hrest =>
    refine .inr ⟨?_, h⟩
    refine Decidable.or_iff_not_imp_left.mpr fun hactive hqueued => hrest ?_
    simp [stopEngine, Decidable.not_not.mp hactive, hqueued]

/-- The engine is inside the program of the head, if there is a head and the pointer is in it. -/
lemma headRuns_eq_ok {pointer : UInt32} {b : Bool} :
    c.headRuns pointer = .ok b ↔ (c.active = [] ∧ b = false) ∨
      ∃ head rest setup, c.active = head :: rest ∧ c.setupOf head = some setup ∧
        setup.program.contains pointer = b := by
  unfold headRuns
  cases hactive : c.active with
  | nil =>
    simp only [pure_eq_ok, true_and, reduceCtorEq, false_and, exists_false, or_false]
    exact eq_comm
  | cons head rest =>
    simp only [bind_eq_ok, CaptureQueue.scheduled_eq_ok, pure_eq_ok, reduceCtorEq, false_and,
      List.cons.injEq, false_or]
    constructor
    · rintro ⟨setup, hsetup, hcontains⟩
      exact ⟨head, rest, setup, ⟨rfl, rfl⟩, hsetup, hcontains⟩
    · rintro ⟨_, _, setup, ⟨rfl, rfl⟩, hsetup, hcontains⟩
      exact ⟨setup, hsetup, hcontains⟩

/-- A program's interrupt is spurious while the engine is still inside the head. Otherwise the head
is retired, and the engine parked if it is in the stopper. -/
lemma handleCompletion_cases (h : c.handleCompletion now = .ok c') :
    let pointer := c.regs.read32 Register.programPointer
    (c.headRuns pointer = .ok true ∧ c' = c) ∨
    ∃ q, c.headRuns pointer = .ok false ∧ c.completeHead now = .ok q ∧
      let c₁ := { c with toCaptureQueue := q }
      (q.stopper.contains pointer = true ∧ c₁.park now = .ok c' ∨
        q.stopper.contains pointer = false ∧ c' = c₁) := by
  simp only [handleCompletion, bind_eq_ok] at h
  obtain ⟨inside, hinside, h⟩ := h
  cases inside with
  | true => exact .inl ⟨hinside, (pure_eq_ok.mp h).symm⟩
  | false =>
    simp only [Bool.false_eq_true, if_false, bind_eq_ok] at h
    obtain ⟨q, hcomplete, h⟩ := h
    refine .inr ⟨q, hinside, hcomplete, ?_⟩
    split at h
    · next hstopper => exact .inl ⟨hstopper, h⟩
    · next hstopper => exact .inr ⟨by simpa using hstopper, (pure_eq_ok.mp h).symm⟩

/-- Interrupt status without video bits does nothing. Video bits are acknowledged; while capture is
on a fault stops it, and without a fault a program has been completed. -/
lemma handleStatus_cases {status : UInt32} {mine : Bool}
    (h : c.handleStatus now status = .ok (mine, c')) :
    let fault := status &&& Status.video &&& Status.faults
    let c₁ := { c with regs := c.regs.write32 Register.interruptStatus Status.video }
    (status &&& Status.video = 0 ∧ mine = false ∧ c' = c) ∨
    (status &&& Status.video ≠ 0 ∧ mine = true ∧
      (c.streaming = false ∧ c' = c₁ ∨
       c.streaming = true ∧ fault ≠ 0 ∧ c₁.failStop fault = .ok c' ∨
       c.streaming = true ∧ fault = 0 ∧ c₁.handleCompletion now = .ok c')) := by
  unfold handleStatus at h
  by_cases hvideo : status &&& Status.video = 0
  · simp only [hvideo, if_true, pure_eq_ok, Prod.mk.injEq] at h
    exact .inl ⟨hvideo, h.1.symm, h.2.symm⟩
  · simp only [hvideo, if_false] at h
    cases hstreaming : c.streaming with
    | false =>
      simp only [hstreaming, Bool.not_false, if_true, pure_eq_ok, Prod.mk.injEq] at h
      exact .inr ⟨hvideo, h.1.symm, .inl ⟨rfl, h.2.symm⟩⟩
    | true =>
      simp only [hstreaming, Bool.not_true, Bool.false_eq_true, if_false] at h
      by_cases hfault : status &&& Status.video &&& Status.faults = 0
      · simp only [hfault, ne_eq, not_true, if_false, bind_eq_ok, pure_eq_ok, Prod.mk.injEq] at h
        obtain ⟨c₂, hcompletion, rfl, rfl⟩ := h
        exact .inr ⟨hvideo, rfl, .inr (.inr ⟨rfl, hfault, hcompletion⟩)⟩
      · simp only [hfault, ne_eq, not_false_iff, if_true, bind_eq_ok, pure_eq_ok,
          Prod.mk.injEq] at h
        obtain ⟨c₂, hfail, rfl, rfl⟩ := h
        exact .inr ⟨hvideo, rfl, .inr (.inl ⟨rfl, hfault, hfail⟩)⟩

/-- The timer does nothing before the deadline. After it the deadline is taken back, and a chain is
given up and capture restarted. -/
lemma checkTimeout_cases {stalled : Bool} (h : c.checkTimeout now = .ok (stalled, c')) :
    (stalled = false ∧ c' = c ∧ ∀ deadline, c.deadline = some deadline → now < deadline) ∨
    (stalled = false ∧ c.active = [] ∧ c' = { c with deadline := none }) ∨
    (stalled = true ∧ c.active ≠ [] ∧ ∃ q,
      CaptureQueue.Failed { c.stopEngine.toCaptureQueue with deadline := none, active := [] }
        c.active q ∧
      restart { c.stopEngine with
        toCaptureQueue := { q with stats.timeouts := q.stats.timeouts + 1 } } now = .ok c') := by
  unfold checkTimeout at h
  cases hdeadline : c.deadline with
  | none =>
    simp only [hdeadline, pure_eq_ok, Prod.mk.injEq] at h
    exact .inl ⟨h.1.symm, h.2.symm, by simp⟩
  | some deadline =>
    simp only [hdeadline] at h
    split at h
    · next hearly =>
      simp only [pure_eq_ok, Prod.mk.injEq] at h
      exact .inl ⟨h.1.symm, h.2.symm, by simpa using hearly⟩
    · split at h
      · next hempty =>
        simp only [pure_eq_ok, Prod.mk.injEq] at h
        exact .inr (.inl ⟨h.1.symm, List.isEmpty_iff.mp hempty, h.2.symm⟩)
      · next hactive =>
        simp only [bind_eq_ok, pure_eq_ok, Prod.mk.injEq] at h
        obtain ⟨q, hfail, c₁, hrestart, rfl, rfl⟩ := h
        exact .inr (.inr ⟨rfl, fun hnil => hactive (by rw [hnil]; rfl), q,
          CaptureQueue.failed_of_failAll hfail, hrestart⟩)

end Channel

end VideoCapture
