import VideoCapture.Proofs.Queue.Lasting
import VideoCapture.Proofs.Queue.Unbroken

/-!
# Buffers with room

Preparing a buffer for a geometry is refused as invalid for one of three reasons: the norm does not
accept the size, the buffer was requested with too little room, or its chunks turn out to cover less
than the image. The third is no reason of its own over a backend without hardware, which maps
buffers as they were requested. So it is enough that buffers were requested with room for the image,
and no operation but another request takes that away.

## Main definitions

* `VideoCapture.Setup.Whole` — chunks cover all that was mapped.
* `VideoCapture.CaptureQueue.Ample` — all buffers have room for so many bytes.
* `VideoCapture.CaptureQueue.Operation.Suffices` — operations that take no room away.

## Main results

* `VideoCapture.Setup.lasting_whole` — chunks cover what was mapped in every session.
* `VideoCapture.Channel.responding_ample` — buffers keep their room.
* `VideoCapture.Channel.valid_prepare_or_astray` — a buffer with room is never refused as invalid.
-/

set_option autoImplicit false

namespace VideoCapture

/-! ## The backend -/

namespace HostDma

variable {dma dma' : HostDma} {index size : Nat} {error : Error}

/-- A buffer that is mapped gets as many pages as it needs. -/
lemma whole_of_map {chunks : ScatterList} (h : dma.map index size = (.ok chunks, dma')) :
    ∃ addresses, chunks = chunksAt size addresses ∧ size ≤ pageSize * addresses.length := by
  unfold HostDma.map at h
  split at h
  · cases h
  · next addresses window htake =>
    refine ⟨addresses, (Except.ok.inj (Prod.mk.inj h).1).symm, ?_⟩
    have hcount : addresses.length = (size + (pageSize - 1)) / pageSize := by
      unfold BusWindow.takeMany at htake
      dsimp only at htake
      split at htake
      · next hlength => rwa [Option.some.inj (Prod.mk.inj htake).1] at hlength
      · cases htake
    rw [hcount, pageSize]
    omega

/-- A buffer that cannot be mapped finds too little memory. -/
lemma error_of_map (h : dma.map index size = (.error error, dma')) : error = .outOfMemory := by
  unfold HostDma.map at h
  split at h
  · exact (Except.error.inj (Prod.mk.inj h).1).symm
  · cases h

/-- So does a program that gets no memory. -/
lemma error_of_allocate (h : dma.allocate size = (.error error, dma')) : error = .outOfMemory := by
  unfold HostDma.allocate at h
  split at h
  · exact (Except.error.inj (Prod.mk.inj h).1).symm
  · split at h
    · exact (Except.error.inj (Prod.mk.inj h).1).symm
    · cases h

end HostDma

/-! ## Chunks -/

/-- The chunks of a setup are all that was mapped for a buffer of a given capacity, and its program
keeps to them. -/
def Setup.Whole (capacity : Nat) (_ : LineOffset) (setup : Setup) : Prop :=
  (∃ addresses, setup.chunks = HostDma.chunksAt capacity addresses ∧
    capacity ≤ pageSize * addresses.length) ∧ setup.program.Within setup.chunks

/-- **Chunks are all that was mapped** from the time that a program was built for them. -/
lemma Setup.lasting_whole : Lasting HostDma Setup.Whole where
  untied := and_congr_right fun _ => Program.within_untied
  norm _ hsetup := hsetup
  built := by
    rintro capacity mode geometry norm chunks program dma dma' hgrants hbuild
    refine ⟨?_, CaptureBuffer.within_of_buildProgram hbuild⟩
    obtain ⟨_, _, _, hmap⟩ | ⟨setup, hsetup, rfl⟩ := hgrants
    · exact HostDma.whole_of_map hmap
    · exact hsetup.1

/-! ## Buffers -/

namespace CaptureBuffer

variable {buffer buffer' : CaptureBuffer} {dma dma' : HostDma} {index : Nat} {g : Geometry}
  {n : Norm} {mode : LineOffset} {chunks : ScatterList}

/-- The chunks of a buffer that holds anything cover its capacity. -/
lemma All.size_eq {setup : Setup} (h : buffer.All Setup.Whole mode)
    (hsetup : buffer.setup = some setup) : setup.chunks.size = buffer.capacity := by
  obtain ⟨⟨addresses, hchunks, hlength⟩, -⟩ := h setup hsetup
  rw [hchunks, HostDma.size_chunksAt, Nat.min_eq_left hlength]

/-- What such a buffer holds was made for a mapping. -/
lemma All.sited (h : buffer.All Setup.Whole mode) : buffer.Sited := by
  intro setup hsetup
  obtain ⟨⟨addresses, hchunks, -⟩, hwithin⟩ := h setup hsetup
  exact ⟨⟨addresses, hchunks⟩, hwithin⟩

/-- A program is not refused as invalid if the chunks cover the image. -/
lemma valid_of_buildProgram {built : Except Error Program} (hroom : g.imageBytes ≤ chunks.size)
    (h : buildProgram dma chunks g mode = .ok (built, dma')) :
    built ≠ .error .invalidArgument := by
  obtain ⟨-, rfl, -⟩ | ⟨hshort, -, -⟩ | ⟨-, layout, -, hbuild⟩ := buildProgram_cases h
  · exact nofun
  · exact absurd hroom (Nat.not_le_of_lt hshort)
  · obtain ⟨error, hallocate, rfl⟩ | ⟨_, _, -, -, rfl⟩ := Program.build_cases hbuild
    · rw [HostDma.error_of_allocate hallocate]
      exact nofun
    · exact nofun

/-- Neither is giving a buffer a new one. -/
lemma Reprogrammed.valid {old : Option Program} {result : Except Error Unit}
    (hroom : g.imageBytes ≤ chunks.size)
    (h : buffer.Reprogrammed dma index chunks old g n mode result buffer' dma') :
    result ≠ .error .invalidArgument := by
  cases h with
  | failed hbuild =>
    have hvalid := valid_of_buildProgram hroom hbuild
    exact fun hinvalid => hvalid (congrArg Except.error (Except.error.inj hinvalid))
  | built _ => exact nofun

/-- **A buffer with room is not refused as invalid** for a size that the norm accepts.

**Proof sketch.** Norm and room are checked first and do not refuse it. The chunks that it has, or
gets now, are as long as it has room, so that they are not too short for the image either. -/
theorem valid_of_prepare {result : Except Error Unit} (hwhole : buffer.All Setup.Whole mode)
    (haccepts : n.accepts g.width g.height = true) (hroom : g.imageBytes ≤ buffer.capacity)
    (h : buffer.prepare dma index g n mode = .ok (result, buffer', dma')) :
    result ≠ .error .invalidArgument := by
  unfold prepare at h
  by_cases hflight : buffer.state.inFlight = true
  · rw [if_pos hflight] at h
    cases h
  · rw [if_neg hflight, if_neg (by simp [haccepts, hroom])] at h
    cases hsetup : buffer.setup with
    | none =>
      rw [hsetup] at h
      rcases hmap : DmaBackend.map dma index buffer.capacity with ⟨error | chunks, dma₁⟩
      · simp only [hmap, pure_eq_ok, Prod.mk.injEq] at h
        rw [← h.1, HostDma.error_of_map hmap]
        exact nofun
      · simp only [hmap] at h
        obtain ⟨addresses, rfl, hlength⟩ := HostDma.whole_of_map hmap
        refine (reprogrammed_of_reprogram h).valid ?_
        rwa [HostDma.size_chunksAt, Nat.min_eq_left hlength]
    | some setup =>
      rw [hsetup] at h
      dsimp only at h
      split at h
      · obtain ⟨rfl, -⟩ := Prod.mk.inj (pure_eq_ok.mp h)
        exact nofun
      · refine (reprogrammed_of_reprogram h).valid ?_
        rwa [hwhole.size_eq hsetup]

end CaptureBuffer

/-! ## Queues -/

/-- An operation requests no buffers with less room than for so many bytes. -/
def CaptureQueue.Operation.Suffices (size : Nat) : Operation → Prop
  | .request _ capacity => size ≤ capacity
  | _ => True

/-- All buffers of a queue have room for so many bytes. -/
def CaptureQueue.Ample (size : Nat) (q : CaptureQueue) : Prop :=
  ∀ buffer ∈ q.buffers, size ≤ buffer.capacity

/-- Scheduling does not concern the room that there is. -/
lemma CaptureQueue.Ample.of_fixtures {q q' : CaptureQueue} {size : Nat} (hq : q.Ample size)
    (h : q'.fixtures = q.fixtures) : q'.Ample size :=
  forall_of_fixtures (fun _ => .rfl) h hq

namespace Channel

open CaptureQueue (Operation Answer)

section Operations

variable {δ : Type} [DmaBackend δ] {c c' : Channel δ} {size : Nat}

/-- Buffers that are requested have the room that is asked for, unless the request is refused. -/
lemma ample_of_requestBuffers {count capacity : Nat} {result : Except Error Nat}
    (h : c.requestBuffers count capacity = .ok (result, c')) (hsize : size ≤ capacity) :
    (result = .error .busy ∧ c' = c) ∨ c'.Ample size := by
  obtain ⟨-, hrefused, hsame⟩ | ⟨-, _, _, -, -, rfl⟩ := requestBuffers_cases h
  · exact .inl ⟨hrefused, hsame⟩
  · refine .inr fun buffer hbuffer => ?_
    rwa [(List.mem_replicate.mp hbuffer).2]

/-- A buffer keeps its room when it is prepared. -/
lemma ample_of_prepare {i : Nat} {g : Geometry} {n : Norm} {result : Except Error Unit}
    (h : c.prepare i g n = .ok (result, c')) (hc : c.Ample size) : c'.Ample size := by
  obtain ⟨_, -, rfl⟩ | ⟨buffer, buffer', dma, -, hbuffer, -, hprepare, rfl⟩ := prepare_cases h
  · exact hc
  · intro b hb
    obtain hb | rfl := List.mem_or_eq_of_mem_set hb
    · exact hc b hb
    · rw [CaptureBuffer.capacity_of_prepare hprepare]
      exact hc buffer (List.mem_of_getElem? hbuffer)

/-- Buffers keep their room when capture stops. -/
lemma ample_of_streamOff {result : Except Error Unit} (h : c.streamOff = .ok (result, c'))
    (hc : c.Ample size) : c'.Ample size := by
  obtain ⟨-, -, rfl⟩ | ⟨-, -, buffers, _, hrelease, rfl⟩ := streamOff_cases h
  · exact hc
  · obtain ⟨rfl, -⟩ := released_of_releaseAll hrelease
    exact List.forall_mem_map.mpr (List.forall_mem_map.mpr hc)

/-- **Buffers keep their room** until others are requested. -/
theorem responding_ample : Responding fun operation _ (c c' : Channel δ) =>
    operation.Suffices size → c.Ample size → c'.Ample size where
  request h hsize hc := by
    obtain ⟨-, rfl⟩ | hample := ample_of_requestBuffers h hsize
    · exact hc
    · exact hample
  prepare h _ hc := ample_of_prepare h hc
  enqueue h _ hc := hc.of_fixtures (sameHoldings_of_enqueue h).fixtures
  dequeue h _ hc := hc.of_fixtures (sameHoldings_of_dequeue h).fixtures
  streamOn h _ hc := hc.of_fixtures (sameHoldings_of_streamOn h).fixtures
  streamOff h _ hc := ample_of_streamOff h hc
  status h _ hc := hc.of_fixtures (sameHoldings_of_handleStatus h).fixtures
  timeout h _ hc := hc.of_fixtures (sameHoldings_of_checkTimeout h).fixtures
  maskAll _ hc := hc
  report _ _ _ hc := hc
  shutdown h _ _ := by
    intro buffer hbuffer
    rw [(off_of_shutdown h).2.1] at hbuffer
    cases hbuffer

end Operations

/-- **A buffer with room is never refused as invalid**, and preparing it breaks off only over a
backend that has gone astray, for what the chip can capture in a size that the norm accepts. -/
theorem valid_prepare_or_astray {c : Channel HostDma} {g : Geometry} {n : Norm} {i : Nat}
    (hwhole : c.All Setup.Whole) (hample : c.Ample g.imageBytes) (hi : i < c.buffers.length)
    (h : Capturable g n) (haccepts : n.accepts g.width g.height = true) :
    (∃ result c', c.prepare i g n = .ok (result, c') ∧ result ≠ .error .invalidArgument) ∨
      ∃ fault, c.prepare i g n = .error fault ∧ c.dma.Astray fault := by
  have hsited : ∀ buffer ∈ c.buffers, buffer.Sited := fun buffer hbuffer =>
    (hwhole buffer hbuffer).sited
  refine (failsOnly_prepare hsited h i).cases.imp_left fun ⟨⟨result, c'⟩, hprepare⟩ =>
    ⟨result, c', hprepare, ?_⟩
  unfold prepare at hprepare
  split at hprepare
  · rw [← (Prod.mk.inj (pure_eq_ok.mp hprepare)).1]
    exact nofun
  · simp only [List.getElem?_eq_getElem hi] at hprepare
    split at hprepare
    · rw [← (Prod.mk.inj (pure_eq_ok.mp hprepare)).1]
      exact nofun
    · obtain ⟨⟨outcome, buffer', dma'⟩, hbuffer, hsame⟩ := bind_eq_ok.mp hprepare
      obtain ⟨rfl, -⟩ := Prod.mk.inj (pure_eq_ok.mp hsame)
      have hmem : c.buffers[i] ∈ c.buffers := List.getElem_mem hi
      exact CaptureBuffer.valid_of_prepare (hwhole _ hmem) haccepts (hample _ hmem) hbuffer

end Channel

end VideoCapture
