import VideoCapture.Proofs.Dma.Reissue
import VideoCapture.Proofs.Program.Coverage
import VideoCapture.Proofs.Queue.Confinement
import VideoCapture.Proofs.Queue.Holdings

/-!
# A queue that has not got the backend for itself

Several queues may share a backend, and its table has one entry for each index, whichever queue a
buffer of that index belongs to. A queue enters a buffer in the table when it maps it and takes out
what its buffers hold. It touches no entry of an index at which it holds nothing, unless it maps the
buffer there, and a single operation maps one buffer at most. What stood in the table at that index
is given back then, and it is on the free list afterwards, unless the program of the buffer has got
it already.

## Main definitions

* `VideoCapture.CaptureQueue.mappingOf` — the addresses of the chunks that a buffer holds.
* `VideoCapture.Channel.maps` — preparing a buffer maps it.
* `VideoCapture.Channel.Lodged` — what buffers hold stands in the table.
* `VideoCapture.Channel.Tends` — what an operation does to buffers and table.

## Main results

* `VideoCapture.CaptureBuffer.reissued_of_prepare` — mapping a buffer gives back what stood in the
  table.
* `VideoCapture.Channel.tends_of_prepare`, `VideoCapture.Channel.tends_of_perform` — no operation
  touches entries of others, unless it maps a buffer of the same index.
-/

set_option autoImplicit false

namespace VideoCapture

/-- A list that covers any bytes has a chunk that is not empty.

**Proof sketch.** Along the chunks: if the first is empty, the others cover as many bytes. -/
lemma ScatterList.exists_of_size {chunks : ScatterList} (h : 0 < size chunks) :
    ∃ chunk ∈ chunks, 0 < chunk.length := by
  induction chunks with
  | nil => cases h
  | cons chunk rest ih =>
    by_cases hlength : 0 < chunk.length
    · exact ⟨chunk, List.mem_cons_self, hlength⟩
    · have hrest : 0 < size rest := by
        simp only [size, List.foldr_cons] at h ⊢
        omega
      obtain ⟨other, hother, hpos⟩ := ih hrest
      exact ⟨other, List.mem_cons_of_mem _ hother, hpos⟩

/-! ## Buffers -/

namespace CaptureBuffer

/-- What a buffer holds is mapped to some memory. -/
def Roomy (buffer : CaptureBuffer) : Prop :=
  ∀ setup, buffer.setup = some setup → 0 < ScatterList.size setup.chunks

section Building

variable {δ : Type} [DmaBackend δ] {dma dma' : δ} {chunks : ScatterList} {geometry : Geometry}
  {norm : Norm} {mode : LineOffset} {program : Program} {index : Nat}
  {buffer buffer' : CaptureBuffer} {result : Except Error Unit}

/-- A program for a geometry transfers lines that are not empty, and all of the image has room. -/
lemma room_of_buildProgram (h : buildProgram dma chunks geometry mode = .ok (.ok program, dma')) :
    0 < geometry.lineBytes ∧ geometry.imageBytes ≤ ScatterList.size chunks := by
  obtain ⟨-, hbuilt, -⟩ | ⟨-, hbuilt, -⟩ | ⟨hroom, layout, hlayout, hbuild⟩ := buildProgram_cases h
  · cases hbuilt
  · cases hbuilt
  · refine ⟨?_, hroom⟩
    obtain ⟨memory, hwrite⟩ := Program.exists_write_of_build hbuild
    obtain ⟨region, hfields, -⟩ := bind_eq_ok.mp hwrite
    obtain ⟨hparts, hbytes⟩ := Geometry.parts_of_layout hlayout
    obtain ⟨part, hpart⟩ := List.exists_mem_of_ne_nil _ hparts
    exact hbytes part hpart ▸ (Program.writes_of_writeFields hfields).1 part hpart

/-- A program for a geometry lies in memory that the backend has handed out for it. -/
lemma exists_memory_of_buildProgram
    (h : buildProgram dma chunks geometry mode = .ok (.ok program, dma')) :
    ∃ size memory, DmaBackend.allocate dma size = (.ok memory, dma') ∧
      program.range = memory.range := by
  obtain ⟨-, hbuilt, -⟩ | ⟨-, hbuilt, -⟩ | ⟨-, layout, -, hbuild⟩ := buildProgram_cases h
  · cases hbuilt
  · cases hbuilt
  · obtain ⟨_, -, hbuilt⟩ | ⟨memory, _, hallocate, hwrite, hbuilt⟩ := Program.build_cases hbuild
    · cases hbuilt
    · obtain rfl := Except.ok.inj hbuilt
      exact ⟨_, memory, hallocate, Program.range_of_write hwrite⟩

/-- An image that a norm accepts is not empty if its lines are not. -/
lemma imageBytes_pos (haccepts : norm.accepts geometry.width geometry.height = true)
    (hline : 0 < geometry.lineBytes) : 0 < geometry.imageBytes := by
  simp only [Norm.accepts, minHeight, Bool.and_eq_true, decide_eq_true_eq] at haccepts
  exact Nat.mul_pos hline (by omega)

/-- Preparing a buffer leaves it mapped to some memory, or holding nothing.

**Proof sketch.** A program that was built has room for an image, and an image of a size that the
norm accepts is not empty. -/
lemma roomy_of_prepare (hroomy : buffer.Roomy)
    (h : buffer.prepare dma index geometry norm mode = .ok (result, buffer', dma')) :
    buffer'.Roomy := by
  intro setup hsetup
  have hbuilt : ∀ {dma₁ : δ} {chunks old},
      buffer.Reprogrammed dma₁ index chunks old geometry norm mode result buffer' dma' →
      0 < ScatterList.size setup.chunks := by
    intro dma₁ chunks old hnew
    have haccepts := (setup_of_prepare h hsetup).2.2
    cases hnew with
    | failed _ => cases hsetup
    | built hbuild =>
      obtain rfl := Option.some.inj hsetup
      obtain ⟨hline, hroom⟩ := room_of_buildProgram hbuild
      exact Nat.lt_of_lt_of_le (imageBytes_pos haccepts hline) hroom
  obtain ⟨-, hdrain⟩ | ⟨-, _, -, -, rfl⟩ | ⟨-, _, _, -, hnew⟩ | ⟨kept, hkept, -, -, rfl, -⟩ |
    ⟨_, -, hnew⟩ := prepare_cases h
  · cases (setup_of_drain hdrain).symm.trans hsetup
  · cases hsetup
  · exact hbuilt hnew
  · obtain rfl := Option.some.inj hsetup
    exact hroomy kept hkept
  · exact hbuilt hnew

/-- Preparing a buffer maps it: it holds nothing, the norm accepts the size, the buffer has the
room, and the backend has the memory. -/
def maps (buffer : CaptureBuffer) (dma : δ) (index : Nat) (geometry : Geometry) (norm : Norm) :
    Bool :=
  !buffer.state.inFlight && norm.accepts geometry.width geometry.height &&
    decide (geometry.imageBytes ≤ buffer.capacity) && buffer.setup.isNone &&
    (DmaBackend.map dma index buffer.capacity).1.toOption.isSome

/-- A buffer that is not mapped and holds nothing goes on to hold nothing, and the backend has at
most been asked for a mapping in vain.

**Proof sketch.** Were the mapping given, the buffer would have passed all that is checked before
it, against the hypothesis that it does not map. So it is drained before a mapping is asked for, or
the mapping is refused. -/
lemma unmapped_of_prepare (hsetup : buffer.setup = none)
    (hmaps : buffer.maps dma index geometry norm = false)
    (h : buffer.prepare dma index geometry norm mode = .ok (result, buffer', dma')) :
    buffer'.setup = none ∧ (dma' = dma ∨ ∃ error,
      DmaBackend.map dma index buffer.capacity = (.error error, dma')) := by
  have hmapped : ∀ {chunks dma₁}, DmaBackend.map dma index buffer.capacity = (.ok chunks, dma₁) →
      buffer.drain dma index = (buffer', dma') := by
    intro chunks dma₁ hmap
    have hidle : buffer.state.inFlight = false := by
      refine Bool.eq_false_iff.mpr fun hflight => ?_
      rw [prepare, if_pos hflight] at h
      cases h
    obtain hdrain | ⟨haccepts, hroom⟩ := accepts_of_prepare h
    · exact hdrain
    · rw [maps, hidle, haccepts, decide_eq_true hroom, hsetup, hmap] at hmaps
      cases hmaps
  have hdrained : buffer.drain dma index = (buffer', dma') →
      buffer'.setup = none ∧ dma' = dma := by
    intro hdrain
    refine ⟨setup_of_drain hdrain, ?_⟩
    rw [drain, hsetup] at hdrain
    exact (Prod.mk.inj hdrain).2.symm
  obtain ⟨-, hdrain⟩ | ⟨-, error, hmap, -, rfl⟩ | ⟨-, _, _, hmap, -⟩ | ⟨_, hsome, -⟩ |
    ⟨_, hsome, -⟩ := prepare_cases h
  · exact (hdrained hdrain).imp_right .inl
  · exact ⟨rfl, .inr ⟨error, hmap⟩⟩
  · exact (hdrained (hmapped hmap)).imp_right .inl
  · cases hsetup.symm.trans hsome
  · cases hsetup.symm.trans hsome

/-- A buffer that is mapped gets the chunks that the backend answers, and a program for them. -/
lemma mapped_of_prepare (hmaps : buffer.maps dma index geometry norm = true)
    (h : buffer.prepare dma index geometry norm mode = .ok (result, buffer', dma')) :
    ∃ chunks dma₁, DmaBackend.map dma index buffer.capacity = (.ok chunks, dma₁) ∧
      buffer.Reprogrammed dma₁ index chunks none geometry norm mode result buffer' dma' := by
  simp only [maps, Bool.and_eq_true, Bool.not_eq_true', decide_eq_true_eq,
    Option.isNone_iff_eq_none] at hmaps
  obtain ⟨⟨⟨⟨hidle, haccepts⟩, hroom⟩, hsetup⟩, hmapped⟩ := hmaps
  rcases hmap : DmaBackend.map dma index buffer.capacity with ⟨error | chunks, dma₁⟩
  · rw [hmap] at hmapped
    cases hmapped
  · refine ⟨chunks, dma₁, rfl, ?_⟩
    unfold prepare at h
    rw [if_neg (by simp [hidle]), if_neg (by simp [haccepts, hroom]), hsetup, hmap] at h
    exact reprogrammed_of_reprogram h

end Building

variable {dma dma' : HostDma} {index : Nat} {geometry : Geometry} {norm : Norm} {mode : LineOffset}
  {buffer buffer' : CaptureBuffer} {result : Except Error Unit}

/-- A program that cannot be had leaves the backend as it is. -/
lemma dma_of_buildProgram_error {chunks : ScatterList} {error : Error}
    (h : buildProgram dma chunks geometry mode = .ok (.error error, dma')) : dma' = dma := by
  obtain ⟨-, -, hdma⟩ | ⟨-, -, hdma⟩ | ⟨-, layout, -, hbuild⟩ := buildProgram_cases h
  · exact hdma
  · exact hdma
  · obtain ⟨_, hallocate, -⟩ | ⟨_, _, -, -, hbuilt⟩ := Program.build_cases hbuild
    · exact HostDma.eq_of_allocate_error hallocate
    · cases hbuilt

/-- A buffer holds nothing exactly if it holds no chunks. -/
lemma addresses_eq_none : buffer.addresses = none ↔ buffer.setup = none :=
  Option.map_eq_none_iff

/-- What preparing the buffer of an index does to it and to the table, whoever else has entries
there. -/
structure Lodges (dma : HostDma) (index : Nat) (buffer' : CaptureBuffer) (dma' : HostDma) :
    Prop where
  /-- The buffer is sited. -/
  sited : buffer'.Sited
  /-- What it holds stands in the table. -/
  table : ∀ addresses, buffer'.addresses = some addresses →
    dma'.mapped.lookup index = some addresses
  /-- No entry of another index has changed. -/
  others : ∀ other, other ≠ index → dma'.mapped.lookup other = dma.mapped.lookup other

/-- A buffer that agrees with the table has what it holds there. -/
lemma Resited.lodges (h : Resited dma index buffer' dma') : Lodges dma index buffer' dma' where
  sited := h.sited
  table addresses haddresses := by rw [h.table, if_pos rfl, haddresses]
  others other hother := by rw [h.table, if_neg hother]

/-- **Preparing a buffer enters in the table what it holds** and leaves other entries alone.

**Proof sketch.** If the buffer holds something the table agrees with it. If it is mapped now it
gets an entry, in place of any that stood there. If it is neither, nothing of the table changes. -/
theorem lodges_of_prepare (hsited : buffer.Sited)
    (hlookup : ∀ addresses, buffer.addresses = some addresses →
      dma.mapped.lookup index = some addresses)
    (h : buffer.prepare dma index geometry norm mode = .ok (result, buffer', dma')) :
    Lodges dma index buffer' dma' := by
  cases hsetup : buffer.setup with
  | some setup =>
    -- what the buffer holds stands in the table, so the buffer agrees with it
    obtain ⟨haddresses, -⟩ := hsited.chunks hsetup
    exact (resited_of_prepare hsited ((hlookup _ haddresses).trans haddresses.symm) h).lodges
  | none =>
    cases hmaps : buffer.maps dma index geometry norm with
    | true =>
      obtain ⟨chunks, dma₁, hmap, hnew⟩ := mapped_of_prepare hmaps h
      obtain ⟨addresses, hchunks, htable⟩ := HostDma.lookup_of_map hmap
      have hlodges := (resited_of_reprogrammed hchunks (by rw [htable, if_pos rfl]) hnew).lodges
      refine ⟨hlodges.sited, hlodges.table, fun other hother => ?_⟩
      rw [hlodges.others other hother, htable, if_neg hother]
    | false =>
      obtain ⟨hnone, hdma⟩ := unmapped_of_prepare hsetup hmaps h
      have hmapped : dma'.mapped = dma.mapped := by
        obtain rfl | ⟨error, hmap⟩ := hdma
        · rfl
        · exact HostDma.mapped_of_map_error hmap
      refine ⟨sited_of_none hnone, fun addresses haddresses => ?_, fun other _ => by rw [hmapped]⟩
      cases (addresses_eq_none.mpr hnone).symm.trans haddresses

/-- **Mapping a buffer gives back what stood in the table**: each span of it is on the free list
afterwards, or it is the memory of the buffer's program. -/
theorem reissued_of_prepare {live : List BusRange} {addresses : List Nat} {span : BusRange}
    (hdma : dma.Accounts live) (hmaps : buffer.maps dma index geometry norm = true)
    (hlookup : dma.mapped.lookup index = some addresses)
    (hspan : span ∈ BusWindow.rangesAt HostDma.chunkSpan addresses)
    (h : buffer.prepare dma index geometry norm mode = .ok (result, buffer', dma')) :
    span ∈ dma'.window.free ∨
      ∃ setup, buffer'.setup = some setup ∧ HostDma.pages setup.program.range = span := by
  have hreach := hdma.span_in_reach hlookup hspan
  obtain ⟨chunks, dma₁, hmap, hnew⟩ := mapped_of_prepare hmaps h
  have hfree : span ∈ dma₁.window.free := HostDma.mem_free_of_map hmap hlookup hspan
  cases hnew with
  | failed hbuild =>
    refine .inl (HostDma.mem_free_unmap_of_mem index ?_)
    rwa [dma_of_buildProgram_error hbuild]
  | built hbuild =>
    obtain ⟨size, memory, hallocate, hrange⟩ := exists_memory_of_buildProgram hbuild
    refine (HostDma.mem_free_of_allocate hallocate hfree hreach).imp_right fun hpages => ?_
    exact ⟨_, rfl, hrange ▸ hpages⟩

/-- Whether there is memory for what a buffer holds does not depend on scheduling. -/
lemma roomy_fixture {buffer : CaptureBuffer} : buffer.fixture.Roomy ↔ buffer.Roomy := by
  unfold Roomy fixture
  cases buffer.setup <;> simp [Setup.untied]

/-- Draining a buffer leaves entries of other indices alone, and all entries if the buffer holds
nothing. -/
lemma lookup_of_drain {other : Nat} (hother : other = index → buffer.addresses = none)
    (h : buffer.drain dma index = (buffer', dma')) :
    dma'.mapped.lookup other = dma.mapped.lookup other := by
  unfold drain at h
  split at h
  · obtain ⟨-, rfl⟩ := Prod.mk.inj h
    rfl
  · next setup hsetup =>
    obtain ⟨-, rfl⟩ := Prod.mk.inj h
    have hne : other ≠ index := fun heq => by
      cases (addresses_eq_none.mp (hother heq)).symm.trans hsetup
    exact (HostDma.lookup_unmap _ index other).trans (if_neg hne)

end CaptureBuffer

/-- **Releasing buffers takes no entry out of the table at an index at which nothing is held.**

**Proof sketch.** Induction on the buffers, of which each has its own index. -/
theorem lookup_of_releaseAll {dma dma' : HostDma} {index other : Nat}
    {buffers released : List CaptureBuffer}
    (hnone : ∀ k, other = index + k → buffers[k]?.bind CaptureBuffer.addresses = none)
    (h : releaseAll dma index buffers = .ok (released, dma')) :
    dma'.mapped.lookup other = dma.mapped.lookup other := by
  induction buffers generalizing dma index released with
  | nil =>
    obtain ⟨-, rfl⟩ := Prod.mk.inj (pure_eq_ok.mp h)
    rfl
  | cons buffer buffers ih =>
    simp only [releaseAll, bind_eq_ok, pure_eq_ok, Prod.mk.injEq] at h
    obtain ⟨⟨empty, dma₁⟩, hrelease, ⟨rest, dma₂⟩, hrest, -, rfl⟩ := h
    unfold CaptureBuffer.release at hrelease
    split at hrelease
    · cases hrelease
    · have hdrain : buffer.drain dma index = (empty, dma₁) := by simpa using hrelease
      have hfirst := CaptureBuffer.lookup_of_drain (fun heq => hnone 0 heq) hdrain
      refine (ih (fun k hk => ?_) hrest).trans hfirst
      have hbehind := hnone (k + 1) (by omega)
      rwa [List.getElem?_cons_succ] at hbehind

/-! ## Queues -/

/-- The addresses of the chunks that the buffer of an index holds. -/
def CaptureQueue.mappingOf (q : CaptureQueue) (i : Nat) : Option (List Nat) :=
  q.buffers[i]?.bind CaptureBuffer.addresses

/-- A buffer holds chunks if and only if it holds anything. -/
lemma CaptureQueue.mappingOf_eq_none {q : CaptureQueue} {i : Nat} :
    q.mappingOf i = none ↔ q.setupOf i = none := by
  simp only [mappingOf, setupOf, Option.bind_eq_none_iff, CaptureBuffer.addresses_eq_none]

/-- Where no buffer holds anything there are no chunks. -/
lemma CaptureQueue.mappingOf_of_empty {q : CaptureQueue}
    (hempty : ∀ buffer ∈ q.buffers, buffer.setup = none) (i : Nat) : q.mappingOf i = none := by
  refine Option.bind_eq_none_iff.mpr fun buffer hbuffer => ?_
  exact CaptureBuffer.addresses_eq_none.mpr (hempty buffer (List.mem_of_getElem? hbuffer))

namespace Channel

open CaptureQueue (Operation Answer)
open BusWindow (rangesAt)

variable {c c₁ c' : Channel HostDma} {i : Nat} {geometry : Geometry} {norm : Norm}

/-- What the buffers of a queue hold stands in the table, whatever else stands there. -/
structure Lodged (c : Channel HostDma) : Prop where
  /-- The table has the chunks of each buffer that holds any. -/
  table : ∀ i addresses, c.mappingOf i = some addresses →
    c.dma.mapped.lookup i = some addresses
  /-- Every buffer is sited. -/
  sited : ∀ buffer ∈ c.buffers, buffer.Sited
  /-- What a buffer holds is mapped to some memory. -/
  roomy : ∀ buffer ∈ c.buffers, buffer.Roomy

/-- Where nothing is held nothing needs to stand in the table. -/
lemma lodged_of_empty (hempty : ∀ buffer ∈ c.buffers, buffer.setup = none) : c.Lodged where
  table i addresses haddresses := by
    cases (CaptureQueue.mappingOf_of_empty hempty i).symm.trans haddresses
  sited buffer hbuffer := CaptureBuffer.sited_of_none (hempty buffer hbuffer)
  roomy buffer hbuffer setup hsetup := by cases (hempty buffer hbuffer).symm.trans hsetup

/-- Scheduling leaves chunks and table alone. -/
lemma Lodged.of_sameHoldings (hc : c.Lodged) (h : c.SameHoldings c') : c'.Lodged where
  table i addresses haddresses := by
    rw [h.dma]
    exact hc.table i addresses
      ((CaptureQueue.bind_addresses_of_fixtures h.fixtures i).symm.trans haddresses)
  sited := CaptureQueue.forall_of_fixtures (fun _ => CaptureBuffer.sited_fixture) h.fixtures
    hc.sited
  roomy := CaptureQueue.forall_of_fixtures (fun _ => CaptureBuffer.roomy_fixture) h.fixtures
    hc.roomy

/-- What others do to the table does not matter while they leave the entries of buffers alone. -/
lemma Lodged.of_lookup (hc : c.Lodged) (hqueue : c'.toCaptureQueue = c.toCaptureQueue)
    (hlookup : ∀ i, c.mappingOf i ≠ none →
      c'.dma.mapped.lookup i = c.dma.mapped.lookup i) : c'.Lodged where
  table i addresses haddresses := by
    rw [hqueue] at haddresses
    rw [hlookup i (haddresses ▸ nofun)]
    exact hc.table i addresses haddresses
  sited := hqueue ▸ hc.sited
  roomy := hqueue ▸ hc.roomy

/-- The chunks of a buffer, if there are any, are those that the table has for it. -/
lemma Lodged.lookup_of_mem (hc : c.Lodged) {buffer : CaptureBuffer} {range : BusRange}
    (hbuffer : c.buffers[i]? = some buffer) (hrange : range ∈ buffer.chunkRanges) :
    ∃ addresses, c.mappingOf i = some addresses ∧ c.dma.mapped.lookup i = some addresses ∧
      buffer.chunkRanges = (HostDma.chunksAt buffer.capacity addresses).map Chunk.range := by
  obtain ⟨addresses, haddresses, hchunks⟩ :=
    (hc.sited buffer (List.mem_of_getElem? hbuffer)).chunkRanges_eq hrange
  have hmapping : c.mappingOf i = some addresses :=
    Option.bind_eq_some_iff.mpr ⟨buffer, hbuffer, haddresses⟩
  exact ⟨addresses, hmapping, hc.table i addresses hmapping, hchunks⟩

/-- A buffer that holds anything has a chunk that is not empty, at the beginning of one of the spans
that the table has for its index. -/
lemma Lodged.exists_chunk (hc : c.Lodged) {setup : Setup} (hsetup : c.setupOf i = some setup) :
    ∃ addresses, c.dma.mapped.lookup i = some addresses ∧
      ∃ chunk ∈ c.buffers.flatMap CaptureBuffer.chunkRanges,
        ∃ span ∈ rangesAt HostDma.chunkSpan addresses,
          chunk.address = span.address ∧ 0 < chunk.size ∧ 0 < span.size := by
  obtain ⟨buffer, hbuffer, hsome⟩ := Option.bind_eq_some_iff.mp hsetup
  have hmem : buffer ∈ c.buffers := List.mem_of_getElem? hbuffer
  have haddresses := ((hc.sited buffer hmem).chunks hsome).1
  obtain ⟨chunk, hchunk, hlength⟩ :=
    ScatterList.exists_of_size (hc.roomy buffer hmem setup hsome)
  refine ⟨_, hc.table i _ (Option.bind_eq_some_iff.mpr ⟨buffer, hbuffer, haddresses⟩),
    chunk.range, List.mem_flatMap.mpr ⟨buffer, hmem, ?_⟩, _,
    List.mem_map_of_mem (List.mem_map_of_mem hchunk), rfl, hlength, HostDma.wholePages_span_pos⟩
  rw [CaptureBuffer.chunkRanges, hsome]
  exact List.mem_map_of_mem hchunk

/-- What an operation does to the buffers of a queue and to the table, if it maps the buffer of the
given index, or none. Others may have memory and entries too. -/
structure Tends (index? : Option Nat) (c c' : Channel HostDma) : Prop where
  /-- The backend goes on to account for the programs. -/
  stocked : ∀ others, c.Stocked others → c'.Stocked others
  /-- What the buffers hold stands in the table afterwards. -/
  lodged : c.Lodged → c'.Lodged
  /-- Nothing comes to be held, and no entry changes, at another index at which nothing was held. -/
  spared : c.Lodged → ∀ i, index? ≠ some i → c.mappingOf i = none →
    c'.mappingOf i = none ∧ c'.dma.mapped.lookup i = c.dma.mapped.lookup i
  /-- What stood in the table for the buffer that is mapped is given back: each span of it is on the
  free list afterwards, unless a program lies there. -/
  reissued : ∀ i ∈ index?, ∀ others addresses, c.Stocked others →
    c.dma.mapped.lookup i = some addresses → ∀ span ∈ rangesAt HostDma.chunkSpan addresses,
      span ∈ c'.dma.window.free ∨ ∃ range ∈ c'.ranges, HostDma.pages range = span

/-- Scheduling tends to nothing. -/
lemma tends_of_sameHoldings (h : c.SameHoldings c') : Tends none c c' where
  stocked _ hc := hc.of_sameHoldings h
  lodged hc := hc.of_sameHoldings h
  spared _ i _ hnone :=
    ⟨(CaptureQueue.bind_addresses_of_fixtures h.fixtures i).trans hnone, by rw [h.dma]⟩
  reissued := nofun

/-- Where nothing is mapped one may go on. -/
lemma Tends.trans (h : Tends none c c₁) (h' : Tends none c₁ c') : Tends none c c' where
  stocked others hc := h'.stocked others (h.stocked others hc)
  lodged hc := h'.lodged (h.lodged hc)
  spared hc i hi hnone := by
    obtain ⟨hnone₁, hlookup₁⟩ := h.spared hc i hi hnone
    obtain ⟨hnone', hlookup'⟩ := h'.spared (h.lodged hc) i hi hnone₁
    exact ⟨hnone', hlookup'.trans hlookup₁⟩
  reissued := nofun

/-- Scheduling may come after anything. -/
lemma Tends.followed {index? : Option Nat} (h : Tends index? c c₁) (hsame : c₁.SameHoldings c') :
    Tends index? c c' where
  stocked others hc := (h.stocked others hc).of_sameHoldings hsame
  lodged hc := (h.lodged hc).of_sameHoldings hsame
  spared hc i hi hnone := by
    obtain ⟨hnone₁, hlookup⟩ := h.spared hc i hi hnone
    refine ⟨(CaptureQueue.bind_addresses_of_fixtures hsame.fixtures i).trans hnone₁, ?_⟩
    rw [hsame.dma, hlookup]
  reissued i hi others addresses hc hlookup span hspan := by
    rw [hsame.dma, CaptureQueue.ranges_eq_of_fixtures hsame.fixtures hsame.stopper]
    exact h.reissued i hi others addresses hc hlookup span hspan

/-! ## Releasing buffers -/

/-- A queue of which all buffers were released tends to none. -/
lemma tends_of_release {given released : List CaptureBuffer} {dma : HostDma}
    (hstocked : ∀ others, c.Stocked others → c'.Stocked others)
    (hgiven : given.map CaptureBuffer.addresses = c.buffers.map CaptureBuffer.addresses)
    (hrelease : releaseAll c.dma 0 given = .ok (released, dma)) (hdma : c'.dma = dma)
    (hempty : ∀ buffer ∈ c'.buffers, buffer.setup = none) : Tends none c c' where
  stocked := hstocked
  lodged _ := lodged_of_empty hempty
  spared _ i _ hnone := by
    refine ⟨CaptureQueue.mappingOf_of_empty hempty i, hdma ▸ lookup_of_releaseAll ?_ hrelease⟩
    intro k hk
    obtain rfl : i = k := hk.trans (Nat.zero_add k)
    have hview := congrArg (fun l => l[i]?.bind id) hgiven
    simp only [List.getElem?_map, Option.bind_map, Function.id_comp] at hview
    exact hview.trans hnone
  reissued := nofun

/-- Replacing the buffers gives back what they hold. -/
lemma tends_of_requestBuffers {count capacity : Nat} {result : Except Error Nat}
    (h : c.requestBuffers count capacity = .ok (result, c')) : Tends none c c' := by
  have hstocked := fun others (hc : c.Stocked others) => stocked_of_requestBuffers hc h
  obtain ⟨-, -, rfl⟩ | ⟨-, released, dma, hrelease, -, rfl⟩ := requestBuffers_cases h
  · exact tends_of_sameHoldings (.refl _)
  · refine tends_of_release hstocked rfl hrelease rfl fun buffer hbuffer => ?_
    rw [(List.mem_replicate.mp hbuffer).2]

/-- So does stopping capture. -/
lemma tends_of_streamOff {result : Except Error Unit} (h : c.streamOff = .ok (result, c')) :
    Tends none c c' := by
  have hstocked := fun others (hc : c.Stocked others) => stocked_of_streamOff hc h
  obtain ⟨-, -, rfl⟩ | ⟨-, -, buffers, dma, hrelease, rfl⟩ := streamOff_cases h
  · exact tends_of_sameHoldings (.refl _)
  · obtain ⟨rfl, -⟩ := released_of_releaseAll hrelease
    have hgiven : (c.buffers.map fun buffer => { buffer with state := .error }).map
        CaptureBuffer.addresses = c.buffers.map CaptureBuffer.addresses := List.map_map
    refine tends_of_release hstocked hgiven hrelease rfl fun buffer hbuffer => ?_
    obtain ⟨_, -, rfl⟩ := List.mem_map.mp hbuffer
    rfl

/-- So does shutting down. -/
lemma tends_of_shutdown (h : c.shutdown = .ok c') : Tends none c c' := by
  obtain ⟨c₁, ⟨-, rfl⟩ | ⟨-, _, hoff⟩, _, hrequest⟩ := shutdown_cases h
  · exact tends_of_requestBuffers hrequest
  · exact (tends_of_streamOff hoff).trans (tends_of_requestBuffers hrequest)

/-! ## Preparing a buffer -/

/-- Preparing the buffer of an index maps it: it is not handed in, and it is mapped. -/
def maps (c : Channel HostDma) (i : Nat) (geometry : Geometry) (norm : Norm) : Bool :=
  !c.stream.contains i && c.buffers[i]?.any fun buffer => buffer.maps c.dma i geometry norm

/-- The index at which preparing a buffer maps it, if it does. -/
def mapped? (c : Channel HostDma) (i : Nat) (geometry : Geometry) (norm : Norm) : Option Nat :=
  if c.maps i geometry norm then some i else none

/-- What is not there is not mapped. -/
lemma mapped?_of_length_le (h : c.buffers.length ≤ i) : c.mapped? i geometry norm = none := by
  rw [mapped?, maps, List.getElem?_eq_none h, Option.any_none, Bool.and_false, if_neg nofun]

/-- A buffer that is mapped is there and holds nothing, and it is worked on. -/
lemma prepare_of_maps {result : Except Error Unit} (hmaps : c.maps i geometry norm = true)
    (h : c.prepare i geometry norm = .ok (result, c')) : ∃ buffer buffer' dma,
      c.buffers[i]? = some buffer ∧ buffer.maps c.dma i geometry norm = true ∧
      buffer.prepare c.dma i geometry norm c.lineOffset = .ok (result, buffer', dma) ∧
      c' = { c with buffers := c.buffers.set i buffer', dma } := by
  simp only [maps, Bool.and_eq_true, Bool.not_eq_true', Option.any_eq_true_iff_get] at hmaps
  obtain ⟨hstream, hsome, hmaps⟩ := hmaps
  obtain ⟨buffer, hbuffer⟩ := Option.isSome_iff_exists.mp hsome
  simp only [hbuffer, Option.get_some] at hmaps
  have hidle : buffer.state.inFlight = false := by
    simp only [CaptureBuffer.maps, Bool.and_eq_true, Bool.not_eq_true'] at hmaps
    exact hmaps.1.1.1.1
  simp only [prepare, hstream, hbuffer, hidle, Bool.false_eq_true, if_false] at h
  obtain ⟨⟨_, buffer', dma⟩, hprepare, h⟩ := bind_eq_ok.mp h
  obtain ⟨rfl, rfl⟩ := Prod.mk.inj (pure_eq_ok.mp h)
  exact ⟨buffer, buffer', dma, hbuffer, hmaps, hprepare, rfl⟩

section Prepared

variable {buffer buffer' : CaptureBuffer} {dma : HostDma} {result : Except Error Unit}

/-- A buffer that was prepared has what it holds in the table, and the others still have.

**Proof sketch.** At its own index the table has what the buffer holds now. Other entries are left
alone, and other buffers are as they were. -/
lemma Lodged.set (hc : c.Lodged) (hbuffer : c.buffers[i]? = some buffer)
    (hprepare : buffer.prepare c.dma i geometry norm c.lineOffset = .ok (result, buffer', dma)) :
    Lodged { c with buffers := c.buffers.set i buffer', dma } := by
  have hi : i < c.buffers.length := (List.getElem?_eq_some_iff.mp hbuffer).1
  have hmem : buffer ∈ c.buffers := List.mem_of_getElem? hbuffer
  have hlodges := CaptureBuffer.lodges_of_prepare (hc.sited buffer hmem)
    (fun addresses haddresses => hc.table i addresses (Option.bind_eq_some_iff.mpr
      ⟨buffer, hbuffer, haddresses⟩)) hprepare
  refine ⟨fun j addresses haddresses => ?_, fun b hb => ?_, fun b hb => ?_⟩
  · obtain ⟨b, hb, haddresses⟩ := Option.bind_eq_some_iff.mp haddresses
    by_cases hj : j = i
    · subst hj
      obtain rfl := Option.some.inj ((List.getElem?_set_self hi).symm.trans hb)
      exact hlodges.table addresses haddresses
    · refine (hlodges.others j hj).trans (hc.table j addresses ?_)
      have hkept := (List.getElem?_set_ne (Ne.symm hj)).symm.trans hb
      exact Option.bind_eq_some_iff.mpr ⟨b, hkept, haddresses⟩
  · obtain hb | rfl := List.mem_or_eq_of_mem_set hb
    · exact hc.sited b hb
    · exact hlodges.sited
  · obtain hb | rfl := List.mem_or_eq_of_mem_set hb
    · exact hc.roomy b hb
    · exact CaptureBuffer.roomy_of_prepare (hc.roomy buffer hmem) hprepare

/-- No other index is concerned, nor is that of a buffer that holds nothing and is not mapped.

**Proof sketch.** At another index neither the buffers nor the table change. At its own index the
buffer is not mapped, so that it goes on holding nothing. -/
lemma Lodged.spared_of_set (hc : c.Lodged) (hbuffer : c.buffers[i]? = some buffer)
    (hprepare : buffer.prepare c.dma i geometry norm c.lineOffset = .ok (result, buffer', dma))
    {j : Nat} (hj : j = i → buffer.maps c.dma i geometry norm = false)
    (hnone : c.mappingOf j = none) :
    CaptureQueue.mappingOf { c with buffers := c.buffers.set i buffer' } j = none ∧
      dma.mapped.lookup j = c.dma.mapped.lookup j := by
  have hi : i < c.buffers.length := (List.getElem?_eq_some_iff.mp hbuffer).1
  have hmem : buffer ∈ c.buffers := List.mem_of_getElem? hbuffer
  by_cases hsame : j = i
  · subst hsame
    have hsetup : buffer.setup = none := by
      refine CaptureBuffer.addresses_eq_none.mp ?_
      rwa [CaptureQueue.mappingOf, hbuffer, Option.bind_some] at hnone
    obtain ⟨hnone', hdma⟩ := CaptureBuffer.unmapped_of_prepare hsetup (hj rfl) hprepare
    constructor
    · rw [CaptureQueue.mappingOf, List.getElem?_set_self hi, Option.bind_some]
      exact CaptureBuffer.addresses_eq_none.mpr hnone'
    · obtain rfl | ⟨error, hmap⟩ := hdma
      · rfl
      · rw [HostDma.mapped_of_map_error hmap]
  · have hlodges := CaptureBuffer.lodges_of_prepare (hc.sited buffer hmem)
      (fun addresses haddresses => hc.table i addresses (Option.bind_eq_some_iff.mpr
        ⟨buffer, hbuffer, haddresses⟩)) hprepare
    refine ⟨?_, hlodges.others j hsame⟩
    rw [CaptureQueue.mappingOf, List.getElem?_set_ne (Ne.symm hsame)]
    exact hnone

end Prepared

/-- **Preparing a buffer touches no entry at which nothing is held**, unless it maps the buffer
there. Then it gives back what stood there.

**Proof sketch.** If the buffer is mapped, all that changes is its own entry, and what stood there
is given back or reused. If it is not, no entry changes at which nothing is held. -/
theorem tends_of_prepare {result : Except Error Unit}
    (h : c.prepare i geometry norm = .ok (result, c')) :
    Tends (c.mapped? i geometry norm) c c' := by
  have hstocked := fun others (hc : c.Stocked others) => stocked_of_prepare hc h
  cases hmaps : c.maps i geometry norm with
  | true =>
    rw [mapped?, hmaps, if_pos rfl]
    obtain ⟨buffer, buffer', dma, hbuffer, hbuffermaps, hprepare, rfl⟩ := prepare_of_maps hmaps h
    refine ⟨hstocked, fun hc => hc.set hbuffer hprepare, fun hc j hj hnone => ?_, ?_⟩
    · exact hc.spared_of_set hbuffer hprepare (fun heq => absurd (congrArg some heq.symm) hj) hnone
    · intro _ hi others addresses hc hlookup span hspan
      obtain rfl := Option.some.inj hi
      have hreissued := CaptureBuffer.reissued_of_prepare hc.holds hbuffermaps hlookup hspan
        hprepare
      refine hreissued.imp_right ?_
      rintro ⟨setup, hsetup, hpages⟩
      refine ⟨setup.program.range, List.mem_cons_of_mem _ (List.mem_flatMap.mpr
        ⟨buffer', ?_, ?_⟩), hpages⟩
      · exact List.mem_set (List.getElem?_eq_some_iff.mp hbuffer).1 buffer'
      · rw [CaptureBuffer.ranges, hsetup]
        exact List.mem_singleton_self _
  | false =>
    rw [mapped?, hmaps, if_neg Bool.false_ne_true]
    obtain ⟨_, -, rfl⟩ | ⟨buffer, buffer', dma, hstream, hbuffer, -, hprepare, rfl⟩ :=
      prepare_cases h
    · exact tends_of_sameHoldings (.refl _)
    · have hunmapped : buffer.maps c.dma i geometry norm = false := by
        rw [maps, hbuffer, List.contains_eq_mem, decide_eq_false hstream] at hmaps
        exact hmaps
      refine ⟨hstocked, fun hc => hc.set hbuffer hprepare, fun hc j _ hnone => ?_, ?_⟩
      · exact hc.spared_of_set hbuffer hprepare (fun _ => hunmapped) hnone
      · intro _ hi
        cases hi

/-! ## All operations -/

/-- The index at which an operation maps a buffer, if it does. -/
def mapping? (c : Channel HostDma) : Operation → Option Nat
  | .prepare i geometry norm => c.mapped? i geometry norm
  | _ => none

/-- **No operation touches an entry at which nothing is held**, unless it maps a buffer there. -/
theorem tends_of_perform {operation : Operation} {answer : Answer}
    (h : c.perform operation = .ok (answer, c')) : Tends (c.mapping? operation) c c' := by
  have hall : Responding fun operation (_ : Answer) (c c' : Channel HostDma) =>
      Tends (c.mapping? operation) c c' :=
    { request := tends_of_requestBuffers
      prepare := tends_of_prepare
      enqueue := fun h => tends_of_sameHoldings (sameHoldings_of_enqueue h)
      dequeue := fun h => tends_of_sameHoldings (sameHoldings_of_dequeue h)
      streamOn := fun h => tends_of_sameHoldings (sameHoldings_of_streamOn h)
      streamOff := tends_of_streamOff
      status := fun h => tends_of_sameHoldings (sameHoldings_of_handleStatus h)
      timeout := fun h => tends_of_sameHoldings (sameHoldings_of_checkTimeout h)
      maskAll := tends_of_sameHoldings ⟨rfl, rfl, rfl⟩
      report := fun _ _ => tends_of_sameHoldings ⟨rfl, rfl, rfl⟩
      shutdown := tends_of_shutdown }
  exact hall.of_perform h

/-- Serving an interrupt is scheduling.

**Proof sketch.** Induction on the looks at the status. -/
lemma sameHoldings_of_interrupt {sense : Channel HostDma → UInt32} {now : Int}
    {handled mine : Bool} {passes : Nat}
    (h : c.interrupt sense now handled passes = .ok (mine, c')) : c.SameHoldings c' := by
  induction passes generalizing c handled with
  | zero =>
    obtain ⟨-, rfl⟩ := Prod.mk.inj (pure_eq_ok.mp h)
    exact ⟨rfl, rfl, rfl⟩
  | succ passes ih =>
    simp only [interrupt] at h
    split at h
    · obtain ⟨-, rfl⟩ := Prod.mk.inj (pure_eq_ok.mp h)
      exact .refl _
    · obtain ⟨⟨acted, c₁⟩, hstatus, hrest⟩ := bind_eq_ok.mp h
      exact (sameHoldings_of_handleStatus hstatus).trans (ih hrest)

end Channel

end VideoCapture
