import VideoCapture.Proofs.Dma.Mapping
import VideoCapture.Proofs.Field.Confinement
import VideoCapture.Proofs.Queue.Chain
import VideoCapture.Proofs.Queue.Setups

/-!
# The engine writes to mapped memory only

The programs of a queue tell the engine where to write. Buffers come to be mapped and are unmapped
again, programs are kept while the mapping they were written for is kept, and the addresses that are
given back are handed out anew. Through all of this the table of the backend and the programs agree:
a buffer that holds a program is mapped to the chunks that the program was written for.

So what an active or queued buffer has the engine write lies in chunks of that buffer, which are
mapped, and neither a program nor another buffer lies there.

## Main definitions

* `VideoCapture.Channel.Sited` — the table agrees with what the buffers hold.
* `VideoCapture.Channel.Confined` — the engine writes to mapped memory only.

## Main results

* `VideoCapture.CaptureBuffer.resited_of_prepare` — preparing a buffer, however it ends.
* `VideoCapture.table_of_releaseAll` — releasing buffers.
* `VideoCapture.Channel.keeping_sited` — no operation makes table and programs disagree.
* `VideoCapture.Channel.confined_of_reaches` — the engine writes to mapped memory only.
-/

set_option autoImplicit false

namespace VideoCapture

/-- An address lies in a range. -/
def FreeRange.Has (range : BusRange) (address : Nat) : Prop :=
  range.address ≤ address ∧ address < range.address + range.size

/-! ## Buffers -/

namespace CaptureBuffer

/-- The addresses of the chunks that a buffer was mapped to, if it holds anything. -/
def addresses (buffer : CaptureBuffer) : Option (List Nat) :=
  buffer.setup.map fun setup => setup.chunks.map Chunk.address

/-- The bus addresses of the chunks of a buffer. -/
def chunkRanges (buffer : CaptureBuffer) : List BusRange :=
  (buffer.setup.map fun setup => setup.chunks.map Chunk.range).getD []

/-- What a buffer holds was made for a mapping of its capacity, and its program keeps to that. -/
def Sited (buffer : CaptureBuffer) : Prop :=
  ∀ setup, buffer.setup = some setup →
    (∃ addresses, setup.chunks = HostDma.chunksAt buffer.capacity addresses) ∧
      setup.program.Within setup.chunks

/-- Scheduling leaves the chunks of a buffer alone. -/
lemma addresses_fixture (buffer : CaptureBuffer) : buffer.fixture.addresses = buffer.addresses := by
  unfold addresses fixture
  cases buffer.setup <;> rfl

/-- Scheduling leaves a buffer sited. -/
lemma sited_fixture {buffer : CaptureBuffer} : buffer.fixture.Sited ↔ buffer.Sited := by
  unfold Sited fixture
  cases hsetup : buffer.setup with
  | none => simp
  | some setup => simp [Setup.untied, Program.within_untied]

/-- A buffer that holds nothing is sited. -/
lemma sited_of_none {buffer : CaptureBuffer} (h : buffer.setup = none) : buffer.Sited := by
  intro setup hsetup
  cases h.symm.trans hsetup

/-- A sited buffer holds chunks as they are mapped. -/
lemma Sited.chunks {buffer : CaptureBuffer} {setup : Setup} (h : buffer.Sited)
    (hsetup : buffer.setup = some setup) :
    buffer.addresses = some (setup.chunks.map Chunk.address) ∧
      setup.chunks = HostDma.chunksAt buffer.capacity (setup.chunks.map Chunk.address) := by
  refine ⟨by rw [addresses, hsetup]; rfl, ?_⟩
  obtain ⟨⟨addresses, hchunks⟩, -⟩ := h setup hsetup
  rw [hchunks, HostDma.map_address_chunksAt]

/-- The chunks of a sited buffer, if there are any, are those of a mapping. -/
lemma Sited.chunkRanges_eq {buffer : CaptureBuffer} {range : BusRange} (h : buffer.Sited)
    (hrange : range ∈ buffer.chunkRanges) : ∃ addresses, buffer.addresses = some addresses ∧
      buffer.chunkRanges = (HostDma.chunksAt buffer.capacity addresses).map Chunk.range := by
  cases hsetup : buffer.setup with
  | none =>
    rw [chunkRanges, hsetup] at hrange
    cases hrange
  | some setup =>
    obtain ⟨haddresses, hchunks⟩ := h.chunks hsetup
    refine ⟨setup.chunks.map Chunk.address, haddresses, ?_⟩
    rw [chunkRanges, hsetup, ← hchunks]
    rfl

section Building

variable {δ : Type} [DmaBackend δ] {dma dma' : δ} {chunks : ScatterList} {geometry : Geometry}
  {mode : LineOffset} {built : Except Error Program} {program : Program}

/-- A program is built for the chunks it is asked for. -/
lemma within_of_buildProgram (h : buildProgram dma chunks geometry mode = .ok (.ok program, dma')) :
    program.Within chunks := by
  obtain ⟨-, hbuilt, -⟩ | ⟨-, hbuilt, -⟩ | ⟨-, layout, -, hbuild⟩ := buildProgram_cases h
  · cases hbuilt
  · cases hbuilt
  · obtain ⟨memory, hwrite⟩ := Program.exists_write_of_build hbuild
    exact Program.within_of_write hwrite

/-- Building a program asks the backend for coherent memory, if for anything. -/
lemma dma_of_buildProgram (h : buildProgram dma chunks geometry mode = .ok (built, dma')) :
    dma' = dma ∨ ∃ size, dma' = (DmaBackend.allocate dma size).2 := by
  obtain ⟨-, -, rfl⟩ | ⟨-, -, rfl⟩ | ⟨-, layout, -, hbuild⟩ := buildProgram_cases h
  · exact .inl rfl
  · exact .inl rfl
  · refine .inr ⟨Instruction.bytes * layout.allowance, ?_⟩
    obtain ⟨_, hallocate, -⟩ | ⟨_, _, hallocate, -, -⟩ := Program.build_cases hbuild <;>
      rw [hallocate]

end Building

variable {dma dma' : HostDma} {index : Nat} {chunks : ScatterList} {geometry : Geometry}
  {norm : Norm} {mode : LineOffset} {buffer buffer' : CaptureBuffer} {result : Except Error Unit}

/-- Building a program does not show in the table. -/
lemma mapped_of_buildProgram {built : Except Error Program}
    (h : buildProgram dma chunks geometry mode = .ok (built, dma')) :
    dma'.mapped = dma.mapped := by
  obtain rfl | ⟨size, rfl⟩ := dma_of_buildProgram h
  · rfl
  · exact HostDma.mapped_allocate dma size

/-- What becomes of a buffer and of the table when the buffer of an index is worked on: the buffer
is sited, and the table agrees with it and is otherwise the same. -/
structure Resited (dma : HostDma) (index : Nat) (buffer' : CaptureBuffer) (dma' : HostDma) :
    Prop where
  /-- The buffer is sited. -/
  sited : buffer'.Sited
  /-- The table has what it holds, and no other entry has changed. -/
  table : ∀ other, dma'.mapped.lookup other =
    if other = index then buffer'.addresses else dma.mapped.lookup other

/-- A buffer that is emptied leaves the table. -/
lemma resited_emptied (buffer : CaptureBuffer) (h : dma'.mapped = dma.mapped) (index : Nat) :
    Resited dma index buffer.emptied (dma'.unmap index) := by
  refine ⟨sited_of_none rfl, fun other => ?_⟩
  rw [HostDma.lookup_unmap, h]
  rfl

/-- Draining a buffer takes it out of the table. -/
lemma resited_of_drain (hlookup : dma.mapped.lookup index = buffer.addresses)
    (h : buffer.drain dma index = (buffer', dma')) : Resited dma index buffer' dma' := by
  unfold drain at h
  split at h
  · next hsetup =>
    obtain ⟨rfl, rfl⟩ := Prod.mk.inj h
    refine ⟨sited_of_none rfl, fun other => ?_⟩
    by_cases hother : other = index
    · rw [if_pos hother, hother, hlookup, addresses, hsetup]
      rfl
    · rw [if_neg hother]
  · next setup _ =>
    obtain ⟨rfl, rfl⟩ := Prod.mk.inj h
    have hdiscarded : (setup.program.discard dma).mapped = dma.mapped := rfl
    exact resited_emptied buffer hdiscarded index

/-- Giving a mapped buffer a new program makes it sited.

**Proof sketch.** If the program cannot be built the buffer is emptied, with its mapping as it was.
If it can, it lies within its memory, and the chunks are those of the mapping. -/
lemma resited_of_reprogrammed {old : Option Program} {addresses : List Nat}
    (hchunks : chunks = HostDma.chunksAt buffer.capacity addresses)
    (hlookup : dma.mapped.lookup index = some addresses)
    (h : buffer.Reprogrammed dma index chunks old geometry norm mode result buffer' dma') :
    Resited dma index buffer' dma' := by
  have hdiscard : ∀ dma₁ : HostDma,
      (old.elim dma₁ fun program => program.discard dma₁).mapped = dma₁.mapped := by
    intro dma₁
    cases old <;> rfl
  cases h with
  | failed hbuild =>
    exact resited_emptied buffer ((hdiscard _).trans (mapped_of_buildProgram hbuild)) index
  | built hbuild =>
    refine ⟨fun setup hsetup => ?_, fun other => ?_⟩
    · obtain rfl := Option.some.inj hsetup
      exact ⟨⟨addresses, hchunks⟩, within_of_buildProgram hbuild⟩
    · rw [hdiscard, mapped_of_buildProgram hbuild]
      split
      · next hother =>
        rw [hother, hlookup, hchunks]
        exact congrArg some (HostDma.map_address_chunksAt buffer.capacity addresses).symm
      · rfl

/-- **Preparing a buffer makes it sited**, however it ends.

**Proof sketch.** What is mapped now stands in the table, and what was mapped before stood there
already. What gets no program is given back, and its entry with it. -/
theorem resited_of_prepare (hsited : buffer.Sited)
    (hlookup : dma.mapped.lookup index = buffer.addresses)
    (h : buffer.prepare dma index geometry norm mode = .ok (result, buffer', dma')) :
    Resited dma index buffer' dma' := by
  obtain ⟨-, hdrain⟩ | ⟨hsetup, _, hmap, -, rfl⟩ | ⟨hsetup, chunks, dma₁, hmap, hnew⟩ |
    ⟨setup, hsetup, -, -, rfl, rfl⟩ | ⟨setup, hsetup, hnew⟩ := prepare_cases h
  · exact resited_of_drain hlookup hdrain
  · refine ⟨sited_of_none rfl, fun other => ?_⟩
    rw [HostDma.mapped_of_map_error hmap]
    split
    · next hother =>
      rw [hother, hlookup, addresses, hsetup]
      rfl
    · rfl
  · obtain ⟨addresses, hchunks, htable⟩ := HostDma.lookup_of_map hmap
    have hentered : dma₁.mapped.lookup index = some addresses := by rw [htable, if_pos rfl]
    obtain ⟨hsited', htable'⟩ := resited_of_reprogrammed hchunks hentered hnew
    refine ⟨hsited', fun other => ?_⟩
    rw [htable', htable]
    split <;> rfl
  · refine ⟨fun kept hkept => ?_, fun other => ?_⟩
    · obtain rfl := Option.some.inj hkept
      exact hsited setup hsetup
    · split
      · next hother =>
        rw [hother, hlookup, addresses, hsetup]
        rfl
      · rfl
  · obtain ⟨haddresses, hchunks⟩ := hsited.chunks hsetup
    exact resited_of_reprogrammed hchunks (hlookup.trans haddresses) hnew

end CaptureBuffer

/-- **Buffers that are released leave the table**, and others stay in it.

**Proof sketch.** Induction on the buffers. Each is taken out, and those behind it have other
indices. -/
theorem table_of_releaseAll {dma dma' : HostDma} {index : Nat}
    {buffers released : List CaptureBuffer}
    (htable : ∀ k : Nat, dma.mapped.lookup (index + k) = buffers[k]?.bind CaptureBuffer.addresses)
    (h : releaseAll dma index buffers = .ok (released, dma')) :
    (∀ k, dma'.mapped.lookup (index + k) = none) ∧
      ∀ other < index, dma'.mapped.lookup other = dma.mapped.lookup other := by
  induction buffers generalizing dma index released with
  | nil =>
    obtain ⟨-, rfl⟩ := Prod.mk.inj (pure_eq_ok.mp h)
    exact ⟨fun k => (htable k).trans rfl, fun _ _ => rfl⟩
  | cons buffer buffers ih =>
    simp only [releaseAll, bind_eq_ok, pure_eq_ok, Prod.mk.injEq] at h
    obtain ⟨⟨empty, dma₁⟩, hrelease, ⟨rest, dma₂⟩, hrest, -, rfl⟩ := h
    unfold CaptureBuffer.release at hrelease
    split at hrelease
    · cases hrelease
    · have hdrain : buffer.drain dma index = (empty, dma₁) := by simpa using hrelease
      have hempty : empty.addresses = none := by
        rw [CaptureBuffer.addresses, CaptureBuffer.setup_of_drain hdrain]
        rfl
      have hdrained := (CaptureBuffer.resited_of_drain (htable 0) hdrain).table
      have hbehind : ∀ k, dma₁.mapped.lookup (index + 1 + k) =
          buffers[k]?.bind CaptureBuffer.addresses := by
        intro k
        rw [hdrained, if_neg (by omega), show index + 1 + k = index + (k + 1) by omega,
          htable (k + 1), List.getElem?_cons_succ]
      obtain ⟨hgone, hkept⟩ := ih hbehind hrest
      refine ⟨fun k => ?_, fun other hother => ?_⟩
      · cases k with
        | zero => exact (hkept index (by omega)).trans ((hdrained index).trans (by simp [hempty]))
        | succ k => rw [show index + (k + 1) = index + 1 + k by omega, hgone]
      · rw [hkept other (by omega), hdrained, if_neg (by omega)]

/-- The chunks of buffers share no address if the table has the chunks of each for its index. -/
lemma HostDma.Accounts.pairwise_chunkRanges {dma : HostDma} {live : List BusRange}
    {buffers : List CaptureBuffer} (hdma : dma.Accounts live)
    (hlookup : ∀ (i : Nat) buffer, buffers[i]? = some buffer → ∀ range ∈ buffer.chunkRanges,
      ∃ addresses, dma.mapped.lookup i = some addresses ∧
        buffer.chunkRanges = (chunksAt buffer.capacity addresses).map Chunk.range) :
    (buffers.flatMap CaptureBuffer.chunkRanges).Pairwise FreeRange.Apart := by
  refine List.pairwise_flatMap.mpr ⟨fun buffer hbuffer => ?_, ?_⟩
  · cases hranges : buffer.chunkRanges with
    | nil => exact .nil
    | cons range rest =>
      obtain ⟨i, hi⟩ := List.mem_iff_getElem?.mp hbuffer
      obtain ⟨addresses, hfound, hchunks⟩ := hlookup i buffer hi range
        (hranges ▸ List.mem_cons_self)
      rw [← hranges, hchunks]
      exact hdma.pairwise_chunks hfound _
  · rw [List.pairwise_iff_getElem]
    intro i j hi hj hij a ha b hb
    obtain ⟨_, hfound, hchunks⟩ := hlookup i _ (List.getElem?_eq_getElem hi) a ha
    obtain ⟨_, hfound', hchunks'⟩ := hlookup j _ (List.getElem?_eq_getElem hj) b hb
    exact hdma.apart_chunks (Nat.ne_of_lt hij) hfound hfound' (hchunks ▸ ha) (hchunks' ▸ hb)

/-! ## Queues -/

/-- What stands at the tail of a program in the chain, or of one that waits for it, is a jump. -/
lemma CaptureQueue.Linked.exists_jump {q : CaptureQueue} {chain waiting : List Nat} {i : Nat}
    (h : q.Linked chain waiting) (hi : i ∈ chain ∨ i ∈ waiting) :
    ∃ target, q.tailOf i = some (.jumpTo target true) := by
  obtain hi | hi := hi
  · obtain ⟨n, hn, rfl⟩ := List.getElem_of_mem hi
    by_cases hnext : n + 1 < chain.length
    · obtain ⟨address, -, htail⟩ := List.isChain_iff_getElem.mp h.points n hnext
      exact ⟨address, htail⟩
    · refine ⟨q.stopper.address, h.last chain[n] ?_⟩
      rw [Option.mem_def, List.getLast?_eq_getElem?, show chain.length - 1 = n by omega,
        List.getElem?_eq_getElem hn]
  · exact ⟨q.stopper.address, h.waiting i hi⟩

/-- Which chunks the buffers hold shows in the fixtures. -/
lemma CaptureQueue.bind_addresses_of_fixtures {q q' : CaptureQueue}
    (h : q'.fixtures = q.fixtures) (i : Nat) :
    q'.buffers[i]?.bind CaptureBuffer.addresses = q.buffers[i]?.bind CaptureBuffer.addresses := by
  have hview : ∀ q : CaptureQueue, q.buffers[i]?.bind CaptureBuffer.addresses =
      q.fixtures[i]?.bind CaptureBuffer.addresses := by
    intro q
    rw [fixtures, List.getElem?_map, Option.bind_map]
    exact congrArg (Option.bind _) (funext fun b => b.addresses_fixture.symm)
  rw [hview, h, ← hview]

/-- What shows in fixtures holds of all buffers as long as the fixtures are the same. -/
lemma CaptureQueue.forall_of_fixtures {P : CaptureBuffer → Prop}
    (hP : ∀ buffer : CaptureBuffer, P buffer.fixture ↔ P buffer) {q q' : CaptureQueue}
    (h : q'.fixtures = q.fixtures) (hq : ∀ buffer ∈ q.buffers, P buffer) :
    ∀ buffer ∈ q'.buffers, P buffer := by
  have hview : ∀ q : CaptureQueue,
      (∀ buffer ∈ q.buffers, P buffer) ↔ ∀ fixture ∈ q.fixtures, P fixture := by
    intro q
    rw [fixtures, List.forall_mem_map]
    exact forall₂_congr fun buffer _ => (hP buffer).symm
  rw [hview, h, ← hview]
  exact hq

namespace Channel

variable {c c' : Channel HostDma}

/-- The table of the backend agrees with what the buffers hold. -/
structure Sited (c : Channel HostDma) : Prop where
  /-- Exactly the buffers that hold something are mapped, to the chunks that they hold. -/
  table : ∀ i, c.dma.mapped.lookup i = c.buffers[i]?.bind CaptureBuffer.addresses
  /-- Every buffer is sited. -/
  buffers : ∀ buffer ∈ c.buffers, buffer.Sited

/-- Scheduling leaves the table and the chunks alone. -/
lemma Sited.of_sameHoldings (hc : c.Sited) (h : c.SameHoldings c') : c'.Sited where
  table i := by
    rw [h.dma, CaptureQueue.bind_addresses_of_fixtures h.fixtures]
    exact hc.table i
  buffers := CaptureQueue.forall_of_fixtures (fun _ => CaptureBuffer.sited_fixture) h.fixtures
    hc.buffers

/-- Where no buffer holds anything nothing is mapped. -/
lemma sited_of_empty (htable : ∀ i, c.dma.mapped.lookup i = none)
    (hempty : ∀ buffer ∈ c.buffers, buffer.setup = none) : c.Sited := by
  refine ⟨fun i => (htable i).trans ?_, fun buffer hbuffer =>
    CaptureBuffer.sited_of_none (hempty buffer hbuffer)⟩
  cases hbuffer : c.buffers[i]? with
  | none => rfl
  | some buffer =>
    rw [Option.bind_some, CaptureBuffer.addresses, hempty buffer (List.mem_of_getElem? hbuffer)]
    rfl

/-- Releasing all buffers leaves nothing mapped. -/
lemma Sited.table_of_releaseAll {given released : List CaptureBuffer} {dma : HostDma}
    (hc : c.Sited)
    (hgiven : given.map CaptureBuffer.addresses = c.buffers.map CaptureBuffer.addresses)
    (h : releaseAll c.dma 0 given = .ok (released, dma)) : ∀ i, dma.mapped.lookup i = none := by
  have htable : ∀ k : Nat, c.dma.mapped.lookup (0 + k) =
      given[k]?.bind CaptureBuffer.addresses := by
    intro k
    have hk := congrArg (fun l => l[k]?.bind id) hgiven
    simp only [List.getElem?_map, Option.bind_map, Function.id_comp] at hk
    rw [Nat.zero_add, hc.table, hk]
  intro i
  have hgone := (VideoCapture.table_of_releaseAll htable h).1 i
  rwa [Nat.zero_add] at hgone

/-- Replacing the buffers leaves nothing mapped. -/
lemma sited_of_requestBuffers {count capacity : Nat} {result : Except Error Nat} (hc : c.Sited)
    (h : c.requestBuffers count capacity = .ok (result, c')) : c'.Sited := by
  obtain ⟨-, -, rfl⟩ | ⟨-, released, dma, hrelease, -, rfl⟩ := requestBuffers_cases h
  · exact hc
  · refine sited_of_empty (hc.table_of_releaseAll rfl hrelease) fun buffer hbuffer => ?_
    rw [(List.mem_replicate.mp hbuffer).2]

/-- Stopping capture leaves nothing mapped. -/
lemma sited_of_streamOff {result : Except Error Unit} (hc : c.Sited)
    (h : c.streamOff = .ok (result, c')) : c'.Sited := by
  obtain ⟨-, -, rfl⟩ | ⟨-, -, buffers, dma, hrelease, rfl⟩ := streamOff_cases h
  · exact hc
  · obtain ⟨rfl, -⟩ := released_of_releaseAll hrelease
    have hgiven : (c.buffers.map fun buffer => { buffer with state := .error }).map
        CaptureBuffer.addresses = c.buffers.map CaptureBuffer.addresses := List.map_map
    refine sited_of_empty (hc.table_of_releaseAll hgiven hrelease) fun buffer hbuffer => ?_
    obtain ⟨_, -, rfl⟩ := List.mem_map.mp hbuffer
    rfl

/-- Preparing a buffer keeps the table in agreement. -/
lemma sited_of_prepare {i : Nat} {geometry : Geometry} {norm : Norm} {result : Except Error Unit}
    (hc : c.Sited) (h : c.prepare i geometry norm = .ok (result, c')) : c'.Sited := by
  obtain ⟨_, -, rfl⟩ | ⟨buffer, buffer', dma, -, hbuffer, -, hprepare, rfl⟩ := prepare_cases h
  · exact hc
  · have hi : i < c.buffers.length := (List.getElem?_eq_some_iff.mp hbuffer).1
    have hlookup : c.dma.mapped.lookup i = buffer.addresses := by
      rw [hc.table, hbuffer, Option.bind_some]
    have hresited := CaptureBuffer.resited_of_prepare
      (hc.buffers buffer (List.mem_of_getElem? hbuffer)) hlookup hprepare
    refine ⟨fun j => ?_, fun b hb => ?_⟩
    · show dma.mapped.lookup j = (c.buffers.set i buffer')[j]?.bind CaptureBuffer.addresses
      rw [hresited.table]
      by_cases hj : j = i
      · rw [if_pos hj, hj, List.getElem?_set_self hi, Option.bind_some]
      · rw [if_neg hj, List.getElem?_set_ne (Ne.symm hj), hc.table]
    · obtain hb | rfl := List.mem_or_eq_of_mem_set hb
      · exact hc.buffers b hb
      · exact hresited.sited

/-- **No operation makes the table and the programs disagree.** -/
theorem keeping_sited : Keeping fun c : Channel HostDma => c.Sited where
  request := sited_of_requestBuffers
  prepare := sited_of_prepare
  enqueue hc h := hc.of_sameHoldings (sameHoldings_of_enqueue h)
  dequeue hc h := hc.of_sameHoldings (sameHoldings_of_dequeue h)
  streamOn hc h := hc.of_sameHoldings (sameHoldings_of_streamOn h)
  streamOff := sited_of_streamOff
  status hc h := hc.of_sameHoldings (sameHoldings_of_handleStatus h)
  timeout hc h := hc.of_sameHoldings (sameHoldings_of_checkTimeout h)
  maskAll hc := hc.of_sameHoldings ⟨rfl, rfl, rfl⟩
  report _ hc := hc.of_sameHoldings ⟨rfl, rfl, rfl⟩

/-- Making a queue does not show in the table, whether there can be one or not. -/
lemma mapped_of_create {regs : RegisterFile} {dma dma' : HostDma} {config : Config}
    {result : Except Error (Channel HostDma)} (h : create regs dma config = (result, dma')) :
    dma'.mapped = dma.mapped := by
  have hallocated := HostDma.mapped_allocate dma Program.stopperSize
  unfold create Program.stopper at h
  rcases hmemory : DmaBackend.allocate dma Program.stopperSize with ⟨error | memory, dma₁⟩ <;>
    rw [hmemory] at h <;> obtain ⟨-, rfl⟩ := Prod.mk.inj h <;>
    rwa [show dma.allocate Program.stopperSize = _ from hmemory] at hallocated

/-- Where there can be no queue the backend is as it was. -/
lemma dma_of_create_error {regs : RegisterFile} {dma dma' : HostDma} {config : Config}
    {error : Error} (h : create regs dma config = (.error error, dma')) : dma' = dma := by
  unfold create Program.stopper at h
  rcases hmemory : DmaBackend.allocate dma Program.stopperSize with ⟨refusal | memory, dma₁⟩ <;>
    rw [hmemory] at h <;> obtain ⟨hresult, rfl⟩ := Prod.mk.inj h
  · exact HostDma.eq_of_allocate_error hmemory
  · cases hresult

/-- A new queue has nothing mapped if nothing was. -/
lemma sited_of_create {regs : RegisterFile} {dma dma' : HostDma} {config : Config}
    (hempty : dma.mapped = []) (h : create regs dma config = (.ok c, dma')) : c.Sited := by
  obtain ⟨stopper, -, rfl⟩ := create_eq_ok h
  refine sited_of_empty (fun i => ?_) (by simp)
  show dma'.mapped.lookup i = none
  rw [mapped_of_create h, hempty]
  rfl

/-- In every session the table agrees with what the buffers hold. -/
lemma sited_of_reaches {regs : RegisterFile} {size : Nat} {limit : Option Nat} {dma : HostDma}
    {config : Config} {c₀ : Channel HostDma}
    (hcreate : create regs (HostDma.create size limit) config = (.ok c₀, dma))
    (h : c₀.Reaches c) : c.Sited :=
  keeping_sited.of_reaches (fun _ _ hc => hc.of_sameHoldings ⟨rfl, rfl, rfl⟩)
    (sited_of_create rfl hcreate) h

/-! ## Where the engine writes -/

/-- The chunks of a buffer, if there are any, are those that the table has for it. -/
lemma Sited.lookup_of_mem (hc : c.Sited) {i : Nat} {buffer : CaptureBuffer} {range : BusRange}
    (hbuffer : c.buffers[i]? = some buffer) (hrange : range ∈ buffer.chunkRanges) :
    ∃ addresses, c.dma.mapped.lookup i = some addresses ∧
      buffer.chunkRanges = (HostDma.chunksAt buffer.capacity addresses).map Chunk.range := by
  obtain ⟨addresses, haddresses, hchunks⟩ :=
    (hc.buffers buffer (List.mem_of_getElem? hbuffer)).chunkRanges_eq hrange
  refine ⟨addresses, ?_, hchunks⟩
  rw [hc.table, hbuffer, Option.bind_some, haddresses]

/-- Chunks share no address, be they of one buffer or of two. -/
lemma Sited.pairwise_chunks (hc : c.Sited) {live : List BusRange} (hdma : c.dma.Accounts live) :
    (c.buffers.flatMap CaptureBuffer.chunkRanges).Pairwise FreeRange.Apart :=
  hdma.pairwise_chunkRanges fun _ _ hbuffer _ hrange => hc.lookup_of_mem hbuffer hrange

/-- A range that is apart from a chunk has no byte that an instruction within the chunk writes. -/
lemma not_has_of_apart {chunk : Chunk} {range : BusRange} {address : Nat}
    (hchunk : chunk.range.Has address) (h : chunk.range.Apart range) : ¬range.Has address := by
  unfold FreeRange.Has at hchunk ⊢
  unfold FreeRange.Apart at h
  omega

/-- What a program that keeps to chunks writes lies in them.

**Proof sketch.** Only the two instructions that transfer write anything, and each of them keeps to
a chunk. -/
lemma exists_chunk_of_writes {program : Program} {chunks : ScatterList} {address : Nat}
    (hwithin : ∀ instruction ∈ program.instructions, instruction.Within chunks)
    (haddress : address ∈ program.writes) : ∃ chunk ∈ chunks, chunk.range.Has address := by
  obtain ⟨instruction, hinstruction, hwrites⟩ := List.mem_flatMap.mp haddress
  have hmem : (instruction.opcode = .lineStart ∨ instruction.opcode = .inline) ∧
      address ∈ List.range' instruction.address.toNat instruction.count.toNat := by
    unfold Instruction.writes at hwrites
    cases hopcode : instruction.opcode with
    | lineStart =>
      rw [hopcode] at hwrites
      exact ⟨.inl rfl, hwrites⟩
    | inline =>
      rw [hopcode] at hwrites
      exact ⟨.inr rfl, hwrites⟩
    | syncOdd | syncEven | jump =>
      rw [hopcode] at hwrites
      cases hwrites
  obtain ⟨chunk, hchunk, hlow, hhigh⟩ := hwithin instruction hinstruction hmem.1
  have hrange := List.mem_range'_1.mp hmem.2
  refine ⟨chunk, hchunk, ?_, ?_⟩
  · simp only [Chunk.range]
    omega
  · simp only [Chunk.range, Chunk.limit] at hhigh ⊢
    omega

/-- The engine writes to mapped memory only. -/
structure Confined (c : Channel HostDma) : Prop where
  /-- An active or queued buffer holds a program, written for the scatter list that its index is
  mapped to. All words of the program are instructions, and each of them that transfers data writes
  to one chunk of the list. -/
  inFlight : ∀ i, c.stateOf i = some .active ∨ c.stateOf i = some .queued →
    ∃ buffer setup addresses, c.buffers[i]? = some buffer ∧ buffer.setup = some setup ∧
      c.dma.mapped.lookup i = some addresses ∧
      setup.chunks = HostDma.chunksAt buffer.capacity addresses ∧
      setup.program.snapshot.length = 2 * setup.program.instructions.length ∧
      ∀ instruction ∈ setup.program.instructions, instruction.Within setup.chunks
  /-- The chunks of the buffers, their programs and the stopper share no address. -/
  apart : (c.buffers.flatMap CaptureBuffer.chunkRanges ++ c.ranges).Pairwise FreeRange.Apart
  /-- So no byte that the program of such a buffer writes belongs to a program or to another
  buffer. -/
  spares : ∀ i setup, c.stateOf i = some .active ∨ c.stateOf i = some .queued →
    c.setupOf i = some setup → ∀ address ∈ setup.program.writes,
      (∀ range ∈ c.ranges, ¬range.Has address) ∧
      ∀ j buffer, j ≠ i → c.buffers[j]? = some buffer →
        ∀ range ∈ buffer.chunkRanges, ¬range.Has address

/-- Chunks of a buffer share no address with programs or with other buffers. -/
lemma Sited.apart_others (hc : c.Sited) (hdma : c.dma.Accounts c.ranges) {i : Nat}
    {buffer : CaptureBuffer} {chunk : BusRange} (hbuffer : c.buffers[i]? = some buffer)
    (hchunk : chunk ∈ buffer.chunkRanges) :
    (∀ range ∈ c.ranges, chunk.Apart range) ∧ ∀ j other, j ≠ i → c.buffers[j]? = some other →
      ∀ range ∈ other.chunkRanges, chunk.Apart range := by
  obtain ⟨addresses, hlookup, hchunks⟩ := hc.lookup_of_mem hbuffer hchunk
  refine ⟨fun range hrange => ?_, fun j other hj hother range hrange => ?_⟩
  · exact hdma.apart_coherent hlookup (hchunks ▸ hchunk) hrange
  · obtain ⟨_, hlookup', hchunks'⟩ := hc.lookup_of_mem hother hrange
    exact hdma.apart_chunks hj.symm hlookup hlookup' (hchunks ▸ hchunk) (hchunks' ▸ hrange)

/-- A sound queue whose table agrees with its buffers is confined.

**Proof sketch.** A buffer in flight has a jump at its tail, so that its instructions can be read
back, and they keep to its chunks. Chunks and programs are apart since the backend accounts for all
of them. -/
lemma Sited.confined (hc : c.Sited) (hsound : c.Sound []) (hequipped : c.Equipped) :
    c.Confined := by
  have hdma : c.dma.Accounts c.ranges := by
    have hholds := hsound.stocked.holds
    rwa [List.append_nil] at hholds
  have hwithin : ∀ i buffer setup, c.stateOf i = some .active ∨ c.stateOf i = some .queued →
      c.buffers[i]? = some buffer → buffer.setup = some setup →
      setup.program.snapshot.length = 2 * setup.program.instructions.length ∧
        ∀ instruction ∈ setup.program.instructions, instruction.Within setup.chunks := by
    intro i buffer setup hi hbuffer hsetup
    have hlists := hsound.settled.arranged.inFlight i hi
    obtain ⟨target, htail⟩ := hsound.chained.linked.exists_jump hlists
    rw [CaptureQueue.tailOf, CaptureQueue.setupOf, hbuffer, Option.bind_some, hsetup,
      Option.bind_some] at htail
    exact (hc.buffers buffer (List.mem_of_getElem? hbuffer) setup hsetup).2.instructions htail
  refine ⟨fun i hi => ?_, List.pairwise_append.mpr ⟨hc.pairwise_chunks hdma, hdma.apart,
    fun a ha b hb => ?_⟩, fun i setup hi hsetupOf address haddress => ?_⟩
  · obtain ⟨setup, hsetupOf⟩ :=
      hequipped i (List.mem_append.mpr (hsound.settled.arranged.inFlight i hi))
    obtain ⟨buffer, hbuffer, hsetup⟩ := Option.bind_eq_some_iff.mp hsetupOf
    obtain ⟨haddresses, hchunks⟩ :=
      (hc.buffers buffer (List.mem_of_getElem? hbuffer)).chunks hsetup
    refine ⟨buffer, setup, _, hbuffer, hsetup, ?_, hchunks,
      hwithin i buffer setup hi hbuffer hsetup⟩
    rw [hc.table, hbuffer, Option.bind_some, haddresses]
  · obtain ⟨buffer, hbuffer, ha⟩ := List.mem_flatMap.mp ha
    obtain ⟨i, hi⟩ := List.mem_iff_getElem?.mp hbuffer
    exact (hc.apart_others hdma hi ha).1 b hb
  · obtain ⟨buffer, hbuffer, hsetup⟩ := Option.bind_eq_some_iff.mp hsetupOf
    obtain ⟨chunk, hchunk, hhas⟩ :=
      exists_chunk_of_writes (hwithin i buffer setup hi hbuffer hsetup).2 haddress
    have hmem : chunk.range ∈ buffer.chunkRanges := by
      rw [CaptureBuffer.chunkRanges, hsetup]
      exact List.mem_map_of_mem hchunk
    obtain ⟨hprograms, hothers⟩ := hc.apart_others hdma hbuffer hmem
    exact ⟨fun range hrange => not_has_of_apart hhas (hprograms range hrange),
      fun j other hj hother range hrange =>
        not_has_of_apart hhas (hothers j other hj hother range hrange)⟩

/-- **The engine writes to mapped memory only**, whatever is done with a queue that has a backend
for itself, as long as the backend's window lies in reach of the bus. -/
theorem confined_of_reaches {regs : RegisterFile} {size : Nat} {limit : Option Nat}
    {dma : HostDma} {config : Config} {c₀ : Channel HostDma}
    (hsize : HostDma.windowBase + size ≤ 0x100000000)
    (hcreate : create regs (HostDma.create size limit) config = (.ok c₀, dma))
    (h : c₀.Reaches c) : c.Confined := by
  have hsited : c.Sited := keeping_sited.of_reaches
    (fun _ _ hc => hc.of_sameHoldings ⟨rfl, rfl, rfl⟩) (sited_of_create rfl hcreate) h
  exact hsited.confined (sound_of_reaches (HostDma.accounts_create hsize) hcreate h)
    (equipped_of_reaches hcreate h)

/-- Two buffers make the chain and a third waits, each mapped to two chunks. -/
theorem confined_of_reaches_chained :
    HostDma.windowBase + HostDma.windowSize ≤ 0x100000000 ∧
    ∃ c₀ dma c, create {} HostDma.create {} = (.ok c₀, dma) ∧ c₀.Reaches c ∧
      (c.active, c.queued, c.dma.mapped.map fun entry => (entry.1, entry.2.length)) =
        ([0, 1], [2], [(2, 2), (1, 2), (0, 2)]) ∧ c.Confined := by
  have hsize : HostDma.windowBase + HostDma.windowSize ≤ 0x100000000 := by decide
  obtain ⟨c₀, dma, c, hcreate, hreach, hview⟩ := exists_session_of_viewFrom
    (show viewFrom HostDma.create chainedOperations (fun c =>
      (c.active, c.queued, c.dma.mapped.map fun entry => (entry.1, entry.2.length))) =
        some ([0, 1], [2], [(2, 2), (1, 2), (0, 2)]) by decide +kernel)
  exact ⟨hsize, c₀, dma, c, hcreate, hreach, hview, confined_of_reaches hsize hcreate hreach⟩

end Channel

end VideoCapture
