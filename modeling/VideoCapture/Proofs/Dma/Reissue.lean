import VideoCapture.Proofs.Dma.Mapping

/-!
# What is given back is handed out anew

Undoing a mapping gives the spans of the buffer back, and so does mapping a buffer that is mapped
already: the table has one entry for each index, and what stood there is given back without asking
who holds it. A span that was given back stays so until something of its size is wanted, and the
next to want it gets it.

## Main results

* `VideoCapture.HostDma.mem_free_of_map` — mapping a buffer gives back what it was mapped to.
* `VideoCapture.HostDma.mem_free_of_allocate` — a span that was given back stays so or is the
  memory that is handed out.
* `VideoCapture.HostDma.Accounts.apart_free` — chunks are apart from what was given back.
-/

set_option autoImplicit false

namespace VideoCapture

open BusWindow (rangesAt)

/-- Ranges that are given back join those that were. -/
lemma BusWindow.mem_free_giveMany {window : BusWindow} {size : Nat} {addresses : List Nat}
    {range : BusRange} : range ∈ (window.giveMany size addresses).free ↔
      range ∈ rangesAt size addresses ∨ range ∈ window.free := by
  induction addresses generalizing window with
  | nil => simp [giveMany, rangesAt]
  | cons address rest ih =>
    have hrest : range ∈ ((window.give size address).giveMany size rest).free ↔
        range ∈ rangesAt size rest ∨ range ∈ (window.give size address).free := ih
    refine hrest.trans ?_
    simp only [give, List.mem_cons, rangesAt, List.map_cons]
    exact or_left_comm.trans or_assoc.symm

namespace HostDma

variable {dma dma' : HostDma} {live : List BusRange} {index size : Nat} {addresses : List Nat}
  {span : BusRange}

/-- Undoing a mapping gives the spans of the buffer back. -/
lemma mem_free_unmap (hlookup : dma.mapped.lookup index = some addresses)
    (hspan : span ∈ rangesAt chunkSpan addresses) : span ∈ (dma.unmap index).window.free := by
  unfold HostDma.unmap
  rw [hlookup]
  exact BusWindow.mem_free_giveMany.mpr (.inl hspan)

/-- What was given back before stays so. -/
lemma mem_free_unmap_of_mem (index : Nat) (hspan : span ∈ dma.window.free) :
    span ∈ (dma.unmap index).window.free := by
  unfold HostDma.unmap
  split
  · exact hspan
  · exact BusWindow.mem_free_giveMany.mpr (.inr hspan)

/-- **Mapping a buffer gives back what it was mapped to before.** -/
theorem mem_free_of_map {chunks : ScatterList} (h : dma.map index size = (.ok chunks, dma'))
    (hlookup : dma.mapped.lookup index = some addresses)
    (hspan : span ∈ rangesAt chunkSpan addresses) : span ∈ dma'.window.free := by
  unfold HostDma.map at h
  split at h
  · cases h
  · next window _ =>
    obtain ⟨-, rfl⟩ := Prod.mk.inj h
    show span ∈ (HostDma.unmap { dma with window } index).window.free
    exact mem_free_unmap hlookup hspan

/-- **A span that was given back stays so, or it is the memory that is handed out next**, in whole
pages, as long as it lies in reach of the bus.

**Proof sketch.** Memory comes from the first range that was given back with its size, or from what
was never given out. In the first case that range is the span or another one; in the second all that
was given back stays. -/
theorem mem_free_of_allocate {memory : CoherentMemory}
    (h : dma.allocate size = (.ok memory, dma')) (hspan : span ∈ dma.window.free)
    (hreach : span.address < 0x100000000) :
    span ∈ dma'.window.free ∨ pages memory.range = span := by
  unfold HostDma.allocate at h
  split at h
  · cases h
  · simp only [BusWindow.take?] at h
    split at h
    · cases h
    · next address window htake =>
      obtain ⟨hmemory, rfl⟩ := Prod.mk.inj h
      obtain rfl := Except.ok.inj hmemory
      split at htake
      · -- a range of the size is taken from those given back
        next range hfind =>
        obtain ⟨rfl, rfl⟩ := Prod.mk.inj (Option.some.inj htake)
        by_cases hsame : span = range
        · subst hsame
          have hsize : span.size = wholePages size := by simpa using List.find?_some hfind
          have hbus : (UInt32.ofNat span.address).toNat = span.address :=
            UInt32.toNat_ofNat_of_lt' hreach
          right
          simp only [pages, CoherentMemory.range, CoherentMemory.size, List.length_replicate,
            wholePages_words, hbus, ← hsize]
        · exact .inl ((List.mem_erase_of_ne hsame).mpr hspan)
      · split at htake
        · cases htake
        · obtain ⟨-, rfl⟩ := Prod.mk.inj (Option.some.inj htake)
          exact .inl hspan

/-- **Chunks share no address with what was given back.** -/
theorem Accounts.apart_free (h : dma.Accounts live)
    (hlookup : dma.mapped.lookup index = some addresses) {chunk range : BusRange}
    (hchunk : chunk ∈ (chunksAt size addresses).map Chunk.range)
    (hrange : range ∈ dma.window.free) : chunk.Apart range := by
  obtain ⟨span, hspan, hinside⟩ := exists_span hchunk
  have hapart := (List.pairwise_append.mp h.window.pairwise_apart).2.2 span
    (List.mem_append_right _ (h.mem_spans hlookup hspan)) range hrange
  exact hinside.apart ⟨Nat.le_refl _, Nat.le_refl _⟩ hapart

/-- A span is not empty. -/
lemma wholePages_span_pos : 0 < wholePages chunkSpan := by
  decide

/-- The spans of a buffer that is mapped lie in reach of the bus. -/
lemma Accounts.span_in_reach (h : dma.Accounts live)
    (hlookup : dma.mapped.lookup index = some addresses)
    (hspan : span ∈ rangesAt chunkSpan addresses) : span.address < 0x100000000 := by
  have hbounds := h.window.mem_bounds (List.mem_append_right _ (h.mem_spans hlookup hspan))
  have hreach := h.window.inReach
  obtain ⟨address, -, rfl⟩ := List.mem_map.mp hspan
  have hpos := wholePages_span_pos
  dsimp only at hbounds ⊢
  omega

end HostDma

end VideoCapture
