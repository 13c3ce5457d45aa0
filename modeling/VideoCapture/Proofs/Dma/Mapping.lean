import VideoCapture.Proofs.Dma.Host

/-!
# Where buffers are mapped

The backend without hardware keeps a table of the buffers that are mapped. Mapping a buffer enters
it with the addresses of its chunks, undoing the mapping takes it out again, and coherent memory has
nothing to do with the table. Each chunk lies in a span of the window that belongs to it alone, so
the chunks that the table speaks of share no address with each other or with coherent memory.

## Main definitions

* `VideoCapture.Chunk.range` — the bus addresses of a chunk.

## Main results

* `VideoCapture.HostDma.lookup_unmap`, `VideoCapture.HostDma.lookup_of_map` — the table.
* `VideoCapture.HostDma.Accounts.pairwise_chunks` — the chunks of a buffer are apart.
* `VideoCapture.HostDma.Accounts.apart_chunks` — the chunks of two buffers are apart.
* `VideoCapture.HostDma.Accounts.apart_coherent` — chunks are apart from coherent memory.
-/

set_option autoImplicit false

namespace VideoCapture

/-! ## The table -/

/-- A table of which the entries under a key are left out. -/
lemma lookup_filter_bne {β : Type} (entries : List (Nat × β)) (key other : Nat) :
    (entries.filter fun entry => entry.1 != key).lookup other =
      if other = key then none else entries.lookup other := by
  induction entries with
  | nil => simp
  | cons entry rest ih =>
    by_cases hkey : entry.1 = key
    · rw [List.filter_cons_of_neg (by simp [hkey]), ih, List.lookup_cons]
      by_cases hother : other = key
      · simp [hother]
      · rw [beq_eq_false_iff_ne.mpr fun heq => hother (heq.trans hkey)]
    · rw [List.filter_cons_of_pos (by simp [hkey]), List.lookup_cons, ih, List.lookup_cons]
      by_cases hother : other = entry.1
      · simp [hother, hkey]
      · simp [beq_eq_false_iff_ne.mpr hother]

/-- A table without any answer is empty. -/
lemma eq_nil_of_lookup {β : Type} {entries : List (Nat × β)}
    (h : ∀ key, entries.lookup key = none) : entries = [] := by
  cases entries with
  | nil => rfl
  | cons entry rest =>
    have hfirst := h entry.1
    rw [List.lookup_cons, beq_self_eq_true] at hfirst
    cases hfirst

namespace HostDma

variable {dma dma' : HostDma} {index size : Nat}

/-- **A mapping that is undone is taken out of the table.** -/
theorem lookup_unmap (dma : HostDma) (index other : Nat) :
    (dma.unmap index).mapped.lookup other =
      if other = index then none else dma.mapped.lookup other := by
  unfold HostDma.unmap
  cases hlookup : dma.mapped.lookup index with
  | none =>
    by_cases hother : other = index
    · rw [if_pos hother, hother, hlookup]
    · rw [if_neg hother]
  | some addresses => exact lookup_filter_bne dma.mapped index other

/-- **A buffer that is mapped is entered in the table** with the addresses of its chunks. -/
theorem lookup_of_map {chunks : ScatterList} (h : dma.map index size = (.ok chunks, dma')) :
    ∃ addresses, chunks = chunksAt size addresses ∧ ∀ other, dma'.mapped.lookup other =
      if other = index then some addresses else dma.mapped.lookup other := by
  unfold HostDma.map at h
  split at h
  · cases h
  · next addresses window _ =>
    obtain ⟨hchunks, rfl⟩ := Prod.mk.inj h
    refine ⟨addresses, (Except.ok.inj hchunks).symm, fun other => ?_⟩
    by_cases hother : other = index
    · simp [hother]
    · have hkept := lookup_unmap { dma with window } index other
      rw [if_neg hother] at hkept
      rw [if_neg hother, List.lookup_cons, beq_eq_false_iff_ne.mpr hother]
      exact hkept

/-- A buffer that cannot be mapped is not entered. -/
lemma mapped_of_map_error {error : Error} (h : dma.map index size = (.error error, dma')) :
    dma'.mapped = dma.mapped := by
  unfold HostDma.map at h
  split at h
  · obtain ⟨-, rfl⟩ := Prod.mk.inj h
    rfl
  · cases h

/-- Coherent memory that is handed out does not show in the table. -/
lemma mapped_allocate (dma : HostDma) (size : Nat) :
    (dma.allocate size).2.mapped = dma.mapped := by
  unfold HostDma.allocate
  split
  · rfl
  · split <;> rfl

end HostDma

/-! ## Chunks -/

/-- The bus addresses of a chunk. -/
def Chunk.range (chunk : Chunk) : BusRange where
  size := chunk.length
  address := chunk.address

namespace HostDma

open BusWindow (rangesAt)

/-- A range lies inside another. -/
def Inside (inner outer : BusRange) : Prop :=
  outer.address ≤ inner.address ∧ inner.address + inner.size ≤ outer.address + outer.size

/-- What is inside of ranges that are apart is apart. -/
lemma Inside.apart {a b a' b' : BusRange} (ha : Inside a a') (hb : Inside b b')
    (h : a'.Apart b') : a.Apart b := by
  unfold Inside at ha hb
  unfold FreeRange.Apart at h ⊢
  omega

/-- Coherent memory lies inside of its pages. -/
lemma inside_pages (range : BusRange) : Inside range (pages range) :=
  ⟨Nat.le_refl _, Nat.add_le_add_left (le_wholePages range.size) range.address⟩

/-- The chunks of a buffer begin where its pages do. -/
lemma map_address_chunksAt (size : Nat) (addresses : List Nat) :
    (chunksAt size addresses).map Chunk.address = addresses := by
  induction addresses generalizing size with
  | nil => rfl
  | cons address rest ih => rw [chunksAt, List.map_cons, ih]

/-- Each chunk of a buffer lies inside of one of its spans.

**Proof sketch.** Along the addresses. A chunk starts where its span does and is no longer than it,
as a span is a whole number of pages. -/
lemma exists_span {size : Nat} {addresses : List Nat} {range : BusRange}
    (h : range ∈ (chunksAt size addresses).map Chunk.range) :
    ∃ span ∈ rangesAt chunkSpan addresses, Inside range span := by
  induction addresses generalizing size with
  | nil => cases h
  | cons address rest ih =>
    obtain rfl | h := List.mem_cons.mp h
    · refine ⟨_, List.mem_cons_self, Nat.le_refl _, ?_⟩
      have hspan := le_wholePages chunkSpan
      simp only [Chunk.range, chunkSpan] at hspan ⊢
      omega
    · obtain ⟨span, hspan, hinside⟩ := ih h
      exact ⟨span, List.mem_cons_of_mem _ hspan, hinside⟩

/-- The chunks of a buffer are apart if its spans are.

**Proof sketch.** Along the addresses. Each chunk lies inside of a span (`exists_span`), and what
lies inside of two ranges that are apart is apart (`Inside.apart`). -/
lemma pairwise_chunksAt {addresses : List Nat}
    (h : (rangesAt chunkSpan addresses).Pairwise FreeRange.Apart) (size : Nat) :
    ((chunksAt size addresses).map Chunk.range).Pairwise FreeRange.Apart := by
  induction addresses generalizing size with
  | nil => exact .nil
  | cons address rest ih =>
    obtain ⟨hfirst, hothers⟩ := List.pairwise_cons.mp h
    refine List.pairwise_cons.mpr ⟨fun other hother => ?_, ih hothers _⟩
    obtain ⟨span, hspan, hinside⟩ := exists_span hother
    obtain ⟨first, hmem, hfirstInside⟩ := @exists_span size [address] _
      List.mem_cons_self
    obtain rfl := List.mem_singleton.mp hmem
    exact hfirstInside.apart hinside (hfirst span hspan)

variable {dma : HostDma} {live : List BusRange} {i j : Nat} {addresses addresses' : List Nat}

/-- What the table says of a buffer comes before what it says of the others. -/
lemma Accounts.perm_spans (h : dma.Accounts live) (hi : dma.mapped.lookup i = some addresses) :
    (spans dma.mapped).Perm (rangesAt chunkSpan addresses ++
      spans (dma.mapped.filter fun entry => entry.1 != i)) :=
  (perm_filter_of_lookup h.keys hi).flatMap_right _

/-- The spans of a buffer are apart from each other and from those of the others. -/
lemma Accounts.pairwise_spans (h : dma.Accounts live)
    (hi : dma.mapped.lookup i = some addresses) :
    (rangesAt chunkSpan addresses ++
      spans (dma.mapped.filter fun entry => entry.1 != i)).Pairwise FreeRange.Apart := by
  have hall := (List.pairwise_append.mp h.window.pairwise_apart).1
  exact ((h.perm_spans hi).pairwise_iff FreeRange.Apart.symm).mp (List.pairwise_append.mp hall).2.1

/-- A buffer that is mapped has its spans among all. -/
lemma Accounts.mem_spans (h : dma.Accounts live) (hi : dma.mapped.lookup i = some addresses)
    {span : BusRange} (hspan : span ∈ rangesAt chunkSpan addresses) : span ∈ spans dma.mapped :=
  (h.perm_spans hi).mem_iff.mpr (List.mem_append_left _ hspan)

/-- **The chunks of a buffer share no address.** -/
theorem Accounts.pairwise_chunks (h : dma.Accounts live)
    (hi : dma.mapped.lookup i = some addresses) (size : Nat) :
    ((chunksAt size addresses).map Chunk.range).Pairwise FreeRange.Apart :=
  pairwise_chunksAt (List.pairwise_append.mp (h.pairwise_spans hi)).1 size

/-- **The chunks of two buffers share no address.** -/
theorem Accounts.apart_chunks (h : dma.Accounts live) (hij : i ≠ j)
    (hi : dma.mapped.lookup i = some addresses) (hj : dma.mapped.lookup j = some addresses')
    {size size' : Nat} {a b : BusRange} (ha : a ∈ (chunksAt size addresses).map Chunk.range)
    (hb : b ∈ (chunksAt size' addresses').map Chunk.range) : a.Apart b := by
  obtain ⟨span, hspan, hinside⟩ := exists_span ha
  obtain ⟨span', hspan', hinside'⟩ := exists_span hb
  have hothers : span' ∈ spans (dma.mapped.filter fun entry => entry.1 != i) := by
    have hkept := lookup_filter_bne dma.mapped i j
    rw [if_neg hij.symm, hj] at hkept
    have hkeys : ((dma.mapped.filter fun entry => entry.1 != i).map Prod.fst).Nodup :=
      h.keys.sublist (List.filter_sublist.map _)
    exact ((perm_filter_of_lookup hkeys hkept).flatMap_right _).mem_iff.mpr
      (List.mem_append_left _ hspan')
  exact hinside.apart hinside'
    ((List.pairwise_append.mp (h.pairwise_spans hi)).2.2 span hspan span' hothers)

/-- **Chunks share no address with coherent memory.** -/
theorem Accounts.apart_coherent (h : dma.Accounts live)
    (hi : dma.mapped.lookup i = some addresses) {size : Nat} {a b : BusRange}
    (ha : a ∈ (chunksAt size addresses).map Chunk.range) (hb : b ∈ live) : a.Apart b := by
  obtain ⟨span, hspan, hinside⟩ := exists_span ha
  have hall := (List.pairwise_append.mp h.window.pairwise_apart).1
  have hpages := (List.pairwise_append.mp hall).2.2 (pages b) (List.mem_map_of_mem hb) span
    (h.mem_spans hi hspan)
  exact hinside.apart (inside_pages b) hpages.symm

end HostDma

end VideoCapture
