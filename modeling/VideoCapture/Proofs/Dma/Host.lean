import VideoCapture.Dma.Host
import VideoCapture.Proofs.Dma.Lawful

/-!
# The backend without hardware is lawful

Coherent memory and the chunks of mapped buffers all come from one window, rounded up to whole
pages. So the backend accounts for coherent memory because its window accounts for all of these
ranges.

## Main definitions

* `VideoCapture.HostDma.spans` — what mapped buffers take from the window.
* `VideoCapture.HostDma.Accounts` — the window accounts for coherent memory and mapped buffers.

## Main results

* `VideoCapture.HostDma.Accounts.allocate`, `VideoCapture.HostDma.Accounts.free`,
  `VideoCapture.HostDma.Accounts.map`, `VideoCapture.HostDma.Accounts.unmap` — the four services.
* `VideoCapture.HostDma.accounts_create` — a new backend accounts for nothing.
-/

set_option autoImplicit false

namespace VideoCapture

/-- Rounding up to words first does not change the number of pages. -/
lemma wholePages_words (size : Nat) : wholePages (4 * ((size + 3) / 4)) = wholePages size := by
  unfold wholePages pageSize
  omega

/-- Some bytes take at least one page. -/
lemma wholePages_pos {size : Nat} (h : 0 < size) : 0 < wholePages size :=
  Nat.lt_of_lt_of_le h (le_wholePages size)

/-- In a list of entries with different keys, the entry looked up stands in front of the others.

**Proof sketch.** Induction on the entries. The first one with the key is the only one, so filtering
leaves all behind it. -/
lemma perm_filter_of_lookup {β : Type} {entries : List (Nat × β)} {key : Nat} {value : β}
    (hkeys : (entries.map Prod.fst).Nodup) (h : entries.lookup key = some value) :
    entries.Perm ((key, value) :: entries.filter fun entry => entry.1 != key) := by
  induction entries with
  | nil => cases h
  | cons entry rest ih =>
    obtain ⟨hnot, hrest⟩ := List.nodup_cons.mp hkeys
    by_cases hkey : entry.1 = key
    · -- no later entry has the key
      have hvalue : entry.2 = value := by
        rw [List.lookup_cons, beq_iff_eq.mpr hkey.symm] at h
        exact Option.some.inj h
      have hfilter : rest.filter (fun entry => entry.1 != key) = rest := by
        rw [List.filter_eq_self]
        intro other hother
        rw [bne_iff_ne]
        exact fun heq => hnot (List.mem_map.mpr ⟨other, hother, heq.trans hkey.symm⟩)
      rw [List.filter_cons_of_neg (by simp [hkey]), hfilter, ← hkey, ← hvalue]
    · have hlookup : rest.lookup key = some value := by
        rwa [List.lookup_cons, beq_eq_false_iff_ne.mpr (Ne.symm hkey)] at h
      rw [List.filter_cons_of_pos (by simp [hkey])]
      exact ((ih hrest hlookup).cons entry).trans (List.Perm.swap _ _ _)

namespace HostDma

open BusWindow (rangesAt Bookkeeping bookkeeping_accounts)

/-- What mapped buffers take from the window. -/
def spans (mapped : List (Nat × List Nat)) : List BusRange :=
  mapped.flatMap fun entry => rangesAt chunkSpan entry.2

/-- A range rounded up to whole pages. -/
def pages (range : BusRange) : BusRange :=
  ⟨wholePages range.size, range.address⟩

/-- The window accounts for coherent memory and for mapped buffers. -/
structure Accounts (dma : HostDma) (live : List BusRange) : Prop where
  /-- All of it comes from the window. -/
  window : dma.window.Accounts (live.map pages ++ spans dma.mapped)
  /-- No buffer is mapped twice. -/
  keys : (dma.mapped.map Prod.fst).Nodup
  /-- Coherent memory is counted. -/
  count : dma.live = live.length

variable {dma dma' : HostDma} {live : List BusRange}

/-- A new backend accounts for nothing, if its window lies in reach of the bus. -/
theorem accounts_create {size : Nat} {limit : Option Nat} (h : windowBase + size ≤ 0x100000000) :
    (create size limit).Accounts [] where
  window := ⟨h, Nat.zero_le _, by simp [create, spans], [], List.Perm.refl _, rfl⟩
  keys := List.nodup_nil
  count := rfl

/-- Ranges that are apart when they are rounded up are apart. -/
lemma apart_of_pages {a b : BusRange} (h : (pages a).Apart (pages b)) : a.Apart b := by
  have ha := le_wholePages a.size
  have hb := le_wholePages b.size
  unfold FreeRange.Apart pages at *
  dsimp only at h
  omega

/-- No two ranges of coherent memory share an address. -/
lemma Accounts.apart (h : dma.Accounts live) : live.Pairwise FreeRange.Apart := by
  have hall := (List.pairwise_append.mp h.window.pairwise_apart).1
  have hpages := (List.pairwise_append.mp hall).1
  exact (List.pairwise_map.mp hpages).imp apart_of_pages

/-- **Coherent memory that is handed out is accounted for.**

**Proof sketch.** The window accounts for the range that it gives. A page of it at least lies in
reach of the bus, so that its address is not cut, and the memory takes as many pages as were asked
for. -/
theorem Accounts.allocate {size : Nat} {memory : CoherentMemory} (h : dma.Accounts live)
    (hsize : 0 < size) (hallocate : dma.allocate size = (.ok memory, dma')) :
    dma'.Accounts (memory.range :: live) := by
  unfold HostDma.allocate at hallocate
  split at hallocate
  · cases hallocate
  · split at hallocate
    · cases hallocate
    · next address window htake =>
      obtain ⟨hmemory, rfl⟩ := Prod.mk.inj hallocate
      obtain rfl := Except.ok.inj hmemory
      have hwindow := h.window.take htake
      -- the address fits the bus because a page at least lies behind it
      have hreach := hwindow.inReach
      have hbounds := hwindow.mem_bounds List.mem_cons_self
      have hpage := wholePages_pos hsize
      dsimp only at hbounds
      have hbus : (UInt32.ofNat address).toNat = address := by
        rw [UInt32.toNat_ofNat_of_lt']
        rw [UInt32.size]
        omega
      have hrange : pages (CoherentMemory.range
          ⟨UInt32.ofNat address, List.replicate ((size + 3) / 4) 0⟩) =
          ⟨wholePages size, address⟩ := by
        simp only [pages, CoherentMemory.range, CoherentMemory.size, List.length_replicate,
          wholePages_words, hbus]
      refine ⟨?_, h.keys, congrArg (· + 1) h.count⟩
      rw [List.map_cons, hrange]
      exact hwindow

/-- Coherent memory that is handed out ends in reach of the bus. -/
lemma Accounts.limit_le_of_allocate {size : Nat} {memory : CoherentMemory}
    (h : dma.Accounts live) (hsize : 0 < size)
    (hallocate : dma.allocate size = (.ok memory, dma')) :
    memory.bus.toNat + memory.size ≤ 0x100000000 := by
  have hafter := h.allocate hsize hallocate
  have hbounds := hafter.window.mem_bounds
    (List.mem_append_left _ (List.mem_map_of_mem List.mem_cons_self))
  have hreach := hafter.window.inReach
  have hpages := le_wholePages memory.size
  simp only [pages, CoherentMemory.range] at hbounds
  omega

/-- Coherent memory is as large as asked for. -/
lemma size_le_of_allocate {size : Nat} {memory : CoherentMemory}
    (hallocate : dma.allocate size = (.ok memory, dma')) : size ≤ memory.size := by
  unfold HostDma.allocate at hallocate
  split at hallocate
  · cases hallocate
  · split at hallocate
    · cases hallocate
    · obtain ⟨hmemory, -⟩ := Prod.mk.inj hallocate
      obtain rfl := Except.ok.inj hmemory
      simp only [CoherentMemory.size, List.length_replicate]
      omega

/-- Without memory the backend stays as it is. -/
lemma eq_of_allocate_error {size : Nat} {error : Error}
    (hallocate : dma.allocate size = (.error error, dma')) : dma' = dma := by
  unfold HostDma.allocate at hallocate
  split at hallocate
  · exact (Prod.mk.inj hallocate).2.symm
  · split at hallocate
    · exact (Prod.mk.inj hallocate).2.symm
    · cases hallocate

/-- **Coherent memory that is taken back is settled.** -/
theorem Accounts.free {memory : CoherentMemory} (h : dma.Accounts (memory.range :: live)) :
    (dma.free memory).Accounts live where
  window := h.window.give
  keys := h.keys
  count := by
    show dma.live - 1 = live.length
    rw [h.count, List.length_cons, Nat.add_sub_cancel]

/-- Undoing a mapping does not count. -/
lemma live_unmap (dma : HostDma) (index : Nat) : (dma.unmap index).live = dma.live := by
  unfold HostDma.unmap
  split <;> rfl

/-- Nor does mapping a buffer. -/
lemma live_of_map {index size : Nat} {result : Except Error ScatterList}
    (h : dma.map index size = (result, dma')) : dma'.live = dma.live := by
  unfold HostDma.map at h
  split at h
  · obtain ⟨-, rfl⟩ := Prod.mk.inj h
    rfl
  · next window _ =>
    obtain ⟨-, rfl⟩ := Prod.mk.inj h
    exact live_unmap { dma with window } index

/-- Undoing a mapping strikes off what the buffer has taken from the window. -/
lemma books_unmap (dma : HostDma) {Books : BusWindow → List BusRange → Prop}
    (keeping : Bookkeeping Books) {taken : List BusRange} (index : Nat)
    (h : Books dma.window (taken ++ spans dma.mapped)) (hkeys : (dma.mapped.map Prod.fst).Nodup) :
    Books (dma.unmap index).window (taken ++ spans (dma.unmap index).mapped) := by
  unfold HostDma.unmap
  split
  · exact h
  · next addresses hlookup =>
    have hspans : (spans dma.mapped).Perm (rangesAt chunkSpan addresses ++
        spans (dma.mapped.filter fun entry => entry.1 != index)) :=
      (perm_filter_of_lookup hkeys hlookup).flatMap_right _
    have hperm : (taken ++ spans dma.mapped).Perm (rangesAt chunkSpan addresses ++
        (taken ++ spans (dma.mapped.filter fun entry => entry.1 != index))) :=
      (hspans.append_left taken).trans (List.perm_append_comm_assoc _ _ _)
    exact keeping.giveMany (keeping.perm h hperm)

/-- Mapping a buffer books what it takes from the window, in place of what it had before.

**Proof sketch.** What is taken for the chunks is booked first. Then what the buffer had before is
given back, and the two come to the same in either order. -/
lemma books_map {Books : BusWindow → List BusRange → Prop} (keeping : Bookkeeping Books)
    {taken : List BusRange} {index size : Nat} {result : Except Error ScatterList}
    (h : Books dma.window (taken ++ spans dma.mapped)) (hkeys : (dma.mapped.map Prod.fst).Nodup)
    (hmap : dma.map index size = (result, dma')) :
    Books dma'.window (taken ++ spans dma'.mapped) := by
  unfold HostDma.map at hmap
  rcases htake : dma.window.takeMany chunkSpan ((size + (pageSize - 1)) / pageSize)
    with ⟨got, window⟩
  have hwindow := keeping.takeMany h htake
  cases got with
  | none =>
    simp only [htake] at hmap
    obtain ⟨-, rfl⟩ := Prod.mk.inj hmap
    exact hwindow
  | some addresses =>
    simp only [htake] at hmap
    obtain ⟨-, rfl⟩ := Prod.mk.inj hmap
    have hbooked : Books window ((rangesAt chunkSpan addresses ++ taken) ++ spans dma.mapped) := by
      rw [List.append_assoc]
      exact hwindow
    refine keeping.perm (books_unmap { dma with window } keeping index hbooked hkeys) ?_
    rw [List.append_assoc]
    exact List.perm_append_comm_assoc _ _ _

/-- The buffers that stay mapped have different indices, and that of the mapping undone is free. -/
lemma keys_unmap (dma : HostDma) (index : Nat) (hkeys : (dma.mapped.map Prod.fst).Nodup) :
    (index :: (dma.unmap index).mapped.map Prod.fst).Nodup := by
  refine List.nodup_cons.mpr ?_
  unfold HostDma.unmap
  split
  · next hlookup =>
    refine ⟨fun hmem => ?_, hkeys⟩
    obtain ⟨entry, hentry, rfl⟩ := List.mem_map.mp hmem
    have hne := List.lookup_eq_none_iff.mp hlookup entry hentry
    simp at hne
  · refine ⟨fun hmem => ?_, hkeys.sublist (List.filter_sublist.map _)⟩
    obtain ⟨entry, hentry, heq⟩ := List.mem_map.mp hmem
    have hne := (List.mem_filter.mp hentry).2
    simp [heq] at hne

/-- However a buffer is mapped, no buffer is mapped twice. -/
lemma keys_map {index size : Nat} {result : Except Error ScatterList}
    (hkeys : (dma.mapped.map Prod.fst).Nodup) (hmap : dma.map index size = (result, dma')) :
    (dma'.mapped.map Prod.fst).Nodup := by
  unfold HostDma.map at hmap
  split at hmap <;> obtain ⟨-, rfl⟩ := Prod.mk.inj hmap
  · exact hkeys
  · next window _ => exact keys_unmap { dma with window } index hkeys

/-- **Undoing a mapping** leaves coherent memory alone. -/
theorem Accounts.unmap (index : Nat) (h : dma.Accounts live) :
    (dma.unmap index).Accounts live where
  window := books_unmap dma bookkeeping_accounts index h.window h.keys
  keys := (List.nodup_cons.mp (keys_unmap dma index h.keys)).2
  count := (live_unmap dma index).trans h.count

/-- **Mapping a buffer** leaves coherent memory alone. -/
theorem Accounts.map {index size : Nat} {result : Except Error ScatterList} (h : dma.Accounts live)
    (hmap : dma.map index size = (result, dma')) : dma'.Accounts live where
  window := books_map bookkeeping_accounts h.window h.keys hmap
  keys := keys_map h.keys hmap
  count := (live_of_map hmap).trans h.count

instance : LawfulDmaBackend HostDma where
  Holds := Accounts
  apart := Accounts.apart
  perm h hperm := ⟨h.window.perm ((hperm.map pages).append_right _), h.keys,
    h.count.trans hperm.length_eq⟩
  size_le _ := size_le_of_allocate
  allocate := Accounts.allocate
  refuse h hallocate := eq_of_allocate_error hallocate ▸ h
  free := Accounts.free
  map := Accounts.map
  unmap := Accounts.unmap _

end HostDma

end VideoCapture
