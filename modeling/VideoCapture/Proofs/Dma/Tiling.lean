import VideoCapture.Proofs.Dma.Mapping
import Mathlib.Data.List.Nodup
import Mathlib.Data.List.Perm.Basic

/-!
# What is handed out and what was given back tile the window

A backend without hardware never loses an address of its window and never has one to give twice.
Stated address by address: those of the coherent memory that is held, of the spans of the buffers
that are mapped and of the ranges given back are, in some order and each once, the addresses of the
part of the window that is used up. Taking a range and giving it back keep this up, so every service
does, and so does every sequence of services, whether they succeed or not.

An allocation of no bytes takes no address. It is all that can be handed out when the window is used
up, and if the window ends where the bus does, its bus address is cut down to zero; what is said
here of addresses holds for it all the same, where `VideoCapture.BusWindow.Accounts` would break.

## Main definitions

* `VideoCapture.FreeRange.addresses`, `VideoCapture.FreeRange.Aligned` — what a range takes up.
* `VideoCapture.BusWindow.Filled` — the books that are kept address by address.
* `VideoCapture.HostDma.Custody` — a backend with the coherent memory that is held.
* `VideoCapture.HostDma.Custody.Tiled` — live ranges and ranges given back tile the window.

## Main results

* `VideoCapture.BusWindow.bookkeeping_filled` — a range is taken and given back.
* `VideoCapture.HostDma.Custody.kept_serve` — no service spoils the books.
* `VideoCapture.HostDma.tiled_of_serveAll` — after any services the ranges tile the window.
-/

set_option autoImplicit false

namespace VideoCapture

/-! ## Addresses of ranges -/

namespace FreeRange

/-- The addresses of a range. -/
def addresses (range : BusRange) : List Nat :=
  List.range' range.address range.size

/-- A range of whole pages that begins at a page. -/
def Aligned (range : BusRange) : Prop :=
  pageSize ∣ range.address ∧ pageSize ∣ range.size

instance (range : BusRange) : Decidable range.Aligned :=
  inferInstanceAs (Decidable (_ ∧ _))

end FreeRange

namespace BusWindow

/-- In a window of `size` bytes from `start` on, the ranges taken and those given back take up each
address that is used up, once. -/
structure Filled (start size : Nat) (window : BusWindow) (taken : List BusRange) : Prop where
  /-- Where the window begins. -/
  start_eq : window.base = start
  /-- How large it is. -/
  size_eq : window.size = size
  /-- The window lies in reach of the bus. -/
  inReach : start + size ≤ 0x100000000
  /-- No more of it is used up than there is. -/
  bounded : window.next ≤ size
  /-- It is used up by pages. -/
  whole : pageSize ∣ start + window.next
  /-- Ranges consist of whole pages. -/
  aligned : ∀ range ∈ taken ++ window.free, range.Aligned
  /-- The ranges take up what is used up. -/
  fills : ((taken ++ window.free).flatMap FreeRange.addresses).Perm
    (List.range' start window.next)

variable {start size address : Nat} {window window' : BusWindow} {taken taken' : List BusRange}

/-- The books do not depend on how ranges are divided among those taken and those given back. -/
lemma Filled.reorder (h : window.Filled start size taken) {free : List BusRange}
    (hperm : (taken ++ window.free).Perm (taken' ++ free)) :
    ({ window with free } : BusWindow).Filled start size taken' where
  start_eq := h.start_eq
  size_eq := h.size_eq
  inReach := h.inReach
  bounded := h.bounded
  whole := h.whole
  aligned range hr := h.aligned range (hperm.mem_iff.mpr hr)
  fills := (hperm.flatMap_right _).symm.trans h.fills

/-- Taking a range books it.

**Proof sketch.** A range that was given back moves from the free list to what is taken. One that is
the next part of the window adds its addresses behind those that were used up. -/
lemma Filled.take {bytes : Nat} (h : window.Filled start size taken)
    (htake : window.take? bytes = some (address, window')) :
    window'.Filled start size (⟨wholePages bytes, address⟩ :: taken) := by
  simp only [take?] at htake
  split at htake
  · -- the range was given back before
    next range hfind =>
    obtain ⟨rfl, rfl⟩ := Prod.mk.inj (Option.some.inj htake)
    have hsize : range.size = wholePages bytes := by
      have hfound := List.find?_some hfind
      rwa [beq_iff_eq] at hfound
    have hmem : range ∈ window.free := List.mem_of_find?_eq_some hfind
    rw [← hsize]
    exact h.reorder (((List.perm_cons_erase hmem).append_left taken).trans List.perm_middle)
  · -- the range is the next part of the window
    split at htake
    · cases htake
    · next hroom =>
      obtain ⟨rfl, rfl⟩ := Prod.mk.inj (Option.some.inj htake)
      rw [h.size_eq] at hroom
      have hpages := pageSize_dvd_wholePages bytes
      obtain rfl := h.start_eq
      refine ⟨rfl, h.size_eq, h.inReach, Nat.le_of_not_lt hroom, ?_, fun range hr => ?_, ?_⟩
      · show pageSize ∣ window.base + (window.next + wholePages bytes)
        rw [← Nat.add_assoc]
        exact Nat.dvd_add h.whole hpages
      · obtain rfl | hr := List.mem_cons.mp hr
        · exact ⟨h.whole, hpages⟩
        · exact h.aligned range hr
      · -- the addresses of the new range are those behind what was used up
        have hmore := List.perm_append_comm.trans
          (h.fills.append_right (List.range' (window.base + window.next) (wholePages bytes)))
        rwa [List.range'_append_1] at hmore

/-- **Taking a range and giving it back** keep the books. -/
theorem bookkeeping_filled (start size : Nat) : Bookkeeping (Filled start size) where
  perm h hperm := h.reorder (hperm.append_right _)
  take := Filled.take
  give h := h.reorder List.perm_middle.symm

/-- An address that is taken lies in the window. -/
lemma Filled.mem_bounds (h : window.Filled start size taken) {range : BusRange}
    (hr : range ∈ taken) {a : Nat} (ha : a ∈ range.addresses) : start ≤ a ∧ a < start + size := by
  have hused : a ∈ List.range' start window.next :=
    h.fills.mem_iff.mp (List.mem_flatMap.mpr ⟨range, List.mem_append_left _ hr, ha⟩)
  have hbounded := h.bounded
  rw [List.mem_range'_1] at hused
  omega

/-- No two ranges share an address, be they taken or given back. -/
lemma Filled.pairwise_disjoint (h : window.Filled start size taken) :
    (taken ++ window.free).Pairwise fun a b => a.addresses.Disjoint b.addresses :=
  (List.nodup_flatMap.mp (h.fills.nodup_iff.mpr List.nodup_range')).2

/-- The bus is 32 bits wide, and the address of a range fits unless the range is empty. -/
lemma Filled.cut {pages : Nat} (h : window.Filled start size (⟨pages, address⟩ :: taken)) :
    window.Filled start size (⟨pages, address % 0x100000000⟩ :: taken) := by
  cases pages with
  | succ n =>
    have hbounds := h.mem_bounds List.mem_cons_self
      (show address ∈ FreeRange.addresses ⟨n + 1, address⟩ from List.mem_range'_1.mpr (by simp))
    have hreach := h.inReach
    rwa [Nat.mod_eq_of_lt (by omega)]
  | zero =>
    -- an empty range takes up no address wherever it is said to begin
    refine ⟨h.start_eq, h.size_eq, h.inReach, h.bounded, h.whole, fun range hr => ?_, h.fills⟩
    obtain rfl | hr := List.mem_cons.mp hr
    · have hold := (h.aligned _ List.mem_cons_self).1
      exact ⟨(Nat.dvd_mod_iff (by decide)).mpr hold, Nat.dvd_zero _⟩
    · exact h.aligned range (List.mem_cons_of_mem _ hr)

end BusWindow

/-! ## Services in any order -/

namespace HostDma

/-- A backend together with the coherent memory that was handed out and is still held. -/
structure Custody where
  /-- The backend. -/
  dma : HostDma
  /-- The memory held, latest first. -/
  held : List CoherentMemory := []
  deriving DecidableEq

/-- What a backend can be asked for. -/
inductive Service
  /-- Coherent memory of the given size. -/
  | allocate (size : Nat)
  /-- To take back the coherent memory at a position among that held. -/
  | drop (position : Nat)
  /-- To map the buffer of the given index and size. -/
  | map (index size : Nat)
  /-- To undo the mapping of a buffer. -/
  | unmap (index : Nat)
  deriving DecidableEq

namespace Custody

/-- Does a service, or as much of it as can be done. -/
def serve (custody : Custody) : Service → Custody
  | .allocate size =>
    match custody.dma.allocate size with
    | (.ok memory, dma) => ⟨dma, memory :: custody.held⟩
    | (.error _, dma) => ⟨dma, custody.held⟩
  | .drop position =>
    match custody.held[position]? with
    | some memory => ⟨custody.dma.free memory, custody.held.eraseIdx position⟩
    | none => custody
  | .map index size => ⟨(custody.dma.map index size).2, custody.held⟩
  | .unmap index => ⟨custody.dma.unmap index, custody.held⟩

/-- Does services one after the other. -/
def serveAll (custody : Custody) (services : List Service) : Custody :=
  services.foldl serve custody

/-- The ranges that are live: coherent memory in whole pages, and the spans of mapped buffers. -/
def live (custody : Custody) : List BusRange :=
  (custody.held.map CoherentMemory.range).map pages ++ spans custody.dma.mapped

/-- Live ranges lie on pages inside the window of `size` bytes, share no address with each other or
with what was given back, and tile with it what is used up; and a mapping that fails is as if it had
not been asked for. -/
structure Tiled (size : Nat) (custody : Custody) : Prop where
  /-- Live ranges are aligned to pages. -/
  aligned : ∀ range ∈ custody.live, range.Aligned
  /-- Live ranges lie inside the window. -/
  inside : ∀ range ∈ custody.live, ∀ a ∈ range.addresses, windowBase ≤ a ∧ a < windowBase + size
  /-- Ranges, live or given back, share no address. -/
  disjoint : (custody.live ++ custody.dma.window.free).Pairwise fun a b =>
    a.addresses.Disjoint b.addresses
  /-- Together they are what is used up of the window, each address once. -/
  tiles : ((custody.live ++ custody.dma.window.free).flatMap FreeRange.addresses).Perm
    (List.range' windowBase custody.dma.window.next)
  /-- No more of the window is used up than there is. -/
  bounded : custody.dma.window.next ≤ size
  /-- Mapping a buffer in vain leaves all mappings as they are. -/
  failing : ∀ (index bytes : Nat) (error : Error) (dma : HostDma),
    custody.dma.map index bytes = (.error error, dma) → dma.mapped = custody.dma.mapped

/-- The window is filled by the live ranges and those given back, and no buffer is mapped twice. -/
structure Kept (size : Nat) (custody : Custody) : Prop where
  /-- The books of the window. -/
  window : custody.dma.window.Filled windowBase size custody.live
  /-- Buffers that are mapped have different indices. -/
  keys : (custody.dma.mapped.map Prod.fst).Nodup

variable {size : Nat} {custody : Custody}

/-- Coherent memory that is handed out is booked. -/
lemma kept_allocate (h : custody.Kept size) (bytes : Nat) :
    (custody.serve (.allocate bytes)).Kept size := by
  simp only [serve]
  rcases hallocate : custody.dma.allocate bytes with ⟨error | memory, dma⟩
  · obtain rfl := eq_of_allocate_error hallocate
    exact h
  · unfold HostDma.allocate at hallocate
    split at hallocate
    · cases hallocate
    · split at hallocate
      · cases hallocate
      · next address window htake =>
        obtain ⟨hmemory, rfl⟩ := Prod.mk.inj hallocate
        obtain rfl := Except.ok.inj hmemory
        have hbooked := (h.window.take htake).cut
        refine ⟨?_, h.keys⟩
        simp only [live, List.map_cons, List.cons_append, pages, CoherentMemory.range,
          CoherentMemory.size, List.length_replicate, wholePages_words, UInt32.toNat_ofNat']
        exact hbooked

/-- Coherent memory that is dropped is struck off. -/
lemma kept_drop (h : custody.Kept size) (position : Nat) :
    (custody.serve (.drop position)).Kept size := by
  unfold serve
  dsimp only
  split
  · next memory hmemory =>
    obtain ⟨hlt, rfl⟩ := List.getElem?_eq_some_iff.mp hmemory
    have hperm : custody.live.Perm (pages custody.held[position].range ::
        live ⟨custody.dma, custody.held.eraseIdx position⟩) :=
      (((List.getElem_cons_eraseIdx_perm hlt).symm.map CoherentMemory.range).map
        pages).append_right _
    have hbooks := BusWindow.bookkeeping_filled windowBase size
    exact ⟨hbooks.give (hbooks.perm h.window hperm), h.keys⟩
  · exact h

/-- **No service spoils the books.** -/
theorem kept_serve (h : custody.Kept size) (service : Service) :
    (custody.serve service).Kept size := by
  have hbooks := BusWindow.bookkeeping_filled windowBase size
  cases service with
  | allocate bytes => exact kept_allocate h bytes
  | drop position => exact kept_drop h position
  | map index bytes =>
    exact ⟨books_map hbooks h.window h.keys rfl, keys_map h.keys rfl⟩
  | unmap index =>
    exact ⟨books_unmap custody.dma hbooks index h.window h.keys,
      (List.nodup_cons.mp (keys_unmap custody.dma index h.keys)).2⟩

/-- No services do. -/
lemma kept_serveAll (h : custody.Kept size) (services : List Service) :
    (custody.serveAll services).Kept size := by
  induction services generalizing custody with
  | nil => exact h
  | cons service rest ih => exact ih (kept_serve h service)

/-- A new backend has nothing to book, if its window lies in reach of the bus. -/
lemma kept_create (limit : Option Nat) (hsize : windowBase + size ≤ 0x100000000) :
    Kept size ⟨create size limit, []⟩ where
  window :=
    { start_eq := rfl
      size_eq := rfl
      inReach := hsize
      bounded := Nat.zero_le _
      whole := show pageSize ∣ windowBase by decide
      aligned := by simp [live, spans, create]
      fills := List.Perm.refl _ }
  keys := List.nodup_nil

/-- With the books kept, the ranges tile the window. -/
lemma Kept.tiled (h : custody.Kept size) : custody.Tiled size where
  aligned range hr := h.window.aligned range (List.mem_append_left _ hr)
  inside _ hr _ ha := h.window.mem_bounds hr ha
  disjoint := h.window.pairwise_disjoint
  tiles := h.window.fills
  bounded := h.window.bounded
  failing _ _ _ _ := mapped_of_map_error

end Custody

/-- **The window is tiled after any services**, whether they succeed or fail: coherent memory in
whole pages and the spans of mapped buffers are aligned to pages and lie in the window, no address
belongs to two ranges that are live or given back, all of them together are the part of the window
that is used up, and a mapping that fails leaves the mappings as they are.

**Proof sketch.** The window is filled by these ranges when nothing is handed out, and each service
only takes ranges from it or gives ranges back. -/
theorem tiled_of_serveAll {size : Nat} (hsize : windowBase + size ≤ 0x100000000)
    (limit : Option Nat) (services : List Service) :
    (Custody.serveAll ⟨create size limit, []⟩ services).Tiled size :=
  (Custody.kept_serveAll (Custody.kept_create limit hsize) services).tiled

/-- Services on a window of six pages: the second mapping fails midway, and the third replaces the
first. -/
def crampedServices : List Service :=
  [.allocate 6000, .map 0 4096, .map 1 8192, .drop 0, .map 0 100, .allocate 0, .allocate 1]

/-- The ranges tile the window of six pages after services of which one fails. -/
theorem tiled_of_serveAll_cramped :
    windowBase + 6 * pageSize ≤ 0x100000000 ∧
      ((Custody.serveAll ⟨create (6 * pageSize) none, []⟩
        (crampedServices.take 2)).dma.map 1 8192).1 = .error .outOfMemory ∧
      (Custody.serveAll ⟨create (6 * pageSize) none, []⟩ crampedServices).Tiled (6 * pageSize) :=
  ⟨by decide, by decide +kernel, tiled_of_serveAll (by decide) none crampedServices⟩

end HostDma

end VideoCapture
