import VideoCapture.Proofs.Machine.Housing

/-!
# How long devices that share a backend are kept apart

Devices on one backend capture into chunks of their own as long as nothing clashes: no chunk of any
device shares an address with another chunk, with a program of any device, or with what is on the
free list. One clash is enough to end that. A device that maps a buffer of an index that another
device has takes the chunks of the other away, although the other goes on to hold them: they are on
the free list at once, to be handed out to anyone, or a program lies there already.

## Main definitions

* `VideoCapture.Machine.Isolated` — chunks are apart from each other and from everything else.

## Main results

* `VideoCapture.Machine.Housed.isolated` — devices that share no index are isolated.
* `VideoCapture.Machine.Housed.not_isolated` — and are no longer after a clash.
* `VideoCapture.Machine.isolated_of_run` — so isolation lasts exactly until something clashes.
-/

set_option autoImplicit false

namespace VideoCapture.Machine

variable {s s' : Machine HostDma} {n i : Nat} {device : Device} {operation : Operation}

/-! ## Chunks -/

/-- The bus addresses of the chunks that the buffers in a place for a device hold. -/
def placeChunks (place : Option Device) : List BusRange :=
  (place.map fun device => device.queue.buffers.flatMap CaptureBuffer.chunkRanges).getD []

/-- The bus addresses of the chunks that the buffers of all devices hold. -/
def chunkRanges (s : Machine HostDma) : List BusRange :=
  s.devices.flatMap placeChunks

/-- The chunks in a place are those of the device there. -/
lemma mem_placeChunks {place : Option Device} {chunk : BusRange} :
    chunk ∈ placeChunks place ↔ ∃ device, place = some device ∧
      chunk ∈ device.queue.buffers.flatMap CaptureBuffer.chunkRanges := by
  cases place <;> simp [placeChunks]

/-- The chunks of a device are among all. -/
lemma mem_chunkRanges (hdevice : s.device? n = some device) {chunk : BusRange}
    (hchunk : chunk ∈ device.queue.buffers.flatMap CaptureBuffer.chunkRanges) :
    chunk ∈ s.chunkRanges :=
  List.mem_flatMap.mpr
    ⟨some device, List.mem_of_getElem? (Option.join_eq_some_iff.mp hdevice), hchunk⟩

/-- The chunks of all devices are kept apart: from each other, from what can be handed out next, and
from programs. -/
structure Isolated (s : Machine HostDma) : Prop where
  /-- No two chunks share an address, be they of one device or of two. -/
  apart : s.chunkRanges.Pairwise FreeRange.Apart
  /-- No chunk shares an address with what is on the free list. -/
  kept : ∀ chunk ∈ s.chunkRanges, ∀ range ∈ s.dma.window.free, chunk.Apart range
  /-- No chunk shares an address with a program. -/
  clear : ∀ chunk ∈ s.chunkRanges, ∀ range ∈ s.ranges, chunk.Apart range

/-! ## Without a clash -/

/-- The chunks in a place are those that the table has for an index at which they are held. -/
lemma Housed.lookup_of_mem (hs : s.Housed) {chunk : BusRange} (hdevice : s.device? n = some device)
    (hchunk : chunk ∈ device.queue.buffers.flatMap CaptureBuffer.chunkRanges) :
    ∃ i addresses capacity, device.queue.mappingOf i ≠ none ∧
      s.dma.mapped.lookup i = some addresses ∧
      chunk ∈ (HostDma.chunksAt capacity addresses).map Chunk.range := by
  obtain ⟨buffer, hbuffer, hchunk⟩ := List.mem_flatMap.mp hchunk
  obtain ⟨i, hi⟩ := List.mem_iff_getElem?.mp hbuffer
  obtain ⟨addresses, hmapping, hlookup, hchunks⟩ :=
    (hs.lodged n device hdevice).lookup_of_mem hi hchunk
  refine ⟨i, addresses, buffer.capacity, ?_, hlookup, hchunks ▸ hchunk⟩
  show (s.channel device).mappingOf i ≠ none
  rw [hmapping]
  exact nofun

/-- Each chunk belongs to a device that there is. -/
lemma exists_device_of_mem {chunk : BusRange} (hchunk : chunk ∈ s.chunkRanges) :
    ∃ n device, s.device? n = some device ∧
      chunk ∈ device.queue.buffers.flatMap CaptureBuffer.chunkRanges := by
  obtain ⟨place, hplace, hchunk⟩ := List.mem_flatMap.mp hchunk
  obtain ⟨device, rfl, hchunk⟩ := mem_placeChunks.mp hchunk
  obtain ⟨n, hn⟩ := List.mem_iff_getElem?.mp hplace
  exact ⟨n, device, Option.join_eq_some_iff.mpr hn, hchunk⟩

/-- The chunks of all devices are apart if no two devices share an index.

**Proof sketch.** Within a device chunks belong to different entries of the table or to one, where
they are apart. Those of two devices belong to different entries, as no index is held by both. -/
lemma Housed.pairwise_chunks (hs : s.Housed) : s.chunkRanges.Pairwise FreeRange.Apart := by
  refine List.pairwise_flatMap.mpr ⟨fun place hplace => ?_, ?_⟩
  · cases place with
    | none => exact .nil
    | some device =>
      obtain ⟨n, hn⟩ := List.mem_iff_getElem?.mp hplace
      have hlodged := hs.lodged n device (Option.join_eq_some_iff.mpr hn)
      refine hs.accounts.pairwise_chunkRanges fun i buffer hbuffer range hrange => ?_
      obtain ⟨addresses, -, hlookup, hchunks⟩ := hlodged.lookup_of_mem hbuffer hrange
      exact ⟨addresses, hlookup, hchunks⟩
  · rw [List.pairwise_iff_getElem]
    intro n m hn hm hnm a ha b hb
    obtain ⟨device, hget, ha⟩ := mem_placeChunks.mp ha
    obtain ⟨device', hget', hb⟩ := mem_placeChunks.mp hb
    have hdevice : s.device? n = some device :=
      Option.join_eq_some_iff.mpr ((List.getElem?_eq_getElem hn).trans (congrArg some hget))
    have hdevice' : s.device? m = some device' :=
      Option.join_eq_some_iff.mpr ((List.getElem?_eq_getElem hm).trans (congrArg some hget'))
    obtain ⟨i, addresses, capacity, hheld, hlookup, ha⟩ := hs.lookup_of_mem hdevice ha
    obtain ⟨j, addresses', capacity', hheld', hlookup', hb⟩ := hs.lookup_of_mem hdevice' hb
    have hij : i ≠ j := by
      rintro rfl
      obtain hnone | hnone := hs.sole n m device device' (Nat.ne_of_lt hnm) hdevice hdevice' i
      · exact hheld hnone
      · exact hheld' hnone
    exact hs.accounts.apart_chunks hij hlookup hlookup' ha hb

/-- **Devices that share no index are isolated.** -/
theorem Housed.isolated (hs : s.Housed) : s.Isolated where
  apart := hs.pairwise_chunks
  kept chunk hchunk range hrange := by
    obtain ⟨n, device, hdevice, hchunk⟩ := exists_device_of_mem hchunk
    obtain ⟨i, addresses, capacity, -, hlookup, hchunk⟩ := hs.lookup_of_mem hdevice hchunk
    exact hs.accounts.apart_free hlookup hchunk hrange
  clear chunk hchunk range hrange := by
    obtain ⟨n, device, hdevice, hchunk⟩ := exists_device_of_mem hchunk
    obtain ⟨i, addresses, capacity, -, hlookup, hchunk⟩ := hs.lookup_of_mem hdevice hchunk
    exact hs.accounts.apart_coherent hlookup hchunk hrange

/-! ## After a clash -/

/-- What begins at the same address is not apart, unless one of the two is empty. -/
lemma not_apart_of_address {a b : BusRange} (haddress : a.address = b.address) (ha : 0 < a.size)
    (hb : 0 < b.size) : ¬a.Apart b := by
  unfold FreeRange.Apart
  omega

/-- Operations that map a buffer are carried out on the queue of a device. -/
lemma worked_of_mapping (hmapping : s.mapping? operation = some (n, i))
    (h : s.perform operation = .ok s') : s.Worked n (some i) s' := by
  obtain ⟨hnone, -⟩ | ⟨m, index?, hmap, hworked⟩ :
      (s.mapping? operation = none ∧ s' = s) ∨ ∃ m index?,
        s.mapping? operation = index?.map (m, ·) ∧ s.Worked m index? s' := by
    cases operation with
    | ask opener wish => exact worked_of_ask h
    | work number work => exact worked_of_work h
    | get | put | probe | drop | openDevice | close | adjust | interrupt | service | change =>
      cases hmapping
  · cases hnone.symm.trans hmapping
  · obtain ⟨j, rfl, hpair⟩ := Option.map_eq_some_iff.mp (hmap.symm.trans hmapping)
    obtain ⟨rfl, rfl⟩ := Prod.mk.inj hpair
    exact hworked

/-- **After a clash devices are not isolated.** A chunk of the device that held a buffer of the
index begins where something on the free list does, or where the program of the other device
does.

**Proof sketch.** Mapping the buffer gives the entry of the other device back. A span of it is on
the free list then, or has become the memory of the new program, but the other device still holds a
chunk that begins there. -/
theorem Housed.not_isolated (hs : s.Housed) (hclash : s.Clashes operation)
    (h : s.perform operation = .ok s') : ¬s'.Isolated := by
  intro hisolated
  obtain ⟨n, i, m, other, hmapping, hm, hother, hheld⟩ := hclash
  obtain ⟨device, after, c, hdevice, htends, hqueue, hdevices, hdma⟩ := worked_of_mapping hmapping h
  have hget : ∀ k, s'.device? k = if k = n then some after else s.device? k := fun k => by
    rw [device?, hdevices]
    exact join_getElem?_set (lt_length_of_join hdevice) _ k
  have hstocked := hs.stocked n device hdevice
  obtain ⟨setup, hsetup⟩ := Option.ne_none_iff_exists'.mp hheld
  obtain ⟨addresses, hlookup, chunk, hchunk, span, hspan, haddress, hpos, hspanpos⟩ :=
    (hs.lodged m other hother).exists_chunk hsetup
  -- the other device still holds the chunk
  have hmem : chunk ∈ s'.chunkRanges :=
    mem_chunkRanges ((hget m).trans ((if_neg hm).trans hother)) hchunk
  obtain hfree | ⟨range, hrange, hpages⟩ :=
    htends.reissued i rfl _ addresses hstocked hlookup span hspan
  · rw [← hdma] at hfree
    exact not_apart_of_address haddress hpos hspanpos (hisolated.kept chunk hmem span hfree)
  · have hprogram : range ∈ s'.ranges := by
      refine List.mem_flatMap.mpr ⟨some after, ?_, ?_⟩
      · exact List.mem_of_getElem? (Option.join_eq_some_iff.mp ((hget n).trans (if_pos rfl)))
      · show range ∈ after.queue.ranges
        rwa [hqueue]
    have hsize : 0 < range.size := by
      rw [CaptureQueue.ranges_eq_map] at hrange
      obtain ⟨program, hmember, rfl⟩ := List.mem_map.mp hrange
      exact Program.size_range_pos ((htends.stocked _ hstocked).hasTail hmember)
    have hsame : chunk.address = range.address := haddress.trans (congrArg _ hpages).symm
    exact not_apart_of_address hsame hpos hsize (hisolated.clear chunk hmem range hprogram)

/-! ## Runs -/

/-- Whether an operation clashes can be told. -/
instance (s : Machine HostDma) (operation : Operation) : Decidable (s.Clashes operation) :=
  decidable_of_iff ((s.mapping? operation).any fun (n, i) =>
      (List.range s.devices.length).any fun m => m != n &&
        (s.device? m).any fun device => (device.queue.setupOf i).isSome) <| by
    simp only [Option.any_eq_true, List.any_eq_true, List.mem_range, Bool.and_eq_true, bne_iff_ne,
      Option.isSome_iff_ne_none, Clashes, Prod.exists]
    constructor
    · rintro ⟨n, i, hmapping, m, -, hm, device, hdevice, hheld⟩
      exact ⟨n, i, m, device, hmapping, hm, hdevice, hheld⟩
    · rintro ⟨n, i, m, device, hmapping, hm, hdevice, hheld⟩
      exact ⟨n, i, hmapping, m, lt_length_of_join hdevice, hm, device, hdevice, hheld⟩

/-- Lets one thing after the other happen, as long as nothing clashes. -/
def performApart (s : Machine HostDma) : List Operation → Option (Machine HostDma)
  | [] => some s
  | operation :: rest =>
    if s.Clashes operation then none
    else do (← (s.perform operation).toOption).performApart rest

/-- What happens one after the other is a run without a clash.

**Proof sketch.** Along the operations, for every machine that a run without a clash has led to. -/
lemma run_of_performApart {operations : List Operation}
    (h : s.performApart operations = some s') :
    Run (fun s operation => ¬s.Clashes operation) s s' := by
  suffices hall : ∀ s₁ : Machine HostDma, Run (fun s operation => ¬s.Clashes operation) s s₁ →
      s₁.performApart operations = some s' →
      Run (fun s operation => ¬s.Clashes operation) s s' from hall s .refl h
  clear h
  induction operations with
  | nil =>
    intro s₁ hrun h
    obtain rfl := Option.some.inj h
    exact hrun
  | cons operation rest ih =>
    intro s₁ hrun h
    unfold performApart at h
    split at h
    · cases h
    · next hclash =>
      obtain ⟨s₂, hperform, hrest⟩ := Option.bind_eq_some_iff.mp h
      exact ih s₂ (hrun.step hclash (toOption_eq_some.mp hperform)) hrest

/-- **Devices that share a backend are isolated exactly until something clashes**, in every run of
any number of them, as long as the window of the backend lies in reach of the bus. -/
theorem isolated_of_run {size : Nat} {limit : Option Nat}
    (hsize : HostDma.windowBase + size ≤ 0x100000000)
    (hrun : Run (fun s operation => ¬s.Clashes operation) (vacant (HostDma.create size limit)) s)
    (h : s.perform operation = .ok s') :
    s.Isolated ∧ (s'.Isolated ↔ ¬s.Clashes operation) := by
  have hs : s.Housed := housed_of_run hsize hrun
  refine ⟨hs.isolated, fun hisolated hclash => ?_, fun hclash => ?_⟩
  · exact hs.not_isolated hclash h hisolated
  · exact (housed_of_perform hs hclash h).isolated

/-- Two devices capture with chips of their own. The first has prepared its first buffer and the
second its second, and they are isolated. Then the second prepares its first buffer too. -/
theorem isolated_of_run_numbered :
    HostDma.windowBase + HostDma.windowSize ≤ 0x100000000 ∧
    ∃ s s' : Machine HostDma, ∃ operation,
      Run (fun s operation => ¬s.Clashes operation) (vacant HostDma.create) s ∧
      s.perform operation = .ok s' ∧ s.mapping? operation = some (1, 0) ∧
      (s.devices.map fun place => place.map Device.chip) = [some 0, some 1] ∧
      s.Isolated ∧ ¬s'.Isolated := by
  have hsize : HostDma.windowBase + HostDma.windowSize ≤ 0x100000000 := by decide
  let place (slot : Nat) : Location := { bus := 0, slot, vendor := 0, device := 0 }
  let small : FormatRequest :=
    { width := 48, height := 32, code := PixelFormat.initial.code, field := .bottom }
  have hrun : ∃ s ∈ (vacant HostDma.create).performApart
      [.probe (place 9) 0 {}, .probe (place 10) 1 {}, .openDevice 0, .openDevice 1,
        .ask 0 (.setFormat small), .ask 1 (.setFormat small), .ask 0 (.request 1),
        .ask 1 (.request 2), .ask 0 (.prepare 0), .ask 1 (.prepare 1)],
      s.mapping? (.ask 1 (.prepare 0)) = some (1, 0) ∧ s.Clashes (.ask 1 (.prepare 0)) ∧
      (s.devices.map fun place => place.map Device.chip) = [some 0, some 1] ∧
      (s.perform (.ask 1 (.prepare 0))).toOption.isSome = true := by decide +kernel
  obtain ⟨s, hapart, hmapping, hclash, hchips, hsome⟩ := hrun
  obtain ⟨s', hperform⟩ := Option.isSome_iff_exists.mp hsome
  have hrun := run_of_performApart hapart
  have hs' := toOption_eq_some.mp hperform
  obtain ⟨hisolated, hafter⟩ := isolated_of_run hsize hrun hs'
  exact ⟨hsize, s, s', _, hrun, hs', hmapping, hchips, hisolated,
    fun h => hafter.mp h hclash⟩

end VideoCapture.Machine
