import VideoCapture.Proofs.Buffer.Parts
import VideoCapture.Proofs.Queue.Confinement
import VideoCapture.Proofs.Queue.Staging
import VideoCapture.Proofs.Queue.Tally

/-!
# What a queue holds at any time

Preparing a buffer acquires a mapping and a program, and can fail before, between and after. Buffers
are released by a failed preparation, by a request for others, when capture stops and when the queue
is shut down. Whatever the users of a queue do, nothing is left over: a buffer has all its parts or
none, the backend has as many coherent allocations outstanding as there are programs, and it has
mapped those buffers and no others that have chunks.

## Main definitions

* `VideoCapture.Channel.Inventoried` — the buffers and the backend agree on what is held.

## Main results

* `VideoCapture.Channel.inventoried_of_reaches` — they do after every session.
-/

set_option autoImplicit false

namespace VideoCapture

/-- The keys of a table are those that it answers. -/
lemma mem_keys_iff {β : Type} {entries : List (Nat × β)} {key : Nat} :
    key ∈ entries.map Prod.fst ↔ entries.lookup key ≠ none := by
  induction entries with
  | nil => simp
  | cons entry rest ih =>
    rw [List.map_cons, List.mem_cons, List.lookup_cons, ih]
    by_cases hkey : key = entry.1
    · simp [hkey]
    · rw [beq_eq_false_iff_ne.mpr hkey]
      exact or_iff_right hkey

/-- The programs of buffers, counted.

**Proof sketch.** Along the buffers, each of which is counted on either side if it has a program. -/
lemma sum_tally (buffers : List CaptureBuffer) :
    (buffers.map CaptureBuffer.tally).sum =
      buffers.countP fun buffer => buffer.parts.program.isSome := by
  induction buffers with
  | nil => rfl
  | cons buffer rest ih =>
    rw [List.map_cons, List.sum_cons, ih, List.countP_cons, Nat.add_comm]
    cases hsetup : buffer.setup <;>
      simp [CaptureBuffer.tally, CaptureBuffer.parts, hsetup]

namespace Channel

variable {c c' : Channel HostDma}

/-- The buffers of a queue and the backend that it has for itself agree on what is held. -/
structure Inventoried (c : Channel HostDma) : Prop where
  /-- A buffer needs to be initialised exactly as long as it has none of its parts. -/
  bare : ∀ buffer ∈ c.buffers, buffer.state = .needsInit ↔ buffer.parts.Bare
  /-- Otherwise it has all of them. -/
  full : ∀ buffer ∈ c.buffers, buffer.state ≠ .needsInit → buffer.parts.Full
  /-- To prepare a buffer part by part comes to the same as to prepare it at once. -/
  whole : ∀ buffer ∈ c.buffers, ∀ (i : Nat) (geometry : Geometry) (norm : Norm),
    buffer.parts.prepare c.dma i geometry norm c.lineOffset =
      CaptureBuffer.partsOf (buffer.prepare c.dma i geometry norm c.lineOffset)
  /-- The stopper and the buffers with a program are what is allocated. -/
  live : c.dma.live = 1 + c.buffers.countP fun buffer => buffer.parts.program.isSome
  /-- The buffers with chunks are what is mapped. -/
  mapped : ∀ i, i ∈ c.dma.mapped.map Prod.fst ↔
    ∃ buffer, c.buffers[i]? = some buffer ∧ buffer.parts.chunks ≠ none
  /-- Once capture has been stopped only the stopper is left. -/
  stopped : ∀ c', c.streamOff = .ok (.ok (), c') → c'.dma.live = 1 ∧ c'.dma.mapped = []
  /-- So it is once the buffers have been replaced. -/
  replaced : ∀ (count capacity n : Nat) (c' : Channel HostDma),
    c.requestBuffers count capacity = .ok (.ok n, c') → c'.dma.live = 1 ∧ c'.dma.mapped = []

/-- With buffers that hold nothing only the stopper is allocated, and nothing is mapped. -/
lemma alone_of_empty (hsited : c.Sited) (htallied : c.Tallied)
    (hempty : ∀ buffer ∈ c.buffers, buffer.setup = none) :
    c.dma.live = 1 ∧ c.dma.mapped = [] := by
  constructor
  · rw [htallied, sum_tally, List.countP_eq_zero.mpr]
    intro buffer hbuffer
    simp [CaptureBuffer.parts, hempty buffer hbuffer]
  · refine eq_nil_of_lookup fun i => (hsited.table i).trans ?_
    refine Option.bind_eq_none_iff.mpr fun buffer hbuffer => ?_
    rw [CaptureBuffer.addresses, hempty buffer (List.mem_of_getElem? hbuffer)]
    rfl

/-- What is mapped are the buffers with chunks, if the table agrees with the buffers. -/
lemma Sited.mem_mapped_iff (hc : c.Sited) (i : Nat) : i ∈ c.dma.mapped.map Prod.fst ↔
    ∃ buffer, c.buffers[i]? = some buffer ∧ buffer.parts.chunks ≠ none := by
  rw [mem_keys_iff, hc.table]
  cases c.buffers[i]? with
  | none => simp
  | some buffer => simp [CaptureBuffer.addresses, CaptureBuffer.parts]

/-- **The buffers of a queue and its backend agree after every session**, for a queue that has the
backend for itself, whatever the size of the window and the limit on allocations.

**Proof sketch.** Each operation keeps the stages in agreement with what the buffers hold, the table
of mappings with their chunks, and the count of allocations with their programs. -/
theorem inventoried_of_reaches {regs : RegisterFile} {size : Nat} {limit : Option Nat}
    {dma : HostDma} {config : Config} {c₀ : Channel HostDma}
    (hcreate : create regs (HostDma.create size limit) config = (.ok c₀, dma))
    (h : c₀.Reaches c) : c.Inventoried := by
  have hstaged : c.Staged := staged_of_reaches hcreate h
  have hsited : c.Sited := sited_of_reaches hcreate h
  have htallied : c.Tallied := tallied_of_reaches hcreate h
  refine ⟨fun buffer hbuffer => ?_, fun buffer hbuffer hstate => ?_, fun buffer hbuffer i g n => ?_,
    ?_, hsited.mem_mapped_iff, fun c' hoff => ?_, fun count capacity n c' hrequest => ?_⟩
  · exact (hstaged buffer hbuffer).trans CaptureBuffer.bare_parts_iff.symm
  · exact CaptureBuffer.full_parts fun hnone => hstate ((hstaged buffer hbuffer).mpr hnone)
  · exact CaptureBuffer.prepare_parts (hstaged buffer hbuffer) c.dma i g n c.lineOffset
  · rw [htallied, sum_tally, Nat.add_comm]
  · refine alone_of_empty (keeping_sited.streamOff hsited hoff)
      (keeping_tallied.streamOff htallied hoff) fun buffer hbuffer => ?_
    obtain ⟨-, hrefused, -⟩ | ⟨-, -, released, _, hrelease, rfl⟩ := streamOff_cases hoff
    · cases hrefused
    · obtain ⟨rfl, -⟩ := released_of_releaseAll hrelease
      obtain ⟨_, -, rfl⟩ := List.mem_map.mp hbuffer
      rfl
  · refine alone_of_empty (keeping_sited.request hsited hrequest)
      (keeping_tallied.request htallied hrequest) fun buffer hbuffer => ?_
    obtain ⟨-, hrefused, -⟩ | ⟨-, _, _, -, -, rfl⟩ := requestBuffers_cases hrequest
    · cases hrefused
    · rw [(List.mem_replicate.mp hbuffer).2]

/-- Two buffers are prepared of which the second finds no memory for its program, and then the first
is prepared for a frame that its norm does not accept, in vain, and anew. -/
def meagreOperations : List CaptureQueue.Operation :=
  let small : Geometry := { width := 48, height := 32, format := .initial, field := .bottom }
  let tall : Geometry := { small with height := 4000 }
  [.request 2 8192, .prepare 0 small .initial, .prepare 1 small .initial, .prepare 0 tall .initial,
    .prepare 1 small .initial, .prepare 0 small .initial]

/-- The buffers and the backend agree after a session in which preparations fail. -/
theorem inventoried_of_reaches_meagre : ∃ c₀ dma c,
    create {} (HostDma.create (16 * pageSize) (some 2)) {} = (.ok c₀, dma) ∧ c₀.Reaches c ∧
      c.buffers.map CaptureBuffer.state = [.needsInit, .prepared] ∧ c.dma.live = 2 ∧
      c.dma.mapped.map Prod.fst = [1] ∧ c.Inventoried := by
  have hview : viewFrom (HostDma.create (16 * pageSize) (some 2)) meagreOperations
      (fun c => (c.buffers.map CaptureBuffer.state, c.dma.live, c.dma.mapped.map Prod.fst)) =
        some ([.needsInit, .prepared], 2, [1]) := by
    decide +kernel
  obtain ⟨c₀, dma, c, hcreate, hreach, hc⟩ := exists_session_of_viewFrom hview
  obtain ⟨hstates, hlive, hmapped⟩ : _ ∧ _ ∧ _ := by simpa only [Prod.mk.injEq] using hc
  exact ⟨c₀, dma, c, hcreate, hreach, hstates, hlive, hmapped,
    inventoried_of_reaches hcreate hreach⟩

end Channel

end VideoCapture
