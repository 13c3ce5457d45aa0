import VideoCapture.Proofs.Machine.Queues
import VideoCapture.Proofs.Queue.Shutdown

/-!
# Memory for buffers

An opener may have so many bytes of capture memory, and a request is cut down to as many buffers as
have room there. They are counted by the bytes of their images. What the queue sets aside for each
is a whole number of pages though, so that the buffers may take more memory than the opener may
have. This is so if and only if the request would have been cut down further, had the buffers been
counted by their pages.

## Main definitions

* `VideoCapture.CaptureQueue.reserved` — the bytes that are set aside for buffers.
* `VideoCapture.Seat.Allotted` — what an opener gets with its buffers.
* `VideoCapture.Seat.Boundless` — an opener with more memory than can be told.
* `VideoCapture.Seat.Eligible` — an opener that is not refused buffers.

## Main results

* `VideoCapture.le_fitting_iff` — as many fit as there is room for.
* `VideoCapture.mul_fitting_le_iff` — when what fits has room for something larger.
* `VideoCapture.Seat.exists_request`, `VideoCapture.Seat.allotted_of_request` — who gets buffers,
  and how many.
* `VideoCapture.Machine.allotted_of_run` — the same for all openers, whatever has happened.
-/

set_option autoImplicit false

namespace VideoCapture

/-! ## What fits -/

section Fitting

variable {size size' limit count m : Nat}

/-- **As many fit as there is room for**, out of those that are asked for. -/
theorem le_fitting_iff (hm : m ≤ count) : m ≤ fitting size limit count ↔ size * m ≤ limit := by
  unfold fitting
  split
  · next hall =>
    have hroom : size * m ≤ size * count := Nat.mul_le_mul_left size hm
    exact iff_of_true hm (hroom.trans hall)
  · next hcut =>
    have hsize : 0 < size := by
      refine Nat.pos_of_ne_zero fun hzero => hcut ?_
      rw [hzero, Nat.zero_mul]
      exact Nat.zero_le limit
    rw [Nat.le_div_iff_mul_le hsize, Nat.mul_comm]

/-- One fits if there is room for one. -/
lemma fitting_pos_iff (hcount : 0 < count) : 0 < fitting size limit count ↔ size ≤ limit := by
  rw [← Nat.mul_one size]
  exact (Nat.mul_one size).symm ▸ le_fitting_iff hcount

/-- Of what is larger no more fit. -/
lemma fitting_antitone (h : size ≤ size') :
    fitting size' limit count ≤ fitting size limit count := by
  rw [le_fitting_iff (fitting_le size' limit count)]
  calc size * fitting size' limit count
      ≤ size' * fitting size' limit count := Nat.mul_le_mul_right _ h
    _ ≤ limit := size_mul_fitting_le size' limit count

/-- **There is room for as many of something larger** if and only if as many of that fit. -/
theorem mul_fitting_le_iff (h : size ≤ size') :
    size' * fitting size limit count ≤ limit ↔
      fitting size' limit count = fitting size limit count := by
  rw [← le_fitting_iff (fitting_le size limit count)]
  exact ⟨(fitting_antitone h).antisymm, Eq.ge⟩

end Fitting

/-- Rounding up adds less than a page. -/
lemma wholePages_lt (size : Nat) : wholePages size < size + pageSize := by
  unfold wholePages pageSize
  omega

/-- Nothing is added to whole pages. -/
lemma wholePages_of_dvd {size : Nat} (h : pageSize ∣ size) : wholePages size = size := by
  unfold wholePages pageSize at *
  omega

/-! ## What is set aside -/

/-- The bytes that are set aside for the buffers of a queue. -/
def CaptureQueue.reserved (q : CaptureQueue) : Nat :=
  (q.buffers.map CaptureBuffer.capacity).sum

/-- A queue answers any request, and grants it while capture is off. -/
lemma Channel.requestBuffers_ends {δ : Type} [DmaBackend δ] {c : Channel δ} (hsettled : c.Settled)
    (count capacity : Nat) : ∃ result c', c.requestBuffers count capacity = .ok (result, c') ∧
      (c.streaming = false → result = .ok count) := by
  cases hstreaming : c.streaming with
  | true =>
    refine ⟨.error .busy, c, ?_, nofun⟩
    rw [requestBuffers, hstreaming]
    rfl
  | false =>
    obtain ⟨c', hrequest⟩ := exists_requestBuffers hsettled hstreaming count capacity
    exact ⟨.ok count, c', hrequest, fun _ => rfl⟩

namespace Seat

variable {δ : Type} {seat seat' : Seat δ} {count n : Nat}

/-- What an opener gets that has `n` buffers granted for a number of them. -/
structure Allotted (seat : Seat δ) (count n : Nat) (seat' : Seat δ) : Prop where
  /-- It gets a buffer at least. -/
  pos : 0 < n
  /-- It gets no more than are meant. -/
  le_meant : n ≤ meant count
  /-- It gets as many of them as there is room for images in its memory. -/
  most : ∀ m ≤ meant count, m ≤ n ↔ m * seat.opener.geometry.imageBytes ≤ seat.memoryBytes
  /-- They are new buffers of as many pages as an image takes. -/
  buffers : seat'.channel.buffers =
    List.replicate n { capacity := wholePages seat.opener.geometry.imageBytes }
  /-- So many bytes are set aside for them. -/
  reserved : seat'.channel.reserved = n * wholePages seat.opener.geometry.imageBytes
  /-- These are within its memory if and only if as many buffers fit when they are counted by their
  pages. -/
  within_iff : seat'.channel.reserved ≤ seat.memoryBytes ↔
    fitting (wholePages seat.opener.geometry.imageBytes) seat.memoryBytes (meant count) = n
  /-- They are whenever an image fills its pages. -/
  paged : pageSize ∣ seat.opener.geometry.imageBytes → seat'.channel.reserved ≤ seat.memoryBytes
  /-- Otherwise there are less than a page too many for each buffer. -/
  excess : seat'.channel.reserved < seat.memoryBytes + n * pageSize

/-- An opener may capture, but the memory that it may have cannot be told in 64 bits. -/
structure Boundless (seat : Seat δ) : Prop where
  /-- It has the right to capture, or the right is free. -/
  right : seat.opener.holds = true ∨ seat.chip.claimed = false
  /-- It may have more memory than can be told. -/
  wide : bound64 ≤ seat.memoryBytes

/-- An opener is not refused buffers. -/
structure Eligible (seat : Seat δ) : Prop where
  /-- It has the right to capture, or the right is free. -/
  right : seat.opener.holds = true ∨ seat.chip.claimed = false
  /-- Its memory has room for an image. -/
  room : seat.opener.geometry.imageBytes ≤ seat.memoryBytes
  /-- Capture is off. -/
  off : seat.channel.streaming = false

/-- Some buffers are meant by any number. -/
lemma meant_pos (count : Nat) : 0 < meant count := by
  unfold meant
  split
  · decide
  · next hcount => exact Nat.pos_of_ne_zero hcount

/-- An opener may have a buffer if there is room for an image in its memory. -/
lemma granted_pos_iff : 0 < seat.granted count ↔
    seat.opener.geometry.imageBytes ≤ seat.memoryBytes :=
  fitting_pos_iff (meant_pos count)

/-- It may have none if there is not. -/
lemma granted_eq_zero_iff :
    seat.granted count = 0 ↔ seat.memoryBytes < seat.opener.geometry.imageBytes := by
  have hsome : 0 < seat.granted count ↔ seat.opener.geometry.imageBytes ≤ seat.memoryBytes :=
    granted_pos_iff
  rw [← Nat.not_le, ← hsome, Nat.pos_iff_ne_zero, not_not]

/-- New buffers, as many as an opener may have, are what it gets.

**Proof sketch.** The number granted is the largest whose images fit. Whole pages are no less than
an image and less than a page more, so what is set aside compares with the memory as it says. -/
lemma allotted_of_replicate (hroom : seat.opener.geometry.imageBytes ≤ seat.memoryBytes)
    (hbuffers : seat'.channel.buffers = List.replicate (seat.granted count)
      { capacity := wholePages seat.opener.geometry.imageBytes }) :
    seat.Allotted count (seat.granted count) seat' := by
  have hle := fitting_le seat.opener.geometry.imageBytes seat.memoryBytes (meant count)
  have hfits := size_mul_fitting_le seat.opener.geometry.imageBytes seat.memoryBytes (meant count)
  have hreserved : seat'.channel.reserved =
      seat.granted count * wholePages seat.opener.geometry.imageBytes := by
    rw [CaptureQueue.reserved, hbuffers, List.map_replicate, List.sum_replicate_nat]
  have hpos : 0 < seat.granted count := granted_pos_iff.mpr hroom
  refine ⟨hpos, hle, fun m hm => ?_, hbuffers, hreserved, ?_, fun hpaged => ?_, ?_⟩
  · rw [Nat.mul_comm]
    exact le_fitting_iff hm
  · rw [hreserved, Nat.mul_comm]
    exact mul_fitting_le_iff (le_wholePages _)
  · rw [hreserved, wholePages_of_dvd hpaged, Nat.mul_comm]
    exact hfits
  · calc seat'.channel.reserved
        = seat.granted count * wholePages seat.opener.geometry.imageBytes := hreserved
      _ < seat.granted count * (seat.opener.geometry.imageBytes + pageSize) :=
        Nat.mul_lt_mul_of_pos_left (wholePages_lt _) hpos
      _ = seat.opener.geometry.imageBytes * seat.granted count + seat.granted count * pageSize := by
        rw [Nat.mul_add, Nat.mul_comm _ seat.opener.geometry.imageBytes]
      _ ≤ seat.memoryBytes + seat.granted count * pageSize := Nat.add_le_add_right hfits _

variable [DmaBackend δ]

/-- Only an opener that is not refused buffers gets any, and that is what it gets. -/
theorem allotted_of_request (h : seat.request count = .ok (.ok n, seat')) :
    seat.Eligible ∧ seat.Allotted count n seat' := by
  obtain ⟨_, -, hrefused, -⟩ | ⟨seat₁, hclaim, -, ⟨-, hrefused, -⟩ | ⟨hsome, hact⟩⟩ :=
    request_cases h
  · cases hrefused
  · cases hrefused
  · obtain ⟨-, hrefused, -⟩ | ⟨-, channel, hrequested, rfl⟩ := ifHolding_cases hact
    · cases hrefused
    · obtain ⟨-, hrefused, -⟩ | ⟨hoff, _, _, -, hgranted, rfl⟩ :=
        Channel.requestBuffers_cases hrequested
      · cases hrefused
      · obtain rfl := Except.ok.inj hgranted
        have hroom := granted_pos_iff.mp (Nat.pos_of_ne_zero hsome)
        obtain ⟨hholds, rfl⟩ | ⟨-, hfree, rfl⟩ := claim_cases hclaim
        · exact ⟨⟨.inl hholds, hroom, hoff⟩, allotted_of_replicate hroom rfl⟩
        · exact ⟨⟨.inr hfree, hroom, hoff⟩, allotted_of_replicate hroom rfl⟩

/-- **A request breaks off** if the opener may have more memory than can be told. -/
theorem Boundless.request_eq (h : seat.Boundless) (count : Nat) :
    seat.request count = .error .numberTooWide := by
  obtain ⟨seat₁, hclaim⟩ := exists_claim h.right
  rw [request_of_claim hclaim, memoryBytes_of_claim hclaim, if_pos h.wide]

/-- **Otherwise a request is answered**, and an opener that is eligible gets buffers.

**Proof sketch.** If the right cannot be claimed the request is refused. If it can, the product that
counts the bytes does not overflow, and either not even one image fits or the queue is asked for as
many as do. -/
theorem exists_request (hsettled : seat.channel.Settled) (hbound : ¬seat.Boundless)
    (count : Nat) : ∃ result seat', seat.request count = .ok (result, seat') ∧
      (seat.Eligible → ∃ n, result = .ok n) := by
  cases hclaim : seat.claim with
  | error error =>
    refine ⟨.error error, seat, by rw [request, hclaim]; rfl, fun heligible => ?_⟩
    obtain ⟨after, hclaimed⟩ := exists_claim heligible.right
    cases hclaim.symm.trans hclaimed
  | ok seat₁ =>
    have hnarrow : ¬bound64 ≤ seat₁.memoryBytes := by
      rw [memoryBytes_of_claim hclaim]
      exact fun hwide => hbound ⟨right_of_claim hclaim, hwide⟩
    have hrequest := (request_of_claim hclaim count).trans (if_neg hnarrow)
    by_cases hnone : seat₁.granted count = 0
    · refine ⟨_, _, hrequest.trans (if_pos hnone), fun heligible => ?_⟩
      have hsome : 0 < seat.granted count := granted_pos_iff.mpr heligible.room
      exact absurd ((granted_of_claim hclaim count).symm.trans hnone) (Nat.ne_of_gt hsome)
    · rw [if_neg hnone] at hrequest
      have hchannel := channel_of_claim hclaim
      obtain ⟨result, c, hact, hgets⟩ := Channel.requestBuffers_ends (hchannel ▸ hsettled)
        (seat₁.granted count) (wholePages seat₁.opener.geometry.imageBytes)
      exact ⟨result, _, hrequest.trans (ifHolding_of_holds (holds_of_claim hclaim) hact),
        fun heligible => ⟨_, hgets (hchannel ▸ heligible.off)⟩⟩

end Seat

namespace Machine

variable {δ : Type} [DmaBackend δ] {s : Machine δ} {number : Nat} {seat : Seat δ}

/-- The queues of all devices are settled, whatever has happened. -/
lemma settled_of_run {admits : Machine δ → Operation → Prop} {dma : δ}
    (h : Run admits (vacant dma) s) :
    ∀ n device, s.device? n = some device → device.queue.Settled :=
  queue_of_run Channel.settled_of_create
    (fun hc hone => Channel.keeping_settled.relating.of_perform hone hc) h

/-- A device is opened once, with one mebibyte of capture memory, and the opener takes a format for
small frames. -/
def modestOperations : List Operation :=
  [.probe { bus := 0, slot := 9, vendor := 0, device := 0 } 0 { memoryLimit := 1 },
    .openDevice 0, .ask 0 (.setFormat
      { width := 48, height := 32, code := PixelFormat.initial.code, field := .bottom })]

/-- **Who gets buffers, and how many.** Whatever has happened, a request for any number of buffers
is answered, unless the opener may capture and its limit comes to more bytes than 64 bits can tell;
then it breaks off. The opener gets some if and only if it is eligible, and then as many of those
that are meant as there is room for images in its memory. They are set aside by whole pages, and
these are within its memory if and only if no fewer would have fitted when counted by their
pages. -/
theorem allotted_of_run {dma : δ} (h : Run (fun _ _ => True) (vacant dma) s)
    (hseat : s.seat? number = some seat) (count : Nat) :
    (seat.Boundless ∧ seat.request count = .error .numberTooWide) ∨
      ¬seat.Boundless ∧ ∃ result seat', seat.request count = .ok (result, seat') ∧
        ((∃ n, result = .ok n) ↔ seat.Eligible) ∧
        ∀ n, result = .ok n → seat.Allotted count n seat' := by
  obtain ⟨entry, device, chip, -, hdevice, -, hsame⟩ := seat?_eq_some.mp hseat
  have hsettled : seat.channel.Settled := by
    rw [hsame]
    exact settled_of_run h _ device hdevice
  by_cases hbound : seat.Boundless
  · exact .inl ⟨hbound, hbound.request_eq count⟩
  obtain ⟨result, seat', hrequest, hgets⟩ := Seat.exists_request hsettled hbound count
  refine .inr ⟨hbound, result, seat', hrequest, ⟨?_, hgets⟩, ?_⟩
  · rintro ⟨n, rfl⟩
    exact (Seat.allotted_of_request hrequest).1
  · rintro n rfl
    exact (Seat.allotted_of_request hrequest).2

/-- An opener with one mebibyte for its buffers gets all of 200 that it asks for, for which more
than one and a half are set aside. -/
theorem allotted_of_run_modest : ∃ (s : Machine HostDma) (seat seat' : Seat HostDma),
    Run (fun _ _ => True) (vacant HostDma.create) s ∧ s.seat? 0 = some seat ∧
      seat.request 200 = .ok (.ok 200, seat') ∧ seat.Allotted 200 200 seat' ∧
      seat.memoryBytes = 1048576 ∧ seat'.channel.reserved = 1638400 := by
  have hview : (do
      let s ← ((vacant HostDma.create).performAll modestOperations).toOption
      let seat ← s.seat? 0
      let (result, _) ← (seat.request 200).toOption
      let n ← result.toOption
      return (n, seat.memoryBytes, seat.opener.geometry.imageBytes)) =
        some (200, 1048576, 4608) := by decide +kernel
  simp only [Option.bind_eq_bind, Option.bind_eq_some_iff, Option.pure_def, Option.some.injEq,
    Prod.mk.injEq] at hview
  obtain ⟨s, hrun, seat, hseat, ⟨result, seat'⟩, hrequest, n, hresult, rfl, hmemory, himage⟩ :=
    hview
  obtain rfl := toOption_eq_some.mp hresult
  have hreach : Run (fun _ _ => True) (vacant HostDma.create) s :=
    run_of_performAll (fun _ _ _ => trivial) (toOption_eq_some.mp hrun)
  -- What the evaluation leaves open, the state afterwards, is the one that the theorem is about.
  obtain ⟨-, hwide⟩ | ⟨-, _, _, hagain, -, hallotted⟩ := allotted_of_run hreach hseat 200
  · cases (toOption_eq_some.mp hrequest).symm.trans hwide
  obtain ⟨rfl, rfl⟩ :=
    Prod.mk.inj (Except.ok.inj ((toOption_eq_some.mp hrequest).symm.trans hagain))
  have hgiven := hallotted 200 rfl
  refine ⟨s, seat, seat', hreach, hseat, hagain, hgiven, hmemory, ?_⟩
  rw [hgiven.reserved, himage]
  rfl

end Machine

end VideoCapture
