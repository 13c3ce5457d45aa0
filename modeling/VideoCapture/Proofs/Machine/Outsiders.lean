import VideoCapture.Proofs.Machine.Closing

/-!
# Openers without the right to capture

While one opener of a device has the right to capture, what the others do should concern nobody but
themselves: taking a format changes no more than the opener's own, closing changes nothing, and all
the rest is refused. One way in is open. A buffer that is prepared already is handed in without a
look at the right, and joins the stream of the opener that has it. This is the only exception: an
opener without the right leaves memory, registers, chips and queues as they are if and only if it
does not hand in a prepared buffer that is not in the stream.

## Main definitions

* `VideoCapture.Machine.Outsider` — an opener without the right while another opener of the device
  has it.
* `VideoCapture.Machine.Slips` — the exception.
* `VideoCapture.Machine.Secluded` — what an opener can do to a device that others capture with.

## Main results

* `VideoCapture.Machine.secluded_of_run` — openers without the right are kept away from the device,
  apart from the exception.
-/

set_option autoImplicit false

namespace VideoCapture.Machine

open CaptureQueue (Answer)

variable {δ : Type} {s s' : Machine δ} {number : Nat} {entry : OpenDevice} {device : Device}

variable [DmaBackend δ]

/-! ## Openers without the right -/

omit [DmaBackend δ] in
/-- An opener has not got the right to capture, while another opener of the same device has it. -/
structure Outsider (s : Machine δ) (number : Nat) (entry : OpenDevice) : Prop where
  /-- It is an opener. -/
  opened : s.opener? number = some entry
  /-- It has not got the right. -/
  without : entry.opener.holds = false
  /-- Another opener of the device has. -/
  holder : ∃ i other, s.opener? i = some other ∧ other.device = entry.device ∧
    other.opener.holds = true

/-- Whether an operation hands in a buffer of a device that is prepared already and not in the
stream yet. -/
def Slips (s : Machine δ) (device : Nat) (operation : Seat.Operation) : Prop :=
  ∃ d, s.device? device = some d ∧ operation.SlipsIn d.queue

/-- What an opener can do to a device that others capture with. -/
structure Secluded (s : Machine δ) (number device : Nat) : Prop where
  /-- Whatever it asks for touches nothing, except for the buffers that slip in. -/
  spares : ∀ operation answer s', s.ask number operation = .ok (answer, s') →
    (s.Untouched s' ↔ ¬s.Slips device operation)
  /-- Whatever else it asks for is refused, except for a format of its own. -/
  refuses : ∀ operation, (∀ request, operation ≠ .setFormat request) →
    ¬s.Slips device operation → ∃ error s', s.ask number operation = .ok (some (.refused error), s')
  /-- A buffer that slips in joins the stream of the device. -/
  admits : ∀ now index answer s', s.Slips device (.enqueue now index) →
    s.ask number (.enqueue now index) = .ok (answer, s') → answer = some .done ∧
      ∃ d d', s.device? device = some d ∧ s'.device? device = some d' ∧
        d'.queue.stream = d.queue.stream ++ [index]
  /-- While capture is off nothing keeps it from that. -/
  exposed : ∀ d now index, s.device? device = some d → d.queue.streaming = false →
    s.Slips device (.enqueue now index) →
      ∃ s', s.ask number (.enqueue now index) = .ok (some .done, s')
  /-- It can be closed, which touches nothing. -/
  closes : ∃ s', s.close number = .ok (true, s') ∧ s.Untouched s'

/-- What an opener asks for is done with what it works on. -/
lemma ask_eq {seat : Seat δ} (hseat : s.seat? number = some seat) (operation : Seat.Operation) :
    s.ask number operation = do
      let (answer, after) ← seat.perform operation
      return (some answer, s.setSeat number after) := by
  unfold ask
  rw [hseat]

/-- While capture is off a prepared buffer that is not in the stream is handed in by anyone. -/
lemma Orderly.exists_ask_of_slipsIn (h : s.Orderly) (hentry : s.opener? number = some entry)
    (hdevice : s.device? entry.device = some device) (hoff : device.queue.streaming = false)
    {now : Int} {index : Nat} (hslips : (Seat.Operation.enqueue now index).SlipsIn device.queue) :
    ∃ s', s.ask number (.enqueue now index) = .ok (some .done, s') := by
  obtain ⟨seat, hseat, -, -, -, hchannel⟩ := h.exists_seat hentry hdevice
  have hready : (Seat.Operation.enqueue now index).SlipsIn seat.channel.toCaptureQueue := by
    rwa [hchannel]
  obtain ⟨after, hperform⟩ := Seat.exists_perform_of_slipsIn hready (by rwa [hchannel])
  exact ⟨_, (ask_eq hseat _).trans (bind_eq_ok.mpr ⟨_, hperform, rfl⟩)⟩

namespace Outsider

omit [DmaBackend δ] in
/-- An opener without the right works on a chip whose right is taken. -/
lemma barred (houtsider : s.Outsider number entry) (h : s.Orderly)
    (hdevice : s.device? entry.device = some device) {seat : Seat δ}
    (hopener : seat.opener = entry.opener) (hnumber : seat.chip.number = device.chip)
    (hchip : s.chips[seat.chip.number]? = some seat.chip) : seat.Barred := by
  refine ⟨hopener ▸ houtsider.without, ?_⟩
  -- the chip has the right noted as taken, because the other opener has it
  obtain ⟨i, other, hother, hsame, hholds⟩ := houtsider.holder
  refine (h.taken _ _ hchip).mpr ⟨i, ?_⟩
  rw [held?_of_opener? hother (hsame ▸ hdevice), if_pos hholds, hnumber]

/-- What an opener without the right asks for. -/
lemma exists_ask (houtsider : s.Outsider number entry) (h : s.Orderly)
    (hdevice : s.device? entry.device = some device) :
    ∃ seat : Seat δ, seat.Barred ∧ seat.channel = s.channel device ∧
      s.chips[seat.chip.number]? = some seat.chip ∧ ∀ operation,
        s.ask number operation = do
          let (answer, after) ← seat.perform operation
          return (some answer, s.setSeat number after) := by
  obtain ⟨seat, hseat, hopener, hnumber, hchip, hchannel⟩ :=
    h.exists_seat houtsider.opened hdevice
  exact ⟨seat, houtsider.barred h hdevice hopener hnumber hchip, hchannel, hchip, ask_eq hseat⟩

/-- What does not slip in touches nothing. -/
lemma untouched_of_ask (houtsider : s.Outsider number entry) (h : s.Orderly)
    {operation : Seat.Operation} {answer : Option Answer}
    (hout : ¬s.Slips entry.device operation) (hask : s.ask number operation = .ok (answer, s')) :
    s.Untouched s' := by
  obtain ⟨device, hdevice⟩ := h.openers _ _ houtsider.opened
  obtain ⟨seat, hbarred, hchannel, hchip, hasks⟩ := houtsider.exists_ask h hdevice
  rw [hasks] at hask
  obtain ⟨⟨given, after⟩, hperform, hask⟩ := bind_eq_ok.mp hask
  obtain ⟨-, rfl⟩ := Prod.mk.inj (pure_eq_ok.mp hask)
  by_cases hformat : ∃ request, operation = .setFormat request
  · obtain ⟨request, rfl⟩ := hformat
    obtain ⟨result, hset, -⟩ := Seat.exists_result hperform
    obtain ⟨geometry, rfl⟩ := Seat.exists_of_setFormat hset
    exact untouched_setSeat houtsider.opened hdevice hchip hchannel
  · obtain ⟨error, hrefused⟩ := hbarred.refused operation
      (fun request heq => hformat ⟨request, heq⟩)
      (fun hin => hout ⟨device, hdevice, by rwa [hchannel] at hin⟩)
    obtain ⟨-, rfl⟩ := Prod.mk.inj (Except.ok.inj (hrefused.symm.trans hperform))
    exact untouched_setSeat houtsider.opened hdevice hchip hchannel

/-- What does not slip in is refused, unless a format is taken. -/
lemma exists_refused (houtsider : s.Outsider number entry) (h : s.Orderly)
    {operation : Seat.Operation} (hformat : ∀ request, operation ≠ .setFormat request)
    (hout : ¬s.Slips entry.device operation) :
    ∃ error s', s.ask number operation = .ok (some (.refused error), s') := by
  obtain ⟨device, hdevice⟩ := h.openers _ _ houtsider.opened
  obtain ⟨seat, hbarred, hchannel, -, hasks⟩ := houtsider.exists_ask h hdevice
  obtain ⟨error, hrefused⟩ := hbarred.refused operation hformat
    (fun hin => hout ⟨device, hdevice, by rwa [hchannel] at hin⟩)
  exact ⟨error, _, (hasks operation).trans (bind_eq_ok.mpr ⟨_, hrefused, rfl⟩)⟩

/-- A buffer that slips in joins the stream of the device. -/
lemma joins_of_ask (houtsider : s.Outsider number entry) (h : s.Orderly) {now : Int} {index : Nat}
    {answer : Option Answer} (hin : s.Slips entry.device (.enqueue now index))
    (hask : s.ask number (.enqueue now index) = .ok (answer, s')) :
    answer = some .done ∧ ∃ d d', s.device? entry.device = some d ∧
      s'.device? entry.device = some d' ∧ d'.queue.stream = d.queue.stream ++ [index] := by
  obtain ⟨device, hdevice, hslips⟩ := hin
  obtain ⟨seat, -, hchannel, -, hasks⟩ := houtsider.exists_ask h hdevice
  rw [hasks] at hask
  obtain ⟨⟨given, after⟩, hperform, hask⟩ := bind_eq_ok.mp hask
  obtain ⟨rfl, rfl⟩ := Prod.mk.inj (pure_eq_ok.mp hask)
  obtain ⟨rfl, hstream⟩ := Seat.perform_of_slipsIn (by rwa [hchannel]) hperform
  refine ⟨rfl, device, _, hdevice,
    (device?_setSeat houtsider.opened hdevice after _).trans (if_pos rfl), ?_⟩
  exact hstream.trans (by rw [hchannel]; rfl)

/-- So what slips in does not leave the device alone. -/
lemma not_untouched_of_ask (houtsider : s.Outsider number entry) (h : s.Orderly)
    {operation : Seat.Operation} {answer : Option Answer} (hin : s.Slips entry.device operation)
    (hask : s.ask number operation = .ok (answer, s')) : ¬s.Untouched s' := by
  intro huntouched
  cases operation with
  | enqueue now index =>
    obtain ⟨-, d, d', hd, hd', hstream⟩ := houtsider.joins_of_ask h hin hask
    rw [device?, huntouched.devices] at hd'
    obtain rfl := Option.some.inj (hd'.symm.trans hd)
    simp at hstream
  | _ =>
    obtain ⟨_, -, hnever⟩ := hin
    exact hnever

/-- An opener without the right can be closed. -/
lemma exists_close (houtsider : s.Outsider number entry) (h : s.Orderly) :
    ∃ s', s.close number = .ok (true, s') ∧ s.Untouched s' := by
  obtain ⟨device, hdevice⟩ := h.openers _ _ houtsider.opened
  obtain ⟨i, other, hother, hsame, hholds⟩ := houtsider.holder
  have hne : i ≠ number := by
    rintro rfl
    obtain rfl := Option.some.inj (hother.symm.trans houtsider.opened)
    exact absurd (hholds.symm.trans houtsider.without) nofun
  obtain ⟨s', hclose, huntouched, -⟩ := exists_close_of_without h houtsider.opened hdevice
    houtsider.without (.inr ⟨i, other, hother, hsame, hne⟩)
  exact ⟨s', hclose, huntouched⟩

end Outsider

/-- A device is opened twice. The first opener prepares a buffer for small frames and starts
capture. -/
def sharedOperations : List Operation :=
  [.probe { bus := 0, slot := 9, vendor := 0, device := 0 } 0 {}, .openDevice 0, .openDevice 0,
    .ask 0 (.setFormat
      { width := 48, height := 32, code := PixelFormat.initial.code, field := .bottom }),
    .ask 0 (.request 1), .ask 0 (.prepare 0), .ask 0 (.streamOn 0)]

/-- **While one opener of a device has the right to capture, the others leave it alone**, whatever
has happened to the machine before, unless they hand in a buffer that is prepared and not in the
stream. -/
theorem secluded_of_run {dma : δ} (h : Run (fun _ _ => True) (vacant dma) s)
    (houtsider : s.Outsider number entry) : s.Secluded number entry.device := by
  have horderly := orderly_of_run h (orderly_vacant dma)
  exact
    { spares := fun _ _ _ hask =>
        ⟨fun huntouched hin => houtsider.not_untouched_of_ask horderly hin hask huntouched,
          fun hout => houtsider.untouched_of_ask horderly hout hask⟩
      refuses := fun _ hformat hout => houtsider.exists_refused horderly hformat hout
      admits := fun _ _ _ _ hin hask => houtsider.joins_of_ask horderly hin hask
      exposed := fun _ _ _ hdevice hoff ⟨_, hd, hslips⟩ =>
        horderly.exists_ask_of_slipsIn houtsider.opened hdevice hoff
          (Option.some.inj (hd.symm.trans hdevice) ▸ hslips)
      closes := houtsider.exists_close horderly }

/-- The first of two openers prepares a buffer and starts capture. The second hands the buffer in,
and the engine runs. -/
theorem secluded_of_run_shared : ∃ s s' : Machine HostDma, ∃ entry,
    Run (fun _ _ => True) (vacant HostDma.create) s ∧ s.Outsider 1 entry ∧
      s.Secluded 1 entry.device ∧ s.Slips entry.device (.enqueue 0 0) ∧
      s.ask 1 (.enqueue 0 0) = .ok (some .done, s') ∧
      (s.file 0).read32 Register.dmaControl = 0x2000 ∧
      (s'.file 0).read32 Register.dmaControl = 0x2013 := by
  obtain ⟨s, hrun, hfirst, ⟨entry, hopened, hdevice, hwithout⟩, ⟨d, hd, hprepared, hstream⟩,
      hbefore, ⟨answer, s'⟩, hask, hafter⟩ :
    ∃ s ∈ ((vacant HostDma.create).performAll sharedOperations).toOption,
      (∃ other ∈ s.opener? 0, other.device = 0 ∧ other.opener.holds = true) ∧
      (∃ entry ∈ s.opener? 1, entry.device = 0 ∧ entry.opener.holds = false) ∧
      (∃ d ∈ s.device? 0, d.queue.stateOf 0 = some .prepared ∧ d.queue.stream = []) ∧
      (s.file 0).read32 Register.dmaControl = 0x2000 ∧
      ∃ result ∈ (s.ask 1 (.enqueue 0 0)).toOption,
        (result.2.file 0).read32 Register.dmaControl = 0x2013 := by decide +kernel
  obtain ⟨other, hother, hsame, hholds⟩ := hfirst
  have hreach : Run (fun _ _ => True) (vacant HostDma.create) s :=
    run_of_performAll (fun _ _ _ => trivial) (toOption_eq_some.mp hrun)
  have houtsider : s.Outsider 1 entry :=
    ⟨hopened, hwithout, 0, other, hother, hsame.trans hdevice.symm, hholds⟩
  have hslips : s.Slips entry.device (.enqueue 0 0) :=
    ⟨d, hdevice ▸ hd, hprepared, hstream ▸ List.not_mem_nil⟩
  have hsecluded := secluded_of_run hreach houtsider
  obtain ⟨rfl, -⟩ := hsecluded.admits 0 0 answer s' hslips (toOption_eq_some.mp hask)
  exact ⟨s, s', entry, hreach, houtsider, hsecluded, hslips, toOption_eq_some.mp hask, hbefore,
    hafter⟩

end VideoCapture.Machine
