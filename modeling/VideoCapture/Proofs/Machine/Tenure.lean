import VideoCapture.Proofs.Machine.Sole
import VideoCapture.Proofs.Queue.Shutdown

/-!
# The right to capture from taking to closing

The openers of a device share its queue, and one of them at a time may capture. Whoever has the
right to capture may be closed at any time, before capture, with a chain that runs, half drained,
timed out or stopped by a fault. Closing it succeeds, and leaves nothing behind: the engine is
disabled, nothing is allocated but the stopper, nothing is mapped, and the right is free for the
others. Closing any other opener changes nothing.

## Main definitions

* `VideoCapture.Machine.Vacated` — nobody has the right to capture with a device, and its queue is
  cleared.
* `VideoCapture.Machine.Shared` — the openers of a device share it in good order.

## Main results

* `VideoCapture.Machine.exists_close_of_holds` — closing the opener that has the right.
* `VideoCapture.Machine.shared_of_run` — openers share a device in good order, whatever happens.
-/

set_option autoImplicit false

namespace VideoCapture.Machine

variable {s s' : Machine HostDma} {number : Nat}

/-- Nobody has the right to capture with the device of a number, everybody who has it open can take
it, and the queue of the device is cleared. -/
structure Vacated (s : Machine HostDma) (number : Nat) : Prop where
  /-- The queue of the device is cleared. -/
  cleared : ∃ d, s.device? number = some d ∧ (s.channel d).Cleared
  /-- The right is noted as free. -/
  free : ∀ d chip, s.device? number = some d → s.chips[d.chip]? = some chip → chip.claimed = false
  /-- No opener has it. -/
  nobody : ∀ i entry, s.opener? i = some entry → entry.opener.holds = false
  /-- Every opener can take it. -/
  claimable : ∀ i seat, s.seat? i = some seat → ∃ seat', seat.claim = .ok seat'

/-- The openers of a device share it in good order. -/
structure Shared (s : Machine HostDma) (number : Nat) : Prop where
  /-- One opener at most has the right to capture. -/
  unique : ∀ i j entry other, s.opener? i = some entry → s.opener? j = some other →
    entry.opener.holds = true → other.opener.holds = true → i = j
  /-- The chip of the device has the right noted as taken if and only if an opener has it. -/
  noted : ∃ d chip, s.device? number = some d ∧ s.chips[d.chip]? = some chip ∧
    (chip.claimed = true ↔ ∃ i entry, s.opener? i = some entry ∧ entry.opener.holds = true)
  /-- The opener that has the right can be closed, which vacates the device. -/
  releases : ∀ i entry, s.opener? i = some entry → entry.opener.holds = true →
    ∃ s', s.close i = .ok (true, s') ∧ s'.Vacated number ∧
      ∀ j, s'.opener? j = if j = i then none else s.opener? j
  /-- Any other can be closed, which changes nothing else. -/
  spares : ∀ i entry, s.opener? i = some entry → entry.opener.holds = false →
    ∃ s', s.close i = .ok (true, s') ∧ s.Untouched s' ∧
      ∀ j, s'.opener? j = if j = i then none else s.opener? j

/-! ## Holders -/

section Holders

variable {δ : Type} {s : Machine δ} {d : Device} {entry : OpenDevice} {i k : Nat}

/-- With one device, whoever has the right to capture has it for the chip of that device. -/
lemma held?_of_holds (h : s.Orderly) (hd : s.devices = [some d]) (hentry : s.opener? i = some entry)
    (hholds : entry.opener.holds = true) : s.held? i = some d.chip := by
  obtain ⟨device, hdevice⟩ := h.openers i entry hentry
  obtain ⟨-, rfl⟩ := eq_of_device? hd hdevice
  rw [held?_of_opener? hentry hdevice, if_pos hholds]

/-- An opener that has the right for a chip has the right. -/
lemma holds_of_held? (h : s.held? i = some k) :
    ∃ entry, s.opener? i = some entry ∧ entry.opener.holds = true := by
  obtain ⟨entry, _, hentry, -, hholds, -⟩ := held?_eq_some.mp h
  exact ⟨entry, hentry, hholds⟩

end Holders

/-- With one device, the chip has the right noted as taken if and only if an opener has it. -/
lemma Orderly.claimed_iff (h : s.Orderly) {d : Device} (hd : s.devices = [some d]) {chip : Chip}
    (hchip : s.chips[d.chip]? = some chip) :
    chip.claimed = true ↔ ∃ i entry, s.opener? i = some entry ∧ entry.opener.holds = true := by
  rw [h.taken _ chip hchip]
  refine exists_congr fun i => ⟨holds_of_held?, ?_⟩
  rintro ⟨entry, hentry, hholds⟩
  exact held?_of_holds h hd hentry hholds

/-! ## Closing the opener that has the right -/

/-- A device whose queue is cleared and whose right is noted as free is vacated.

**Proof sketch.** As there is one device, the right to its chip is the only one. It is noted as
free, so in an orderly machine no opener has it, and each of them could claim it. -/
lemma vacated_of_free (h : s.Orderly) {d : Device} (hd : s.devices = [some d])
    (hcleared : (s.channel d).Cleared)
    (hfree : ∀ chip, s.chips[d.chip]? = some chip → chip.claimed = false) : s.Vacated 0 := by
  have hdevice : s.device? 0 = some d := (device?_of_sole hd 0).trans (if_pos rfl)
  have hchips : ∀ n device chip, s.device? n = some device → s.chips[device.chip]? = some chip →
      chip.claimed = false := by
    intro n device chip hn hchip
    obtain ⟨-, rfl⟩ := eq_of_device? hd hn
    exact hfree chip hchip
  refine ⟨⟨d, hdevice, hcleared⟩, fun device chip => hchips 0 device chip, fun i entry hentry => ?_,
    fun i seat hseat => ?_⟩
  · obtain ⟨chip, hchip⟩ : ∃ chip, s.chips[d.chip]? = some chip :=
      ⟨_, List.getElem?_eq_getElem (h.devices _ _ hdevice)⟩
    refine eq_false_of_ne_true fun hholds => ?_
    have hclaimed := (h.claimed_iff hd hchip).mpr ⟨i, entry, hentry, hholds⟩
    exact absurd (hclaimed.symm.trans (hfree chip hchip)) nofun
  · obtain ⟨entry, device, chip, -, hn, hchip, rfl⟩ := seat?_eq_some.mp hseat
    unfold Seat.claim
    split
    · exact ⟨_, rfl⟩
    · rw [if_neg (by simp [hchips _ _ _ hn hchip])]
      exact ⟨_, rfl⟩

/-- **Closing the opener that has the right to capture vacates the device**, whatever its queue is
doing.

**Proof sketch.** The queue can be shut down in every state that it is kept in. Then the right is
given back, and the device stays with its owner. -/
theorem exists_close_of_holds (h : s.Orderly) {d : Device} (hd : s.devices = [some d])
    (howned : d.owned = true) {others : UInt32} (hkept : (s.channel d).Kept others) {i : Nat}
    {entry : OpenDevice} (hentry : s.opener? i = some entry) (hholds : entry.opener.holds = true) :
    ∃ s', s.close i = .ok (true, s') ∧ s'.Vacated 0 ∧
      ∀ j, s'.opener? j = if j = i then none else s.opener? j := by
  obtain ⟨device, hdevice⟩ := h.openers i entry hentry
  obtain ⟨hzero, rfl⟩ := eq_of_device? hd hdevice
  obtain ⟨seat, hseat, hopener, hnumber, hchip, hchannel⟩ := h.exists_seat hentry hdevice
  obtain ⟨c, hshutdown, hcleared⟩ := hkept.exists_shutdown
  obtain ⟨after, hafter⟩ : ∃ after : Seat HostDma, after =
      { seat with channel := c, opener.holds := false, chip.claimed := false } := ⟨_, rfl⟩
  have hend : seat.close = .ok after := by
    rw [Seat.close, hopener, if_pos hholds, hchannel, hshutdown, hafter, hopener]
    rfl
  have hclose := close_eq_leave hentry hdevice hseat hend (.inl howned)
  have horderly : (s.leave i after).Orderly := h.close hclose
  refine ⟨_, hclose, ?_, opener?_leave hentry hdevice after⟩
  have hdevices : (s.leave i after).devices =
      [some { device with queue := after.channel.toCaptureQueue }] := by
    rw [show (s.leave i after).devices = _ from devices_setSeat hentry hdevice after, hd, hzero]
    rfl
  refine vacated_of_free horderly hdevices ?_ fun chip hfound => ?_
  · rw [show (s.leave i after).channel _ = _ from channel_setSeat hentry hdevice after, hafter]
    exact hcleared
  · rw [show (s.leave i after).chips = _ from chips_setSeat hentry hdevice after, hafter] at hfound
    have hplace := List.getElem?_set_self (a := { seat.chip with claimed := false })
      (List.getElem?_eq_some_iff.mp hchip).1
    rw [hnumber] at hplace hfound
    rw [← Option.some.inj (hplace.symm.trans hfound)]

/-! ## Runs -/

/-- **Openers share a device in good order**, whatever they and others do: one at most has the right
to capture, and the chip has that noted; closing it vacates the device, in whatever state the queue
is, and closing any other changes nothing. The device has its chip and its backend for itself, and
the registers that control the engine are left to it. -/
theorem shared_of_run {size : Nat} {limit : Option Nat} {file : Nat} {regs : RegisterFile}
    {location : Location} {config : Config} {s₀ : Machine HostDma}
    (hprobe : ((vacant (HostDma.create size limit)).setFile file regs).probe location file config =
      .ok (.ok number, s₀))
    (h : Run (fun s operation => operation.Handles s) s₀ s) : s.Shared number := by
  obtain ⟨rfl, c₀, regs', dma, hcreate, hcontrol, hmask, hsole₀⟩ := sole_of_probe hprobe
  obtain ⟨horderly, d, events, hd, howned, hsession⟩ := sole_of_run h hsole₀
  have hkept := Channel.kept_of_session hcreate (by rw [hcontrol]; decide) hmask hsession
  have hdevice : s.device? 0 = some d := (device?_of_sole hd 0).trans (if_pos rfl)
  refine ⟨fun i j entry other hi hj hholds hholds' => ?_, ?_, fun i entry hentry hholds => ?_,
    fun i entry hentry hwithout => ?_⟩
  · exact horderly.unique (held?_of_holds horderly hd hi hholds)
      (held?_of_holds horderly hd hj hholds')
  · obtain ⟨chip, hchip⟩ : ∃ chip, s.chips[d.chip]? = some chip :=
      ⟨_, List.getElem?_eq_getElem (horderly.devices _ _ hdevice)⟩
    exact ⟨d, chip, hdevice, hchip, horderly.claimed_iff hd hchip⟩
  · exact exists_close_of_holds horderly hd howned hkept hentry hholds
  · obtain ⟨device, hfound⟩ := horderly.openers i entry hentry
    obtain ⟨-, rfl⟩ := eq_of_device? hd hfound
    exact exists_close_of_without horderly hentry hfound hwithout (.inl howned)

/-- A device is opened twice. The first opener captures small frames into two buffers, of which one
is finished and the other runs. -/
def drainingOperations : List Operation :=
  [.openDevice 0, .openDevice 0,
    .ask 0 (.setFormat
      { width := 48, height := 32, code := PixelFormat.initial.code, field := .bottom }),
    .ask 0 (.request 2), .ask 0 (.enqueue 0 0), .ask 0 (.enqueue 0 1), .ask 0 (.streamOn 0),
    .work 0 (.status 0 Status.program)]

/-- The first of two openers is closed with one buffer finished and the other running. -/
theorem shared_of_run_draining : ∃ s₀ s : Machine HostDma,
    ((vacant HostDma.create).setFile 0 {}).probe
      { bus := 0, slot := 9, vendor := 0, device := 0 } 0 {} = .ok (.ok 0, s₀) ∧
      Run (fun s operation => operation.Handles s) s₀ s ∧
      (∃ entry ∈ s.opener? 0, entry.opener.holds = true) ∧
      (∃ entry ∈ s.opener? 1, entry.opener.holds = false) ∧
      (∃ d ∈ s.device? 0, d.queue.stream = [0, 1] ∧ d.queue.active = [1]) ∧ s.Shared 0 := by
  obtain ⟨⟨number, s₀⟩, hprobe, hnumber, s, hrun, hfirst, hsecond, hqueue⟩ :
    ∃ probed ∈ (((vacant HostDma.create).setFile 0 {}).probe
        { bus := 0, slot := 9, vendor := 0, device := 0 } 0 {}).toOption,
      probed.1.toOption = some 0 ∧ ∃ s ∈ (probed.2.performAll drainingOperations).toOption,
        (∃ entry ∈ s.opener? 0, entry.opener.holds = true) ∧
        (∃ entry ∈ s.opener? 1, entry.opener.holds = false) ∧
        ∃ d ∈ s.device? 0, d.queue.stream = [0, 1] ∧ d.queue.active = [1] := by decide +kernel
  obtain rfl := toOption_eq_some.mp hnumber
  have hhandles : ∀ operation ∈ drainingOperations, ∀ s : Machine HostDma, operation.Handles s := by
    simp [drainingOperations, Operation.Handles]
  have hreach : Run (fun s operation => operation.Handles s) s₀ s :=
    run_of_performAll hhandles (toOption_eq_some.mp hrun)
  exact ⟨s₀, s, toOption_eq_some.mp hprobe, hreach, hfirst, hsecond, hqueue,
    shared_of_run (toOption_eq_some.mp hprobe) hreach⟩

end VideoCapture.Machine
