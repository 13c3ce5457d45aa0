import VideoCapture.Proofs.Engine.Silence
import VideoCapture.Proofs.Machine.Lending

/-!
# Dropping a device that shares its chip

Devices at one location have a chip in common, and those brought up on the same registers have these
in common too. The chip stays in use while references to it are out, so the end of one of several
devices does not shut it down. But each device has a queue of its own, and the end of a queue stops
the engine of the registers that it works on, whoever has started it. A stream of another device on
the same registers is cut off in this way, and the other device does not get to know.

## Main definitions

* `VideoCapture.Machine.Silences` — what the end of a device does to everything else.
* `VideoCapture.Machine.Departs` — when a device ends, and that this is what it does.

## Main results

* `VideoCapture.Machine.silences_ended` — what its end does.
* `VideoCapture.Machine.departs_of_lends` — how one of several devices of a chip goes.
-/

set_option autoImplicit false

namespace VideoCapture.Machine

open RegisterFile (switches)

variable {δ : Type} {s s₁ s' : Machine δ} {held : List Nat} {n m number : Nat}
  {device other : Device} {entry : OpenDevice}

/-! ## The end of a device -/

/-- A device goes while its chip stays in use: the engine of the registers that its queue works on
is stopped, and nothing else happens to chips, registers and other devices. -/
structure Silences (s : Machine δ) (n : Nat) (device : Device) (s' : Machine δ) : Prop where
  /-- The device has gone. -/
  gone : s'.device? n = none
  /-- The other devices are as they were. -/
  devices : ∀ m, m ≠ n → s'.device? m = s.device? m
  /-- So are the chips. -/
  chips : s'.chips = s.chips
  /-- The chip of the device stays in use. -/
  used : ∃ entry ∈ s'.registry.entries, entry.number = device.chip
  /-- The registers that its queue does not work on are as they were. -/
  files : ∀ f, f ≠ device.file → s'.file f = s.file f
  /-- In those that it works on the engine has been stopped. -/
  silenced : (s.file device.file).Silenced (s'.file device.file)
  /-- This shows unless there was nothing to be stopped. -/
  shows : (∀ offset ∈ switches,
    (s'.file device.file).read32 offset = (s.file device.file).read32 offset) ↔
      (s.file device.file).Silent

/-- What becomes of openers before does not matter. -/
lemma Untouched.silences (h : s.Untouched s₁) (hsilences : s₁.Silences n device s') :
    s.Silences n device s' where
  gone := hsilences.gone
  devices m hm := by
    rw [hsilences.devices m hm, device?, h.devices]
    rfl
  chips := hsilences.chips.trans h.chips
  used := hsilences.used
  files f hf := (hsilences.files f hf).trans (h.files f)
  silenced := h.files device.file ▸ hsilences.silenced
  shows := h.files device.file ▸ hsilences.shows

/-- A device without an opener is not open. -/
lemma isOpen_eq_false (h : ∀ i other, s.opener? i = some other → other.device ≠ n) :
    s.isOpen n = false := by
  refine List.any_eq_false.mpr fun place hplace => ?_
  cases place with
  | none => exact nofun
  | some other =>
    obtain ⟨i, hi⟩ := List.mem_iff_getElem?.mp hplace
    have hne := h i other (Option.join_eq_some_iff.mpr hi)
    simpa using hne

/-- A device is not open once its last opener has gone. -/
lemma isOpen_leave (hentry : s.opener? number = some entry)
    (hdevice : s.device? entry.device = some device) (seat : Seat δ)
    (hlast : ∀ i other, s.opener? i = some other → other.device = entry.device → i = number) :
    (s.leave number seat).isOpen entry.device = false := by
  refine isOpen_eq_false fun i other hother hsame => ?_
  rw [opener?_leave hentry hdevice] at hother
  split at hother
  · cases hother
  · next hne => exact hne (hlast i other hother hsame)

/-- A chip that two devices have has more than one reference. -/
lemma one_lt_outstanding (hdevice : s.device? n = some device) (hother : s.device? m = some other)
    (hne : m ≠ n) (hchip : other.chip = device.chip) (held : List Nat) :
    1 < s.outstanding held device.chip := by
  -- without the one device the other still has its reference
  let s₁ : Machine δ := { s with devices := s.devices.set n none }
  have hstays : s₁.device? m = some other :=
    ((join_getElem?_set (lt_length_of_join hdevice) none m).trans (if_neg hne)).trans hother
  have hpos := outstanding_pos hstays held
  rw [hchip, outstanding_vacate hdevice held, Function.update_self] at hpos
  omega

variable [DmaBackend δ]

/-- The registers once a device has ended whose chip stays in use.

**Proof sketch.** The engine is stopped as the device goes and once more as its queue does, with
nothing between the two that concerns the registers, as the chip stays in use. -/
lemma file_ended (s : Machine δ) (n : Nat) (device : Device) (chip : Chip) {references : Nat}
    (h : references ≠ 1) :
    (∀ f, f ≠ device.file → (s.ended n device chip references).file f = s.file f) ∧
      (s.file device.file).Silenced ((s.ended n device chip references).file device.file) := by
  let stopped := (s.channel device).stopEngine
  let s₁ := (s.setFile device.file stopped.regs).returned
    (s.registry.release device.chip references) chip (decide (references = 1))
  let c := s₁.channel { device with queue := stopped.toCaptureQueue }
  have hended : ∀ f, (s.ended n device chip references).file f =
      (s₁.setFile device.file c.dispose.1).file f := fun _ => rfl
  have hkept : ∀ f, s₁.file f = (s.setFile device.file stopped.regs).file f := by
    intro f
    rw [file_returned, if_neg (by simp [h])]
  constructor
  · intro f hf
    rw [hended, file_setFile, if_neg hf, hkept, file_setFile, if_neg hf]
  · -- the engine is stopped before the reference is returned, and once more by the queue
    have hfirst : (s.file device.file).Silenced stopped.regs :=
      RegisterFile.silenced_stop device.queue.engine _
    have hsecond : c.regs.Silenced c.dispose.1 := RegisterFile.silenced_stop c.engine c.regs
    have hbetween : c.regs = stopped.regs :=
      (hkept device.file).trans ((file_setFile _ _ _ _).trans (if_pos rfl))
    rw [hended, file_setFile, if_pos rfl]
    exact hfirst.trans (hbetween ▸ hsecond)

/-- **A device ends while its chip stays in use.**

**Proof sketch.** What happens to the registers is known. One reference more than this one is out,
so the chip stays registered. -/
theorem silences_ended (hc : s.registry.Counts (s.outstanding held))
    (hdevice : s.device? n = some device) (hshared : 1 < s.outstanding held device.chip)
    (chip : Chip) :
    s.Silences n device (s.ended n device chip (s.outstanding held device.chip)) := by
  obtain ⟨hfiles, hsilenced⟩ := s.file_ended n device chip (Nat.ne_of_gt hshared)
  obtain ⟨hregistry, hchips, hdevices⟩ := rest_returned
    (s.setFile device.file (s.channel device).stopEngine.regs)
    (s.registry.release device.chip (s.outstanding held device.chip)) chip
    (decide (s.outstanding held device.chip = 1))
  have hplaces : ∀ m, (s.ended n device chip (s.outstanding held device.chip)).device? m =
      if m = n then none else s.device? m := by
    intro m
    refine Eq.trans ?_ (join_getElem?_set (lt_length_of_join hdevice) none m)
    exact congrArg (fun places : List (Option Device) => (places.set n none)[m]?.join) hdevices
  refine ⟨?_, fun m hm => ?_, hchips, ?_, hfiles, hsilenced, hsilenced.sameSwitches_iff⟩
  · rw [hplaces, if_pos rfl]
  · rw [hplaces, if_neg hm]
  · refine hregistry ▸ ((hc.release (Nat.zero_lt_of_lt hshared)).registered _).mpr ?_
    rw [Function.update_self]
    omega

/-- What becomes of a device that is dropped, or whose last opener is closed, while its chip stays
in use. -/
structure Departs (s : Machine δ) (n : Nat) (device : Device) : Prop where
  /-- It lasts as long as somebody has it open. -/
  lasts : s.isOpen n = true → s.drop n = .ok (device.owned,
    { s with devices := s.devices.set n (some { device with owned := false }) })
  /-- Otherwise it goes when it is dropped. -/
  dropped : s.isOpen n = false →
    ∃ s', s.drop n = .ok (device.owned, s') ∧ s.Silences n device s'
  /-- If it has been dropped before it goes with its last opener, even if that does not have the
  right to capture. -/
  closed : ∀ number entry, s.opener? number = some entry → entry.device = n →
    entry.opener.holds = false → device.owned = false →
    (∀ i other, s.opener? i = some other → other.device = n → i = number) →
    ∃ s', s.close number = .ok (true, s') ∧ s.Silences n device s'

/-- A device that has been dropped goes with its last opener.

**Proof sketch.** The opener leaves without touching the queue, as it has no right to it. Then
nobody keeps the device, so that it ends. -/
lemma Balanced.exists_close_silences (hb : s.Balanced held) (hentry : s.opener? number = some entry)
    (hdevice : s.device? entry.device = some device) (hwithout : entry.opener.holds = false)
    (howned : device.owned = false)
    (hlast : ∀ i other, s.opener? i = some other → other.device = entry.device → i = number)
    (hshared : 1 < s.outstanding held device.chip) :
    ∃ s', s.close number = .ok (true, s') ∧ s.Silences entry.device device s' := by
  obtain ⟨seat, hseat, hclose, huntouched⟩ := hb.orderly.exists_leave hentry hdevice hwithout
  generalize hleft : s.leave number seat = s₁ at huntouched
  have hstays : s₁.device? entry.device = some device := by
    rw [device?, huntouched.devices]
    exact hdevice
  have hnobody : s₁.isOpen entry.device = false := hleft ▸ isOpen_leave hentry hdevice seat hlast
  have hout := outstanding_congr huntouched.devices held
  have hcounts : s₁.registry.Counts (s₁.outstanding held) := by
    rw [huntouched.registry, hout]
    exact hb.counts
  obtain ⟨chip, hchip⟩ : ∃ chip, s₁.chips[device.chip]? = some chip := by
    rw [huntouched.chips]
    exact ⟨_, List.getElem?_eq_getElem (hb.orderly.devices _ _ hdevice)⟩
  have hreap := reap_eq hcounts hstays howned hnobody hchip
  refine ⟨_, ?_, huntouched.silences (silences_ended hcounts hstays (hout ▸ hshared) chip)⟩
  unfold Machine.close
  rw [hentry, hseat]
  exact bind_eq_ok.mpr ⟨seat, hclose, bind_eq_ok.mpr ⟨_, hleft ▸ hreap, rfl⟩⟩

/-- **A device of a chip that another device has too goes like this.** -/
theorem Balanced.departs (hb : s.Balanced held) (hdevice : s.device? n = some device)
    (hshared : 1 < s.outstanding held device.chip) : s.Departs n device where
  lasts := drop_eq_of_open hdevice
  dropped hopen := by
    have hchip := List.getElem?_eq_getElem (hb.orderly.devices n device hdevice)
    exact ⟨_, drop_eq_of_closed hb.counts hdevice hopen hchip,
      silences_ended hb.counts hdevice hshared _⟩
  closed number entry hentry hopened hwithout howned hlast := by
    subst hopened
    exact hb.exists_close_silences hentry hdevice hwithout howned hlast hshared

/-- **Dropping one of several devices that have a chip in common stops the engine** of the registers
that its queue works on, whatever has happened before and whoever has started the engine, unless
there is nothing to be stopped. -/
theorem departs_of_lends {dma : δ} (h : Lends (vacant dma) [] s held)
    (hdevice : s.device? n = some device) (hother : s.device? m = some other) (hne : m ≠ n)
    (hchip : other.chip = device.chip) : s.Departs n device :=
  ((balanced_vacant dma).of_lends h).1.departs hdevice
    (one_lt_outstanding hdevice hother hne hchip held)

/-- Two devices have a chip and its registers in common. The first captures, and the second, which
nobody has open, is dropped. The engine stops, and the first device takes it to be running. -/
theorem departs_of_lends_capturing :
    ∃ (s s' : Machine HostDma) (held : List Nat) (capturing dropped : Device),
      Lends (vacant HostDma.create) [] s held ∧
      s.device? 0 = some capturing ∧ s.device? 1 = some dropped ∧
      capturing.chip = dropped.chip ∧ capturing.file = dropped.file ∧
      Engine.running (s.file capturing.file) = true ∧ capturing.queue.active = [0] ∧
      s.isOpen 1 = false ∧ s.Departs 1 dropped ∧ s.drop 1 = .ok (true, s') ∧
      s'.device? 0 = some capturing ∧ Engine.running (s'.file capturing.file) = false := by
  let place : Location := { bus := 0, slot := 9, vendor := 0, device := 0 }
  have hrun : ∃ p ∈ (vacant HostDma.create).lendAll []
      [.probe place 0 {}, .probe place 0 {}, .openDevice 0,
        .ask 0 (.setFormat
          { width := 48, height := 32, code := PixelFormat.initial.code, field := .bottom }),
        .ask 0 (.request 1), .ask 0 (.prepare 0), .ask 0 (.streamOn 0), .ask 0 (.enqueue 0 0)],
      ∃ capturing ∈ p.1.device? 0, ∃ dropped ∈ p.1.device? 1,
        capturing.chip = dropped.chip ∧ capturing.file = dropped.file ∧
        Engine.running (p.1.file capturing.file) = true ∧ capturing.queue.active = [0] ∧
        p.1.isOpen 1 = false ∧ dropped.owned = true := by decide +kernel
  obtain ⟨⟨s, held⟩, hlend, capturing, hcapturing, dropped, hdropped, hchip, hfile, hrunning,
    hactive, hclosed, howned⟩ := hrun
  have hlends := lends_of_lendAll hlend
  have hdeparts := departs_of_lends hlends hdropped hcapturing (by decide) hchip
  obtain ⟨s', hdrop, hsilences⟩ := hdeparts.dropped hclosed
  refine ⟨s, s', held, capturing, dropped, hlends, hcapturing, hdropped, hchip, hfile, hrunning,
    hactive, hclosed, hdeparts, howned ▸ hdrop, ?_, ?_⟩
  · exact (hsilences.devices 0 (by decide)).trans hcapturing
  · exact hfile ▸ hsilences.silenced.running

end VideoCapture.Machine
