import VideoCapture.Proofs.Machine.Closing
import VideoCapture.Proofs.Queue.Record

/-!
# A device with a backend for itself

As long as no other chip or device is brought up, and the device is not dropped, a machine has one
device, and whatever happens to the machine is a session of its queue: openers, interrupts and the
timer carry operations out on it, and in between the registers change. Setting something about the
chip changes registers too, but not those that control the engine.

## Main definitions

* `VideoCapture.Machine.Operation.Handles` — operations that leave chips and devices in place.
* `VideoCapture.Machine.Sole` — a machine with one device, whose queue has a session behind it.

## Main results

* `VideoCapture.Machine.sole_of_probe` — a device is brought up in a vacant machine.
* `VideoCapture.Machine.sole_of_perform` — whatever happens is a session of the queue.
-/

set_option autoImplicit false

namespace VideoCapture.Machine

open CaptureQueue (Event)

variable {δ : Type} {s s' : Machine δ}

/-- Whether an operation leaves chips and devices where they are, and the registers that control the
engine to the queue. -/
def Operation.Handles (s : Machine δ) : Operation → Prop
  | .get _ _ _ | .put _ | .probe _ _ _ | .drop _ => False
  | .change file regs => (s.file file).SameControl regs
  | .openDevice _ | .close _ | .ask _ _ | .adjust _ _ | .interrupt _ _ | .service _ | .work _ _ =>
    True

variable [DmaBackend δ] {wanted : Geometry → Norm → Prop} {c₀ c : Channel δ} {d : Device}

/-- A machine has one device, which whoever brought it up still has, and a session has led from a
channel to that of the device. -/
structure Sole (c₀ : Channel δ) (s : Machine δ) : Prop where
  /-- The machine is in order. -/
  orderly : s.Orderly
  /-- There is one device, with a session behind it. -/
  device : ∃ d events, s.devices = [some d] ∧ d.owned = true ∧
    c₀.Session (fun _ _ => True) RegisterFile.SameControl events (s.channel d)

omit [DmaBackend δ] in
/-- The one device is found under the first number, and under no other. -/
lemma device?_of_sole (h : s.devices = [some d]) (number : Nat) :
    s.device? number = if number = 0 then some d else none := by
  rw [device?, h]
  cases number <;> rfl

omit [DmaBackend δ] in
/-- Whatever device is found is the one. -/
lemma eq_of_device? {number : Nat} {device : Device} (h : s.devices = [some d])
    (hdevice : s.device? number = some device) : number = 0 ∧ device = d := by
  rw [device?_of_sole h] at hdevice
  split at hdevice
  · next hnumber => exact ⟨hnumber, (Option.some.inj hdevice).symm⟩
  · cases hdevice

/-- Openers come and go and registers change, as long as the engine is left to the queue. -/
lemma Sole.drift (h : Sole c₀ s) (horderly : s'.Orderly) (hdevices : s'.devices = s.devices)
    (hdma : s'.dma = s.dma) (hfiles : ∀ n, (s.file n).SameControl (s'.file n)) : Sole c₀ s' := by
  obtain ⟨d, events, hd, howned, hsession⟩ := h.device
  refine ⟨horderly, d, events, hdevices.trans hd, howned, ?_⟩
  have hchannel : s'.channel d = { s.channel d with regs := s'.file d.file } := by
    rw [channel, hdma, channel]
  rw [hchannel]
  exact hsession.drift (hfiles d.file)

/-- Operations are carried out on the queue. -/
lemma Sole.follow {number : Nat} {device : Device} (h : Sole c₀ s) (horderly : s'.Orderly)
    (hdevice : s.device? number = some device)
    (hdevices : s'.devices = s.devices.set number
      (some { device with queue := c.toCaptureQueue }))
    (hchannel : s'.channel { device with queue := c.toCaptureQueue } = c)
    (hfollows : (s.channel device).Follows wanted c) : Sole c₀ s' := by
  obtain ⟨d, events, hd, howned, hsession⟩ := h.device
  obtain ⟨rfl, rfl⟩ := eq_of_device? hd hdevice
  obtain ⟨events', hsession'⟩ := hsession.follows hfollows
  refine ⟨horderly, { device with queue := c.toCaptureQueue }, events',
    hdevices.trans (by rw [hd]; rfl), howned, ?_⟩
  rw [hchannel]
  exact hsession'

omit [DmaBackend δ] in
/-- The queue is put back with its opener, and all other devices stay. -/
lemma devices_setSeat {number : Nat} {entry : OpenDevice} {device : Device}
    (hentry : s.opener? number = some entry) (hdevice : s.device? entry.device = some device)
    (seat : Seat δ) : (s.setSeat number seat).devices =
      s.devices.set entry.device (some { device with queue := seat.channel.toCaptureQueue }) := by
  rw [setSeat_eq hentry hdevice]
  rfl

/-! ## Runs -/

/-- A device that is worked on. -/
lemma Sole.serve {number : Nat} (h : Sole c₀ s) (horderly : s'.Orderly)
    (hserved : s.Served wanted number s') : Sole c₀ s' := by
  obtain rfl | ⟨device, c, hdevice, hfollows, rfl⟩ := hserved
  · exact h
  · exact h.follow horderly hdevice rfl (channel_setChannel s number device c) hfollows

/-- What an opener does goes on with the session of the one device. -/
lemma Sole.ask {number : Nat} {operation : Seat.Operation} {answer : Option CaptureQueue.Answer}
    (h : Sole c₀ s) (horderly : s'.Orderly) (hask : s.ask number operation = .ok (answer, s')) :
    Sole c₀ s' := by
  obtain ⟨-, -, rfl⟩ | ⟨seat, after, given, hseat, hperform, -, rfl⟩ := ask_cases hask
  · exact h
  · obtain ⟨entry, device, chip, hentry, hdevice, -, rfl⟩ := seat?_eq_some.mp hseat
    exact h.follow horderly hdevice (devices_setSeat hentry hdevice after)
      (channel_setSeat hentry hdevice after) (Seat.advance_of_perform hperform).channel

/-- The queue is shut down if the opener has the right to capture.

**Proof sketch.** The device stays, as its owner still has it. What has been carried out on its
queue is at most that it was shut down. -/
lemma Sole.close {number : Nat} {closed : Bool} (h : Sole c₀ s) (horderly : s'.Orderly)
    (hclose : s.close number = .ok (closed, s')) : Sole c₀ s' := by
  have hwhole := hclose
  unfold Machine.close at hclose
  split at hclose
  · next entry seat hentry hseat =>
    obtain ⟨after, hafter, -⟩ := bind_eq_ok.mp hclose
    obtain ⟨_, device, chip, hentry', hdevice, -, hsame⟩ := seat?_eq_some.mp hseat
    obtain rfl := Option.some.inj (hentry.symm.trans hentry')
    obtain ⟨d, events, hd, howned, -⟩ := h.device
    obtain ⟨-, rfl⟩ := eq_of_device? hd hdevice
    have hleave := close_eq_leave hentry hdevice hseat hafter (.inl howned)
    obtain ⟨-, rfl⟩ := Prod.mk.inj (Except.ok.inj (hleave.symm.trans hwhole))
    have hfollows := Seat.follows_of_close (fun _ _ => True) hafter
    rw [hsame] at hfollows
    exact h.follow horderly hdevice (devices_setSeat hentry hdevice after)
      (channel_setSeat hentry hdevice after) hfollows
  · obtain ⟨-, rfl⟩ := Prod.mk.inj (pure_eq_ok.mp hclose)
    exact h

/-- A setting of the chip changes registers of the one device, and nothing else of its queue. -/
lemma Sole.adjust (h : Sole c₀ s) (number : Nat) (setting : Chip.Setting)
    (horderly : (s.adjust number setting).Orderly) : Sole c₀ (s.adjust number setting) := by
  obtain hsame | ⟨chip, after, regs, -, -, hcontrol, hadjust⟩ := adjust_cases s number setting
  · exact hsame.symm ▸ h
  · rw [hadjust] at horderly ⊢
    refine h.drift horderly rfl rfl fun n => ?_
    rw [file_setFile]
    split
    · next hn => exact hn ▸ hcontrol
    · exact .refl _

/-- **Whatever happens is a session of the queue**, as long as the device stays the only one and the
engine is left to it.

**Proof sketch.** One case for each operation that is left to the user of the only device. What
concerns the queue is a session of it; all else leaves the queue as it is and the engine to it. -/
theorem sole_of_perform {operation : Operation} (h : Sole c₀ s) (hhandles : operation.Handles s)
    (hperform : s.perform operation = .ok s') : Sole c₀ s' := by
  have horderly := orderly_of_perform h.orderly hperform
  cases operation with
  | get | put | probe | drop => exact hhandles.elim
  | openDevice device =>
    obtain rfl | ⟨_, _, -, -, rfl⟩ := letIn_cases hperform
    · exact h
    · exact h.drift horderly rfl rfl fun n => .refl _
  | close opener =>
    obtain ⟨⟨closed, _⟩, hclose, hsame⟩ := bind_eq_ok.mp hperform
    obtain rfl := pure_eq_ok.mp hsame
    exact h.close horderly hclose
  | ask opener operation =>
    obtain ⟨⟨answer, _⟩, hask, hsame⟩ := bind_eq_ok.mp hperform
    obtain rfl := pure_eq_ok.mp hsame
    exact h.ask horderly hask
  | adjust chip setting =>
    obtain rfl := pure_eq_ok.mp hperform
    exact h.adjust chip setting horderly
  | interrupt now device => exact h.serve horderly (served_of_interrupt (fun _ _ => True) hperform)
  | service device => exact h.serve horderly (served_of_service (fun _ _ => True) hperform)
  | work device operation =>
    exact h.serve horderly (served_of_work _ operation.preparesFor_true hperform)
  | change file regs =>
    obtain rfl := pure_eq_ok.mp hperform
    refine h.drift horderly rfl rfl fun n => ?_
    rw [file_setFile]
    split
    · next hn => exact hn ▸ hhandles
    · exact .refl _

/-- **A run with one device is a session of its queue.** -/
theorem sole_of_run (h : Run (fun s operation => operation.Handles s) s s') (hs : Sole c₀ s) :
    Sole c₀ s' :=
  h.keeps hs fun _ _ _ hs₁ hhandles hperform => sole_of_perform hs₁ hhandles hperform

/-! ## The beginning -/

omit [DmaBackend δ] in
/-- The first chip of a machine is brought up with the engine disabled, and passes no interrupt
on. -/
lemma get_of_empty (hregistry : s.registry = {}) (location : Location) (file : Nat)
    (config : Config) : ∃ s₁, s.get location file config = (.ok 0, s₁) ∧ s₁.dma = s.dma ∧
      s₁.devices = s.devices ∧ (s₁.file file).read32 Register.dmaControl = 0x2000 ∧
      (s₁.file file).read32 Register.interruptMask = 0 := by
  obtain ⟨registry, htake⟩ : ∃ registry, s.registry.take location = .ok (.first 0, registry) := by
    rw [hregistry]
    exact ⟨_, rfl⟩
  have hpowered := Chip.poweredOn_bringUp 0 location file (s.file file) config
  unfold Machine.get
  rw [htake]
  dsimp only
  generalize Chip.bringUp 0 location file (s.file file) config = chip at hpowered
  have hfile : (s.setFile file chip.2).file file = chip.2 :=
    (s.file_setFile file file chip.2).trans (if_pos rfl)
  rw [← hfile] at hpowered
  exact ⟨_, rfl, rfl, rfl, hpowered.dmaControl, hpowered.interruptMask⟩

/-- A vacant machine has nothing but registers at first. A device that is brought up in it is the
only one, and its queue was created on registers with the engine disabled and no interrupt passed
on.

**Proof sketch.** In a machine without any chip the reference is the first, so that the chip is
brought up and its registers are those after power-on. If the queue is created the device has it,
with nothing carried out so far. -/
theorem sole_of_probe {dma : δ} {file : Nat} {regs : RegisterFile} {location : Location}
    {config : Config} {number : Nat}
    (h : ((vacant dma).setFile file regs).probe location file config = .ok (.ok number, s)) :
    number = 0 ∧ ∃ c₀ regs' dma', Channel.create regs' dma config = (.ok c₀, dma') ∧
      regs'.read32 Register.dmaControl = 0x2000 ∧ regs'.read32 Register.interruptMask = 0 ∧
      Sole c₀ s := by
  have horderly := ((orderly_vacant dma).setFile file regs).probe h
  obtain ⟨s₁, hget, hdma, hdevices, hcontrol, hmask⟩ :=
    get_of_empty (s := (vacant dma).setFile file regs) rfl location file config
  unfold Machine.probe at h
  rw [hget] at h
  dsimp only at h
  split at h
  · obtain ⟨_, -, hnone⟩ := bind_eq_ok.mp h
    cases hnone
  · next c dma' hcreate =>
    obtain ⟨hnumber, rfl⟩ := Prod.mk.inj (pure_eq_ok.mp h)
    rw [hdma] at hcreate
    refine ⟨?_, c, s₁.file file, dma', hcreate, hcontrol, hmask, horderly,
      { chip := 0, file, config, queue := c.toCaptureQueue }, [], ?_, rfl, ?_⟩
    · rw [← Except.ok.inj hnumber, hdevices]
      rfl
    · rw [hdevices]
      rfl
    · obtain ⟨stopper, -, rfl⟩ := Channel.create_eq_ok hcreate
      exact .refl

end VideoCapture.Machine
