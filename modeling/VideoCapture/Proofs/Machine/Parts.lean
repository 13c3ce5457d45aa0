import VideoCapture.Machine.Devices
import VideoCapture.Proofs.Dma.Mapping
import VideoCapture.Proofs.Outcome

/-!
# The parts of a machine

Register files, chips, devices and openers are looked up by number and put back by number. What is
put in one place is found there, and what is in other places stays. An opener is looked at together
with its device and its chip, and all three are put back together.

## Main definitions

* `VideoCapture.Machine.Untouched` — two machines that differ in their openers only.

## Main results

* `VideoCapture.Machine.file_setFile`, `VideoCapture.Machine.device?_setChannel`,
  `VideoCapture.Machine.opener?_setSeat`, `VideoCapture.Machine.device?_setSeat`,
  `VideoCapture.Machine.chips_setSeat` — what is found after something was put back.
* `VideoCapture.Machine.seat?_eq_some` — what an opener works on.
-/

set_option autoImplicit false

namespace VideoCapture

/-! ## Numbered places -/

section Places

variable {α : Type} {places : List (Option α)} {number : Nat}

/-- Putting back what is found changes nothing. -/
lemma set_of_getElem? {β : Type} {entries : List β} {entry : β}
    (h : entries[number]? = some entry) :
    entries.set number entry = entries := by
  obtain ⟨hlt, rfl⟩ := List.getElem?_eq_some_iff.mp h
  exact List.set_getElem_self hlt

/-- A place that is taken is one of those there are. -/
lemma lt_length_of_join {a : α} (h : places[number]?.join = some a) : number < places.length :=
  (List.getElem?_eq_some_iff.mp (Option.join_eq_some_iff.mp h)).1

/-- What is put in a place is found there, and nowhere else. -/
lemma join_getElem?_set (h : number < places.length) (place : Option α) (other : Nat) :
    (places.set number place)[other]?.join =
      if other = number then place else places[other]?.join := by
  by_cases hother : other = number
  · rw [if_pos hother, hother, List.getElem?_set_self h, Option.join_some]
  · rw [if_neg hother, List.getElem?_set_ne (Ne.symm hother)]

/-- A new place is the last one. -/
lemma join_getElem?_concat (places : List (Option α)) (place : Option α) (other : Nat) :
    (places ++ [place])[other]?.join =
      if other = places.length then place else places[other]?.join := by
  obtain hlt | rfl | hgt := Nat.lt_trichotomy other places.length
  · rw [if_neg (Nat.ne_of_lt hlt), List.getElem?_append_left hlt]
  · rw [if_pos rfl, List.getElem?_concat_length, Option.join_some]
  · rw [if_neg (Nat.ne_of_gt hgt), List.getElem?_eq_none (List.length_append ▸ hgt),
      List.getElem?_eq_none (Nat.le_of_lt hgt)]

end Places

namespace Machine

variable {δ : Type}

/-! ## Register files -/

section Files

variable (s : Machine δ) (number other : Nat) (regs : RegisterFile)

/-- **A register file that is put in its place is found there**, and the others stay. -/
theorem file_setFile :
    (s.setFile number regs).file other = if other = number then regs else s.file other := by
  unfold file setFile
  rw [List.lookup_cons]
  by_cases hother : other = number
  · rw [if_pos hother, beq_iff_eq.mpr hother, Option.getD_some]
  · rw [if_neg hother, beq_eq_false_iff_ne.mpr hother]
    dsimp only
    rw [lookup_filter_bne, if_neg hother]

/-- A register file put back as it was changes nothing. -/
lemma file_setFile_self : (s.setFile number (s.file number)).file other = s.file other := by
  rw [file_setFile]
  split
  · next hother => rw [hother]
  · rfl

end Files

/-! ## Devices -/

section Devices

variable {s : Machine δ} {number : Nat} {device : Device}

/-- **The queue of a device that is put back is found there**, and the other devices stay. -/
theorem device?_setChannel (h : s.device? number = some device) (c : Channel δ) (other : Nat) :
    (s.setChannel number device c).device? other =
      if other = number then some { device with queue := c.toCaptureQueue }
      else s.device? other :=
  join_getElem?_set (lt_length_of_join h) _ other

/-- A queue that is put back finds the surroundings that it was put back with. -/
lemma channel_setChannel (s : Machine δ) (number : Nat) (device : Device) (c : Channel δ) :
    (s.setChannel number device c).channel { device with queue := c.toCaptureQueue } = c := by
  have hfile : (s.setChannel number device c).file device.file = c.regs :=
    (s.file_setFile device.file device.file c.regs).trans (if_pos rfl)
  unfold channel
  rw [hfile]
  rfl

end Devices

/-! ## Openers -/

section Openers

variable {s : Machine δ} {number : Nat} {seat : Seat δ} {entry : OpenDevice} {device : Device}

/-- A device with an opener is open. -/
lemma isOpen_of_opener? (h : s.opener? number = some entry) : s.isOpen entry.device = true := by
  refine List.any_eq_true.mpr
    ⟨some entry, List.mem_of_getElem? (Option.join_eq_some_iff.mp h), ?_⟩
  exact beq_self_eq_true entry.device

/-- What an opener works on is its device and the chip of that. -/
theorem seat?_eq_some : s.seat? number = some seat ↔ ∃ entry device chip,
    s.opener? number = some entry ∧ s.device? entry.device = some device ∧
      s.chips[device.chip]? = some chip ∧
      seat = { opener := entry.opener, chip, config := device.config,
               channel := s.channel device } := by
  simp only [seat?, Option.bind_eq_bind, Option.bind_eq_some_iff, Option.pure_def,
    Option.some.injEq, eq_comm (b := seat)]
  constructor
  · rintro ⟨entry, hentry, device, hdevice, chip, hchip, rfl⟩
    exact ⟨entry, device, chip, hentry, hdevice, hchip, rfl⟩
  · rintro ⟨entry, device, chip, hentry, hdevice, hchip, rfl⟩
    exact ⟨entry, hentry, device, hdevice, chip, hchip, rfl⟩

/-- Putting an opener back puts the opener, the queue and the chip back. -/
lemma setSeat_eq (hentry : s.opener? number = some entry)
    (hdevice : s.device? entry.device = some device) (seat : Seat δ) :
    s.setSeat number seat =
      (setChannel
        { s with openers := s.openers.set number (some { entry with opener := seat.opener }) }
        entry.device device seat.channel).setChip seat.chip := by
  have hkept : device? { s with
      openers := s.openers.set number (some { entry with opener := seat.opener }) }
      entry.device = some device := hdevice
  unfold setSeat
  rw [hentry]
  dsimp only
  rw [hkept]

/-- **An opener that is put back is found there**, and the others stay. -/
theorem opener?_setSeat (hentry : s.opener? number = some entry)
    (hdevice : s.device? entry.device = some device) (seat : Seat δ) (other : Nat) :
    (s.setSeat number seat).opener? other =
      if other = number then some { entry with opener := seat.opener } else s.opener? other := by
  rw [setSeat_eq hentry hdevice]
  exact join_getElem?_set (lt_length_of_join hentry) _ other

/-- **The queue is put back with its opener**, and the other devices stay. -/
theorem device?_setSeat (hentry : s.opener? number = some entry)
    (hdevice : s.device? entry.device = some device) (seat : Seat δ) (other : Nat) :
    (s.setSeat number seat).device? other =
      if other = entry.device then some { device with queue := seat.channel.toCaptureQueue }
      else s.device? other := by
  rw [setSeat_eq hentry hdevice]
  exact device?_setChannel hdevice seat.channel other

/-- **The chip is put back with its opener**, and the other chips stay. -/
theorem chips_setSeat (hentry : s.opener? number = some entry)
    (hdevice : s.device? entry.device = some device) (seat : Seat δ) :
    (s.setSeat number seat).chips = s.chips.set seat.chip.number seat.chip := by
  rw [setSeat_eq hentry hdevice]
  rfl

/-- The surroundings of the queue are put back with its opener. -/
lemma channel_setSeat (hentry : s.opener? number = some entry)
    (hdevice : s.device? entry.device = some device) (seat : Seat δ) :
    (s.setSeat number seat).channel { device with queue := seat.channel.toCaptureQueue } =
      seat.channel := by
  rw [setSeat_eq hentry hdevice]
  exact channel_setChannel _ entry.device device seat.channel

end Openers

/-! ## Untouched machines -/

/-- The memory, the registers, the chips and the devices with their queues are the same in two
machines, whatever has become of the openers. -/
structure Untouched (s s' : Machine δ) : Prop where
  /-- The backend is the same. -/
  dma : s'.dma = s.dma
  /-- All registers hold the same. -/
  files : ∀ number, s'.file number = s.file number
  /-- The references to chips are the same. -/
  registry : s'.registry = s.registry
  /-- The chips are the same. -/
  chips : s'.chips = s.chips
  /-- The devices and their queues are the same. -/
  devices : s'.devices = s.devices

variable {s s' : Machine δ}

/-- What becomes of openers touches nothing. -/
lemma untouched_openers (s : Machine δ) (openers : List (Option OpenDevice)) :
    s.Untouched { s with openers } :=
  ⟨rfl, fun _ => rfl, rfl, rfl, rfl⟩

/-- What is not touched twice is not touched. -/
lemma Untouched.trans {s'' : Machine δ} (h : s.Untouched s') (h' : s'.Untouched s'') :
    s.Untouched s'' :=
  ⟨h'.dma.trans h.dma, fun number => (h'.files number).trans (h.files number),
    h'.registry.trans h.registry, h'.chips.trans h.chips, h'.devices.trans h.devices⟩

/-- An opener put back with chip and queue as they were touches nothing. -/
lemma untouched_setSeat {number : Nat} {entry : OpenDevice} {device : Device} {seat : Seat δ}
    (hentry : s.opener? number = some entry) (hdevice : s.device? entry.device = some device)
    (hchip : s.chips[seat.chip.number]? = some seat.chip)
    (hchannel : seat.channel = s.channel device) : s.Untouched (s.setSeat number seat) := by
  rw [setSeat_eq hentry hdevice, hchannel]
  exact ⟨rfl, fun other => s.file_setFile_self device.file other, rfl, set_of_getElem? hchip,
    set_of_getElem? (Option.join_eq_some_iff.mp hdevice)⟩

end Machine

end VideoCapture
