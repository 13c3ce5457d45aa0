import VideoCapture.Proofs.Machine.Rights

/-!
# Closing an opener

An opener that is closed is put back as it ends, and then its place is given up. Its device goes
with the last opener if whoever brought it up has dropped it, and stays otherwise. An opener without
the right to capture leaves everything else as it was.

## Main definitions

* `VideoCapture.Machine.leave` — puts an opener back and takes it away.

## Main results

* `VideoCapture.Machine.close_eq_leave` — closing an opener of a device that stays.
* `VideoCapture.Machine.exists_close_of_without` — closing an opener without the right.
-/

set_option autoImplicit false

namespace VideoCapture.Machine

variable {δ : Type} {s s' : Machine δ} {number : Nat} {entry : OpenDevice} {device : Device}
  {seat after : Seat δ}

/-! ## Openers and devices -/

/-- What an opener works on is there. -/
lemma Orderly.exists_seat (h : s.Orderly) (hentry : s.opener? number = some entry)
    (hdevice : s.device? entry.device = some device) :
    ∃ seat, s.seat? number = some seat ∧ seat.opener = entry.opener ∧
      seat.chip.number = device.chip ∧ s.chips[seat.chip.number]? = some seat.chip ∧
      seat.channel = s.channel device := by
  obtain ⟨chip, hchip⟩ : ∃ chip, s.chips[device.chip]? = some chip :=
    ⟨_, List.getElem?_eq_getElem (h.devices _ _ hdevice)⟩
  have hnumber := h.numbered _ chip hchip
  exact ⟨_, seat?_eq_some.mpr ⟨entry, device, chip, hentry, hdevice, hchip, rfl⟩, rfl, hnumber,
    hnumber.symm ▸ hchip, rfl⟩

/-! ## Leaving -/

/-- Puts what an opener works on back, and takes the opener away. -/
def leave (s : Machine δ) (number : Nat) (seat : Seat δ) : Machine δ :=
  { s.setSeat number seat with openers := (s.setSeat number seat).openers.set number none }

/-- The opener is gone, and the others stay. -/
lemma opener?_leave (hentry : s.opener? number = some entry)
    (hdevice : s.device? entry.device = some device) (seat : Seat δ) (other : Nat) :
    (s.leave number seat).opener? other = if other = number then none else s.opener? other := by
  have hput := opener?_setSeat hentry hdevice seat
  have hplace : number < (s.setSeat number seat).openers.length :=
    lt_length_of_join ((hput number).trans (if_pos rfl))
  refine (join_getElem?_set hplace none other).trans ?_
  split
  · rfl
  · next hother => exact (hput other).trans (if_neg hother)

variable [DmaBackend δ]

/-- A device that somebody has is not ended. -/
lemma reap_of_kept (hdevice : s.device? number = some device)
    (hkept : device.owned = true ∨ s.isOpen number = true) : s.reap number = .ok s := by
  have hleft : (device.owned || s.isOpen number) = true := Bool.or_eq_true_iff.mpr hkept
  simp only [reap, hdevice, hleft, if_true]
  rfl

/-- **Closing an opener puts it back as it ends and takes it away**, as long as somebody still has
the device. -/
theorem close_eq_leave (hentry : s.opener? number = some entry)
    (hdevice : s.device? entry.device = some device) (hseat : s.seat? number = some seat)
    (hclose : seat.close = .ok after)
    (hkept : device.owned = true ∨
      ∃ i other, s.opener? i = some other ∧ other.device = entry.device ∧ i ≠ number) :
    s.close number = .ok (true, s.leave number after) := by
  have hstays : (s.leave number after).device? entry.device =
      some { device with queue := after.channel.toCaptureQueue } :=
    (device?_setSeat hentry hdevice after entry.device).trans (if_pos rfl)
  have hreap := reap_of_kept hstays (hkept.imp_right fun ⟨i, other, hother, hsame, hne⟩ =>
    hsame ▸ isOpen_of_opener?
      ((opener?_leave hentry hdevice after i).trans ((if_neg hne).trans hother)))
  unfold close
  rw [hentry, hseat]
  exact bind_eq_ok.mpr ⟨after, hclose, bind_eq_ok.mpr ⟨_, hreap, rfl⟩⟩

/-- An opener without the right leaves everything else alone when it goes. -/
lemma Orderly.exists_leave (h : s.Orderly) (hentry : s.opener? number = some entry)
    (hdevice : s.device? entry.device = some device) (hwithout : entry.opener.holds = false) :
    ∃ seat, s.seat? number = some seat ∧ seat.close = .ok seat ∧
      s.Untouched (s.leave number seat) := by
  obtain ⟨seat, hseat, hopener, -, hchip, hchannel⟩ := h.exists_seat hentry hdevice
  have hclose : seat.close = .ok seat := by
    rw [Seat.close, hopener, if_neg (by simp [hwithout])]
    rfl
  exact ⟨seat, hseat, hclose,
    (untouched_setSeat hentry hdevice hchip hchannel).trans (untouched_openers _ _)⟩

/-- **Closing an opener without the right changes nothing else**, as long as somebody still has the
device. -/
theorem exists_close_of_without (h : s.Orderly) (hentry : s.opener? number = some entry)
    (hdevice : s.device? entry.device = some device) (hwithout : entry.opener.holds = false)
    (hkept : device.owned = true ∨
      ∃ i other, s.opener? i = some other ∧ other.device = entry.device ∧ i ≠ number) :
    ∃ s', s.close number = .ok (true, s') ∧ s.Untouched s' ∧
      ∀ i, s'.opener? i = if i = number then none else s.opener? i := by
  obtain ⟨seat, hseat, hclose, huntouched⟩ := h.exists_leave hentry hdevice hwithout
  exact ⟨_, close_eq_leave hentry hdevice hseat hclose hkept, huntouched,
    opener?_leave hentry hdevice seat⟩

end VideoCapture.Machine
