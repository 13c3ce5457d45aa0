import VideoCapture.Proofs.Machine.Closing
import VideoCapture.Proofs.Machine.Portrait
import VideoCapture.Proofs.Machine.References

/-!
# Who has references to chips

References to a chip are with callers who have taken them and not returned them yet, and with the
devices that capture with the chip. Together they are those that the registry counts. So a reference
that is returned was out, and returning it succeeds: when a caller returns one, when a device ends,
and when a device cannot be brought up and hands back what it had already got.

The chip is reset with the first reference, which gives its registers their power-on values, and
shut down with the last, after which it transfers nothing and raises no interrupt. In between no
reference that is taken or returned changes its registers.

## Main definitions

* `VideoCapture.Machine.outstanding` — how many references to a chip are out.
* `VideoCapture.Machine.Lends` — things happen, and callers return what they have.
* `VideoCapture.Machine.Got`, `VideoCapture.Machine.Probed` — what asking for a chip and bringing up
  a device come to.
* `VideoCapture.Machine.returned`, `VideoCapture.Machine.ended` — a machine after a reference has
  been returned and after a device has ended.
* `VideoCapture.Machine.DownWithLast` — what becomes of registers when a reference is returned.
* `VideoCapture.Machine.Referenced` — taking and returning references goes as it should.

## Main results

* `VideoCapture.Machine.balanced_of_perform` — whatever happens, references are counted rightly.
* `VideoCapture.Machine.referenced_of_lends` — and taking and returning them goes as it should.
-/

set_option autoImplicit false

namespace VideoCapture.Machine

variable {δ : Type} {s s₁ s' : Machine δ} {held : List Nat} {out : Nat → Nat} {n k : Nat}
  {device : Device} {chip : Chip} {location : Location} {file : Nat} {config : Config}

/-! ## References that are out -/

/-- The chip of each device, by the number of the device. -/
def holders (s : Machine δ) : List (Option Nat) :=
  s.devices.map fun place => place.map Device.chip

/-- How many references to the chip of a number are out: those that callers have, of which `held` is
a list, and those of devices. -/
def outstanding (s : Machine δ) (held : List Nat) (k : Nat) : Nat :=
  held.count k + s.holders.count (some k)

/-- The chip of a device is that of its place. -/
lemma getElem?_holders (hdevice : s.device? n = some device) :
    s.holders[n]? = some (some device.chip) := by
  rw [holders, List.getElem?_map, Option.join_eq_some_iff.mp hdevice]
  rfl

/-- A device has a reference to its chip. -/
lemma outstanding_pos (hdevice : s.device? n = some device) (held : List Nat) :
    0 < s.outstanding held device.chip :=
  Nat.add_pos_right _ (List.count_pos_iff.mpr (List.mem_of_getElem? (getElem?_holders hdevice)))

/-- So has a caller who has not returned it. -/
lemma outstanding_pos_of_mem (hk : k ∈ held) : 0 < s.outstanding held k :=
  Nat.add_pos_left (List.count_pos_iff.mpr hk) _

/-- References depend on devices. -/
lemma outstanding_congr (h : s'.devices = s.devices) (held : List Nat) :
    s'.outstanding held = s.outstanding held := by
  unfold outstanding holders
  rw [h]

/-- A device that changes keeps its reference. -/
lemma holders_set (hdevice : s.device? n = some device) (after : Device)
    (hchip : after.chip = device.chip) :
    holders { s with devices := s.devices.set n (some after) } = s.holders := by
  have hplace := getElem?_holders hdevice
  rw [holders, List.map_set, Option.map_some, hchip]
  exact set_of_getElem? hplace

/-- A device that comes has one reference more. -/
lemma outstanding_append (s : Machine δ) (held : List Nat) (device : Device) :
    outstanding { s with devices := s.devices ++ [some device] } held =
      Function.update (s.outstanding held) device.chip (s.outstanding held device.chip + 1) := by
  funext k
  have hholders : holders { s with devices := s.devices ++ [some device] } =
      s.holders ++ [some device.chip] := List.map_append
  rw [outstanding, hholders, List.count_append]
  by_cases hk : k = device.chip
  · rw [hk, Function.update_self, List.count_singleton_self, outstanding, Nat.add_assoc]
  · have hother : [some device.chip].count (some k) = 0 :=
      List.count_eq_zero.mpr (by simpa using hk)
    rw [Function.update_of_ne hk, hother]
    rfl

/-- A device that goes has one reference less. -/
lemma outstanding_vacate (hdevice : s.device? n = some device) (held : List Nat) :
    outstanding { s with devices := s.devices.set n none } held =
      Function.update (s.outstanding held) device.chip (s.outstanding held device.chip - 1) := by
  funext k
  have hplace := getElem?_holders hdevice
  obtain ⟨hlt, hget⟩ := List.getElem?_eq_some_iff.mp hplace
  have hholders : holders { s with devices := s.devices.set n none } = s.holders.set n none :=
    List.map_set
  rw [outstanding, hholders, List.count_set hlt, hget]
  by_cases hk : k = device.chip
  · have hpos : 0 < s.holders.count (some device.chip) :=
      List.count_pos_iff.mpr (List.mem_of_getElem? hplace)
    rw [hk, Function.update_self, if_pos (beq_self_eq_true _), if_neg nofun, outstanding]
    omega
  · have hother : (some device.chip == some k) = false := by simpa using Ne.symm hk
    rw [Function.update_of_ne hk, hother, if_neg nofun, if_neg nofun]
    rfl

/-- A caller takes a reference. -/
lemma outstanding_cons (s : Machine δ) (held : List Nat) (k : Nat) :
    s.outstanding (k :: held) =
      Function.update (s.outstanding held) k (s.outstanding held k + 1) := by
  funext j
  by_cases hj : j = k
  · rw [hj, Function.update_self, outstanding, List.count_cons_self, outstanding]
    omega
  · rw [Function.update_of_ne hj, outstanding, List.count_cons_of_ne (Ne.symm hj), outstanding]

/-- A caller returns a reference. -/
lemma outstanding_erase (s : Machine δ) (hk : k ∈ held) :
    s.outstanding (held.erase k) =
      Function.update (s.outstanding held) k (s.outstanding held k - 1) := by
  funext j
  by_cases hj : j = k
  · have hpos := List.count_pos_iff.mpr hk
    rw [hj, Function.update_self, outstanding, List.count_erase_self, outstanding]
    omega
  · rw [Function.update_of_ne hj, outstanding, List.count_erase_of_ne hj, outstanding]

/-! ## What happens to chips -/

/-- What asking for the chip at a location comes to, while `out` references to the chips of each
number are out. -/
inductive Got (s : Machine δ) (out : Nat → Nat) (location : Location) (file : Nat)
    (config : Config) : Except Error Nat → Machine δ → Prop where
  /-- The chip at the location is in use, and there is one more reference to it. -/
  | shared {entry : Registration} : entry ∈ s.registry.entries →
      Registry.isAt entry location = true →
      Got s out location file config (.ok entry.number)
        { s with registry := s.registry.setReferences entry.number (out entry.number + 1) }
  /-- It is not, and there is no room for one more. -/
  | full : (∀ entry ∈ s.registry.entries, Registry.isAt entry location = false) →
      Registry.capacity ≤ s.registry.entries.length →
      Got s out location file config (.error .noDevice) s
  /-- It is not, and is brought up. Its registers get their power-on values, and under a norm of the
  decoder they hold what is chosen for it. -/
  | first {chip : Chip} {regs : RegisterFile} :
      (∀ entry ∈ s.registry.entries, Registry.isAt entry location = false) →
      s.registry.entries.length < Registry.capacity →
      Chip.bringUp s.registry.count location file (s.file file) config = (chip, regs) →
      regs.PoweredOn → (config.norm ∈ Norm.all → chip.Portrayed regs) →
      Got s out location file config (.ok s.registry.count)
        { s.setFile file regs with
          registry := s.registry.enter location
          chips := s.chips ++ [chip] }

/-- A machine once a reference to a chip has been returned, with the references that are left: the
chip is shut down if it was the last. -/
def returned (s : Machine δ) (registry : Registry) (chip : Chip) (last : Bool) : Machine δ :=
  let s := { s with registry }
  if last then s.setFile chip.file (Decoder.shutdown (s.file chip.file)) else s

/-- The registers that a returned reference concerns are those of the chip, if it was the last. -/
lemma file_returned (s : Machine δ) (registry : Registry) (chip : Chip) (last : Bool) (f : Nat) :
    (s.returned registry chip last).file f =
      if last = true ∧ f = chip.file then Decoder.shutdown (s.file f) else s.file f := by
  unfold returned
  cases last with
  | false => rfl
  | true =>
    simp only [if_true, true_and]
    rw [file_setFile]
    split
    · next hf => rw [hf]; rfl
    · rfl

/-- With the last reference to a chip its registers have been shut down, and no others have changed.
Without it none have. -/
structure DownWithLast (s : Machine δ) (chip : Chip) (last : Bool) (s' : Machine δ) : Prop where
  /-- The registers of the chip have been shut down. -/
  down : last = true → (s.file chip.file).ShutDown (s'.file chip.file)
  /-- Others are as they were. -/
  others : ∀ f, f ≠ chip.file ∨ last = false → s'.file f = s.file f

/-- **A reference that is returned shuts the chip down if it was the last.** -/
theorem downWithLast_returned (s : Machine δ) (registry : Registry) (chip : Chip) (last : Bool) :
    s.DownWithLast chip last (s.returned registry chip last) where
  down hlast := by
    rw [file_returned, if_pos ⟨hlast, rfl⟩]
    exact Decoder.shutDown_shutdown _
  others f hf := by
    refine (file_returned s registry chip last f).trans (if_neg ?_)
    rintro ⟨hlast, rfl⟩
    exact hf.elim (absurd rfl) fun hmore => absurd (hmore.symm.trans hlast) nofun

/-- Nothing else is concerned. -/
lemma rest_returned (s : Machine δ) (registry : Registry) (chip : Chip) (last : Bool) :
    (s.returned registry chip last).registry = registry ∧
      (s.returned registry chip last).chips = s.chips ∧
      (s.returned registry chip last).devices = s.devices := by
  unfold returned
  cases last <;> exact ⟨rfl, rfl, rfl⟩

/-- Asking for a chip is one of these. -/
lemma got_get (hc : s.registry.Counts out) (location : Location) (file : Nat) (config : Config) :
    s.Got out location file config (s.get location file config).1
      (s.get location file config).2 := by
  unfold Machine.get
  obtain ⟨entry, hentry, hat, htake⟩ | ⟨hfree, ⟨hfull, htake⟩ | ⟨hroom, htake⟩⟩ :=
    hc.take location
  · rw [htake]
    exact .shared hentry hat
  · rw [htake]
    exact .full hfree hfull
  · rw [htake]
    exact .first hfree hroom rfl (Chip.poweredOn_bringUp _ _ _ _ _)
      (Chip.portrayed_bringUp _ _ _ _)

/-- A reference more is counted. -/
lemma Got.counts (h : s.Got out location file config (.ok k) s')
    (hc : s.registry.Counts out) :
    s'.registry.Counts (Function.update out k (out k + 1)) ∧
      s.registry.Continues s'.registry := by
  cases h with
  | shared hentry _ =>
    exact ⟨hc.setReferences hentry (Nat.succ_pos _), Registry.continues_setReferences _ _ _⟩
  | first hfree hroom _ _ _ =>
    rw [hc.next]
    exact ⟨hc.enter hfree hroom, Registry.continues_enter _ _⟩

/-- A chip that cannot be got leaves everything as it was. -/
lemma Got.eq_of_error {error : Error} (h : s.Got out location file config (.error error) s') :
    s' = s := by
  cases h
  rfl

/-- Asking for a chip concerns no device. -/
lemma Got.devices {result : Except Error Nat} (h : s.Got out location file config result s') :
    s'.devices = s.devices := by
  cases h <;> rfl

/-- **A reference that is out can be returned.** -/
theorem put_eq (hc : s.registry.Counts out) (hk : 0 < out k) (hchip : s.chips[k]? = some chip) :
    s.put k =
      .ok (s.returned (s.registry.release k (out k)) chip (decide (out k = 1))) := by
  refine bind_eq_ok.mpr ⟨_, hc.giveBack hk, ?_⟩
  dsimp only
  rw [hchip]
  unfold returned
  by_cases hlast : out k = 1
  · rw [decide_eq_true hlast]
    rfl
  · rw [decide_eq_false hlast]
    rfl

/-! ## What happens to devices -/

variable [DmaBackend δ]

/-- A machine once a device has ended, so many references to whose chip are out: the engine is
stopped, the reference returned, and the queue ends. -/
def ended (s : Machine δ) (number : Nat) (device : Device) (chip : Chip) (references : Nat) :
    Machine δ :=
  let stopped := (s.channel device).stopEngine
  let s := (s.setFile device.file stopped.regs).returned
    (s.registry.release device.chip references) chip (decide (references = 1))
  let (regs, dma) :=
    (s.channel { device with queue := stopped.toCaptureQueue }).dispose
  { s.setFile device.file regs with dma, devices := s.devices.set number none }

/-- A chip is down once a device has ended that had the last reference to it.

**Proof sketch.** The reference is returned in between two stops of the engine: the first does not
matter to what is shut down, and the second leaves what is down as it is. -/
lemma down_ended (s : Machine δ) (n : Nat) (device : Device) (chip : Chip) :
    ((s.ended n device chip 1).file chip.file).Down := by
  let stopped := (s.channel device).stopEngine
  let s₁ := (s.setFile device.file stopped.regs).returned (s.registry.release device.chip 1) chip
    true
  let c := s₁.channel { device with queue := stopped.toCaptureQueue }
  have hended : (s.ended n device chip 1).file chip.file =
      (s₁.setFile device.file c.dispose.1).file chip.file := rfl
  have hdown : (s₁.file chip.file).Down := ((downWithLast_returned _ _ _ true).down rfl).down
  rw [hended, file_setFile]
  split
  · next hfile =>
    have hregs : c.regs = s₁.file chip.file := congrArg s₁.file hfile.symm
    have hstopped : c.regs.Silenced c.dispose.1 := RegisterFile.silenced_stop c.engine c.regs
    exact hdown.silenced (hregs ▸ hstopped)
  · exact hdown

/-- What bringing up a device comes to. -/
inductive Probed (s : Machine δ) (out : Nat → Nat) (location : Location) (file : Nat)
    (config : Config) : Except Error Nat → Machine δ → Prop where
  /-- There is no chip. -/
  | refused {error : Error} : s.Got out location file config (.error error) s →
      Probed s out location file config (.error error) s
  /-- There is a chip, and a device is made. -/
  | made {k : Nat} {s₁ : Machine δ} {c : Channel δ} {dma : δ} :
      s.Got out location file config (.ok k) s₁ →
      Channel.create (s₁.file file) s₁.dma config = (.ok c, dma) →
      Probed s out location file config (.ok s.devices.length)
        { s₁ with
          dma
          devices := s.devices ++ [some { chip := k, file, config, queue := c.toCaptureQueue }] }
  /-- There is a chip, but there can be no queue. The reference is returned, and the chip is shut
  down if it has only just been brought up. -/
  | failed {k : Nat} {s₁ s₂ : Machine δ} {error : Error} {dma : δ} {chip : Chip} :
      s.Got out location file config (.ok k) s₁ →
      Channel.create (s₁.file file) s₁.dma config = (.error error, dma) →
      s₁.chips[k]? = some chip →
      s₂ = returned { s₁ with dma } { s.registry with count := s₁.registry.count } chip
        (decide (out k = 0)) →
      DownWithLast { s₁ with dma } chip (decide (out k = 0)) s₂ →
      Probed s out location file config (.error error) s₂

/-- References are counted rightly, in a machine in order. -/
structure Balanced (s : Machine δ) (held : List Nat) : Prop where
  /-- The machine is in order. -/
  orderly : s.Orderly
  /-- The registry counts the references that are out. -/
  counts : s.registry.Counts (s.outstanding held)

omit [DmaBackend δ] in
/-- Where the same devices have the same chips references are counted as before. -/
lemma Balanced.counted (hb : s.Balanced held) (hholders : s'.holders = s.holders)
    (hregistry : s'.registry = s.registry) :
    s'.registry.Counts (s'.outstanding held) ∧ s.registry.Continues s'.registry := by
  have hsame : s'.outstanding held = s.outstanding held := by
    unfold outstanding
    rw [hholders]
  rw [hregistry, hsame]
  exact ⟨hb.counts, .refl _⟩

omit [DmaBackend δ] in
/-- The registry gives back what it has just given. -/
lemma Got.release (h : s.Got out location file config (.ok k) s') (hc : s.registry.Counts out) :
    s'.registry.release k (out k + 1) = { s.registry with count := s'.registry.count } := by
  cases h with
  | shared hentry _ =>
    exact hc.release_setReferences ((hc.registered _).mp ⟨_, hentry, rfl⟩)
  | first hfree hroom _ _ _ =>
    rw [hc.next]
    exact hc.release_enter location

omit [DmaBackend δ] in
/-- **A caller can return a reference that it has.** -/
theorem Balanced.exists_put (hb : s.Balanced held) (hk : k ∈ held) :
    ∃ chip, s.chips[k]? = some chip ∧ s.put k =
      .ok (s.returned (s.registry.release k (s.outstanding held k)) chip
        (decide (s.outstanding held k = 1))) := by
  have hpos := outstanding_pos_of_mem (s := s) hk
  obtain ⟨entry, hentry, rfl⟩ := (hb.counts.registered k).mpr hpos
  have hchip := List.getElem?_eq_getElem (hb.orderly.registered entry hentry)
  exact ⟨_, hchip, put_eq hb.counts hpos hchip⟩

/-- **Bringing up a device always comes to an end**, and it is one of these.

**Proof sketch.** A reference is taken or refused. If it is taken the queue is created, or fails for
want of memory, and then the reference is returned, which is possible as it is out. -/
theorem Balanced.exists_probe (hb : s.Balanced held) (location : Location) (file : Nat)
    (config : Config) : ∃ result s', s.probe location file config = .ok (result, s') ∧
      s.Probed (s.outstanding held) location file config result s' := by
  have hgot := got_get hb.counts location file config
  unfold Machine.probe
  rcases hget : s.get location file config with ⟨result, s₁⟩
  rw [hget] at hgot
  cases result with
  | error error =>
    obtain rfl := hgot.eq_of_error
    exact ⟨_, _, rfl, .refused hgot⟩
  | ok k =>
    obtain ⟨-, -, -, hnumber⟩ := hb.orderly.get hget
    obtain ⟨chip, hchip⟩ : ∃ chip, s₁.chips[k]? = some chip :=
      ⟨_, List.getElem?_eq_getElem (hnumber k rfl)⟩
    dsimp only
    rcases hcreate : Channel.create (s₁.file file) s₁.dma config with ⟨result, dma⟩
    cases result with
    | ok c =>
      have hmade := Probed.made hgot hcreate
      rw [← hgot.devices] at hmade
      exact ⟨_, _, rfl, hmade⟩
    | error error =>
      -- the reference that has just been taken is out
      have hcounts := (hgot.counts hb.counts).1
      have hout := Function.update_self k (s.outstanding held k + 1) (s.outstanding held)
      have hput : put { s₁ with dma } k = .ok (returned { s₁ with dma }
          { s.registry with count := s₁.registry.count } chip
          (decide (s.outstanding held k = 0))) := by
        have hlast : decide (s.outstanding held k + 1 = 1) =
            decide (s.outstanding held k = 0) := by simp
        rw [put_eq (s := { s₁ with dma }) hcounts (by omega) hchip, hout,
          hgot.release hb.counts, hlast]
      exact ⟨_, _, bind_eq_ok.mpr ⟨_, hput, rfl⟩,
        .failed hgot hcreate hchip rfl (downWithLast_returned _ _ _ _)⟩

/-- **A device can be ended.** -/
theorem retire_eq (hc : s.registry.Counts (s.outstanding held))
    (hdevice : s.device? n = some device) (hchip : s.chips[device.chip]? = some chip) :
    s.retire n device = .ok (s.ended n device chip (s.outstanding held device.chip)) :=
  bind_eq_ok.mpr ⟨_, put_eq (s := s.setFile device.file (s.channel device).stopEngine.regs) hc
    (outstanding_pos hdevice held) hchip, rfl⟩

/-- **A device that nobody has any more ends.** -/
theorem reap_eq (hc : s.registry.Counts (s.outstanding held))
    (hdevice : s.device? n = some device) (howned : device.owned = false)
    (hopen : s.isOpen n = false) (hchip : s.chips[device.chip]? = some chip) :
    s.reap n = .ok (s.ended n device chip (s.outstanding held device.chip)) := by
  have hnobody : ¬(device.owned || s.isOpen n) = true := by simp [howned, hopen]
  unfold Machine.reap
  rw [hdevice]
  exact (if_neg hnobody).trans (retire_eq hc hdevice hchip)

/-- A device that has ended has given its reference back.

**Proof sketch.** The place of the device is empty afterwards, so that one reference less is out,
and one has been returned. -/
lemma counts_ended (hc : s.registry.Counts (s.outstanding held))
    (hdevice : s.device? n = some device) (chip : Chip) :
    let s' := s.ended n device chip (s.outstanding held device.chip)
    s'.registry.Counts (s'.outstanding held) ∧ s.registry.Continues s'.registry := by
  have hpos := outstanding_pos hdevice held
  intro s'
  obtain ⟨hregistry, -, hdevices⟩ := rest_returned
    (s.setFile device.file (s.channel device).stopEngine.regs)
    (s.registry.release device.chip (s.outstanding held device.chip)) chip
    (decide (s.outstanding held device.chip = 1))
  have hregistry' : s'.registry = s.registry.release device.chip
      (s.outstanding held device.chip) := hregistry
  have hplaces : s'.devices = s.devices.set n none := congrArg (fun l => l.set n none) hdevices
  have hout : s'.outstanding held =
      outstanding { s with devices := s.devices.set n none } held := by
    unfold outstanding holders
    rw [hplaces]
  rw [hregistry', hout, outstanding_vacate hdevice held]
  exact ⟨hc.release hpos, Registry.continues_release _ _ _⟩

/-- A device that somebody has open lasts. -/
lemma drop_eq_of_open (hdevice : s.device? n = some device) (hopen : s.isOpen n = true) :
    s.drop n = .ok (device.owned,
      { s with devices := s.devices.set n (some { device with owned := false }) }) := by
  have hstays : device? { s with devices := s.devices.set n (some { device with owned := false }) }
      n = some { device with owned := false } :=
    (join_getElem?_set (lt_length_of_join hdevice) _ n).trans (if_pos rfl)
  unfold Machine.drop
  rw [hdevice]
  exact bind_eq_ok.mpr ⟨_, reap_of_kept hstays (.inr hopen), rfl⟩

/-- **A device that nobody has open ends when it is dropped.**

**Proof sketch.** Dropping takes its owner from the device first, and then it is reaped, as nobody
has it open. That it has no owner by then does not matter to how it ends. -/
theorem drop_eq_of_closed (hc : s.registry.Counts (s.outstanding held))
    (hdevice : s.device? n = some device) (hopen : s.isOpen n = false)
    (hchip : s.chips[device.chip]? = some chip) :
    s.drop n = .ok (device.owned,
      s.ended n device chip (s.outstanding held device.chip)) := by
  let disowned : Machine δ :=
    { s with devices := s.devices.set n (some { device with owned := false }) }
  have hstays : disowned.device? n = some { device with owned := false } :=
    (join_getElem?_set (lt_length_of_join hdevice) _ n).trans (if_pos rfl)
  have hholders : disowned.holders = s.holders := holders_set hdevice _ rfl
  have hout : disowned.outstanding held = s.outstanding held := by
    unfold outstanding
    rw [hholders]
  have hreap := reap_eq (s := disowned) (hout.symm ▸ hc) hstays rfl hopen hchip
  -- that it is nobody's does not matter to how it ends
  have hsame : disowned.ended n { device with owned := false } chip
      (disowned.outstanding held device.chip) =
        s.ended n device chip (s.outstanding held device.chip) := by
    rw [hout]
    unfold ended returned
    by_cases hlast : s.outstanding held device.chip = 1
    · simp only [hlast, decide_true, if_true, setFile, disowned, List.set_set]
      rfl
    · simp only [hlast, decide_false, Bool.false_eq_true, if_false, setFile, disowned,
        List.set_set]
      rfl
  rw [hsame] at hreap
  unfold Machine.drop
  rw [hdevice]
  exact bind_eq_ok.mpr ⟨_, hreap, rfl⟩

/-! ## Whatever happens -/

/-- The references that callers have after something has happened: one more if they have asked for a
chip and got it, and one less if they have returned one. -/
def heldAfter (s : Machine δ) (held : List Nat) : Operation → List Nat
  | .get location file config =>
    match (s.get location file config).1 with
    | .ok k => k :: held
    | .error _ => held
  | .put k => held.erase k
  | _ => held

/-- Things happen to a machine, any at all, except that callers return only references that they
have. -/
inductive Lends (s : Machine δ) (held : List Nat) : Machine δ → List Nat → Prop where
  /-- Nothing happens. -/
  | refl : Lends s held s held
  /-- One thing more happens. -/
  | step {s₁ s₂ : Machine δ} {held₁ : List Nat} {operation : Operation} :
      Lends s held s₁ held₁ → (∀ k, operation = .put k → k ∈ held₁) →
      s₁.perform operation = .ok s₂ → Lends s held s₂ (s₁.heldAfter held₁ operation)

omit [DmaBackend δ] in
/-- The queue of a device may be put back. -/
lemma loans_setChannel (hdevice : s.device? n = some device) (c : Channel δ) :
    (s.setChannel n device c).registry = s.registry ∧
      (s.setChannel n device c).holders = s.holders :=
  ⟨rfl, holders_set hdevice _ rfl⟩

omit [DmaBackend δ] in
/-- So may an opener with what it works on. -/
lemma loans_setSeat (s : Machine δ) (n : Nat) (seat : Seat δ) :
    (s.setSeat n seat).registry = s.registry ∧ (s.setSeat n seat).holders = s.holders := by
  unfold setSeat
  split
  · exact ⟨rfl, rfl⟩
  · next entry _ =>
    dsimp only
    split
    · exact ⟨rfl, rfl⟩
    · next device hdevice =>
      exact ⟨rfl, holders_set (s := { s with openers := _ }) hdevice _ rfl⟩

omit [DmaBackend δ] in
/-- A caller who asks for a chip has one reference more, if there is a chip. -/
lemma Balanced.get (hb : s.Balanced held) (location : Location) (file : Nat) (config : Config) :
    let s' := (s.get location file config).2
    s'.registry.Counts (s'.outstanding (s.heldAfter held (.get location file config))) ∧
      s.registry.Continues s'.registry := by
  have hgot := got_get hb.counts location file config
  unfold heldAfter
  dsimp only
  cases hresult : (s.get location file config).1 with
  | error error =>
    rw [hresult] at hgot
    rw [hgot.eq_of_error]
    exact hb.counted rfl rfl
  | ok k =>
    rw [hresult] at hgot
    rw [outstanding_congr hgot.devices, outstanding_cons]
    exact hgot.counts hb.counts

omit [DmaBackend δ] in
/-- A caller who returns a reference has one less. -/
lemma Balanced.put (hb : s.Balanced held) (hk : k ∈ held) (h : s.put k = .ok s') :
    s'.registry.Counts (s'.outstanding (held.erase k)) ∧ s.registry.Continues s'.registry := by
  obtain ⟨chip, -, hreturned⟩ := hb.exists_put hk
  obtain rfl := Except.ok.inj (hreturned.symm.trans h)
  obtain ⟨hregistry, -, hdevices⟩ := rest_returned s
    (s.registry.release k (s.outstanding held k)) chip (decide (s.outstanding held k = 1))
  rw [hregistry, outstanding_congr hdevices, outstanding_erase s hk]
  exact ⟨hb.counts.release (outstanding_pos_of_mem hk), Registry.continues_release _ _ _⟩

/-- A device that nobody has any more gives its reference back. -/
lemma Balanced.reap (hb : s.Balanced held) (h : s.reap n = .ok s') :
    s'.registry.Counts (s'.outstanding held) ∧ s.registry.Continues s'.registry := by
  unfold Machine.reap at h
  split at h
  · next device hdevice =>
    split at h
    · exact pure_eq_ok.mp h ▸ hb.counted rfl rfl
    · have hchip := List.getElem?_eq_getElem (hb.orderly.devices n device hdevice)
      rw [retire_eq hb.counts hdevice hchip] at h
      obtain rfl := Except.ok.inj h
      exact counts_ended hb.counts hdevice _
  · exact pure_eq_ok.mp h ▸ hb.counted rfl rfl

/-- A device that is dropped keeps its reference or gives it back. -/
lemma Balanced.drop {dropped : Bool} (hb : s.Balanced held)
    (h : s.drop n = .ok (dropped, s')) :
    s'.registry.Counts (s'.outstanding held) ∧ s.registry.Continues s'.registry := by
  unfold Machine.drop at h
  split at h
  · obtain ⟨-, rfl⟩ := Prod.mk.inj (pure_eq_ok.mp h)
    exact hb.counted rfl rfl
  · next device hdevice =>
    obtain ⟨s₁, hreap, h⟩ := bind_eq_ok.mp h
    obtain ⟨-, rfl⟩ := Prod.mk.inj (pure_eq_ok.mp h)
    have hholders := holders_set hdevice { device with owned := false } rfl
    have hdisowned : Balanced
        { s with devices := s.devices.set n (some { device with owned := false }) } held :=
      ⟨hb.orderly.set_device _ hdevice rfl, (hb.counted hholders rfl).1⟩
    exact hdisowned.reap hreap

/-- So does one whose last opener is closed. -/
lemma Balanced.close {closed : Bool} (hb : s.Balanced held)
    (h : s.close n = .ok (closed, s')) :
    s'.registry.Counts (s'.outstanding held) ∧ s.registry.Continues s'.registry := by
  unfold Machine.close at h
  split at h
  · next entry seat hentry hseat =>
    obtain ⟨after, hafter, h⟩ := bind_eq_ok.mp h
    obtain ⟨s₁, hreap, h⟩ := bind_eq_ok.mp h
    obtain ⟨-, rfl⟩ := Prod.mk.inj (pure_eq_ok.mp h)
    obtain ⟨hregistry, hholders⟩ := loans_setSeat s n after
    have hleft : Balanced { s.setSeat n after with
        openers := (s.setSeat n after).openers.set n none } held :=
      ⟨hb.orderly.unseat hentry hseat hafter, (hb.counted hholders hregistry).1⟩
    obtain ⟨hcounts, hcontinues⟩ := hleft.reap hreap
    exact ⟨hcounts, hregistry ▸ hcontinues⟩
  · obtain ⟨-, rfl⟩ := Prod.mk.inj (pure_eq_ok.mp h)
    exact hb.counted rfl rfl

/-- **A device that is brought up has a reference**, and one that cannot be brought up leaves the
references as they were. -/
lemma Probed.counted {result : Except Error Nat} (hb : s.Balanced held)
    (h : s.Probed (s.outstanding held) location file config result s') :
    s'.registry.Counts (s'.outstanding held) ∧ s.registry.Continues s'.registry := by
  cases h with
  | refused _ => exact hb.counted rfl rfl
  | @made k s₁ c dma hgot _ =>
    obtain ⟨hcounts, hcontinues⟩ := hgot.counts hb.counts
    have hout := outstanding_append s held { chip := k, file, config, queue := c.toCaptureQueue }
    exact ⟨hout.symm ▸ hcounts, hcontinues⟩
  | @failed k s₁ _ error dma chip hgot _ _ hreturned _ =>
    subst hreturned
    obtain ⟨hregistry, -, hdevices⟩ := rest_returned { s₁ with dma }
      { s.registry with count := s₁.registry.count } chip (decide (s.outstanding held k = 0))
    have hgrown := (hgot.counts hb.counts).2.count
    rw [hregistry, outstanding_congr (hdevices.trans hgot.devices)]
    exact ⟨⟨hb.counts.registered, hb.counts.references, hb.counts.numbers, hb.counts.places,
      hb.counts.room, fun entry hentry => (hb.counts.issued entry hentry).trans_le hgrown⟩,
      hgrown, fun entry hentry _ => ⟨entry, hentry, rfl, rfl, rfl⟩⟩

/-- **Whatever happens, references are counted rightly**, as long as callers return only those that
they have.

**Proof sketch.** Only bringing devices up and ending them, and taking and returning references,
concern the registry. All else leaves the registry and the devices' chips as they are. -/
theorem balanced_of_perform {operation : Operation} (hb : s.Balanced held)
    (hput : ∀ k, operation = .put k → k ∈ held) (h : s.perform operation = .ok s') :
    s'.Balanced (s.heldAfter held operation) ∧ s.registry.Continues s'.registry := by
  suffices hcounted : s'.registry.Counts (s'.outstanding (s.heldAfter held operation)) ∧
      s.registry.Continues s'.registry from
    ⟨⟨orderly_of_perform hb.orderly h, hcounted.1⟩, hcounted.2⟩
  cases operation with
  | get location file config =>
    obtain rfl := pure_eq_ok.mp h
    exact hb.get location file config
  | put k => exact hb.put (hput k rfl) h
  | probe location file config =>
    obtain ⟨⟨result, _⟩, hprobe, hsame⟩ := bind_eq_ok.mp h
    obtain rfl := pure_eq_ok.mp hsame
    obtain ⟨_, _, heq, hprobed⟩ := hb.exists_probe location file config
    obtain ⟨rfl, rfl⟩ := Prod.mk.inj (Except.ok.inj (heq.symm.trans hprobe))
    exact hprobed.counted hb
  | drop device =>
    obtain ⟨⟨dropped, _⟩, hdrop, hsame⟩ := bind_eq_ok.mp h
    exact pure_eq_ok.mp hsame ▸ hb.drop hdrop
  | openDevice device =>
    obtain rfl | ⟨_, _, -, -, rfl⟩ := letIn_cases h <;> exact hb.counted rfl rfl
  | close opener =>
    obtain ⟨⟨closed, _⟩, hclose, hsame⟩ := bind_eq_ok.mp h
    exact pure_eq_ok.mp hsame ▸ hb.close hclose
  | ask opener operation =>
    obtain ⟨⟨answer, _⟩, hask, hsame⟩ := bind_eq_ok.mp h
    obtain rfl := pure_eq_ok.mp hsame
    obtain ⟨-, -, rfl⟩ | ⟨_, after, _, -, -, -, rfl⟩ := ask_cases hask
    · exact hb.counted rfl rfl
    · exact hb.counted (loans_setSeat s opener after).2 (loans_setSeat s opener after).1
  | adjust chip setting =>
    obtain rfl := pure_eq_ok.mp h
    obtain hsame | ⟨_, _, _, -, -, -, hsame⟩ := adjust_cases s chip setting <;>
      exact hsame.symm ▸ hb.counted rfl rfl
  | interrupt now device =>
    obtain rfl | ⟨_, c, hdevice, -, rfl⟩ := served_of_interrupt (fun _ _ => True) h
    · exact hb.counted rfl rfl
    · exact hb.counted (loans_setChannel hdevice c).2 (loans_setChannel hdevice c).1
  | service device =>
    obtain rfl | ⟨_, c, hdevice, -, rfl⟩ := served_of_service (fun _ _ => True) h
    · exact hb.counted rfl rfl
    · exact hb.counted (loans_setChannel hdevice c).2 (loans_setChannel hdevice c).1
  | work device operation =>
    obtain rfl | ⟨_, c, hdevice, -, rfl⟩ := served_of_work _ operation.preparesFor_true h
    · exact hb.counted rfl rfl
    · exact hb.counted (loans_setChannel hdevice c).2 (loans_setChannel hdevice c).1
  | change file regs =>
    obtain rfl := pure_eq_ok.mp h
    exact hb.counted rfl rfl

/-- Taking references, returning them and bringing up and dropping devices goes as it should, while
callers have the references of a list. -/
structure Referenced (s : Machine δ) (held : List Nat) : Prop where
  /-- The registry counts the references that are out. -/
  counts : s.registry.Counts (s.outstanding held)
  /-- A chip that is asked for is shared, brought up, or refused with nothing changed. -/
  get : ∀ location file config, s.Got (s.outstanding held) location file config
    (s.get location file config).1 (s.get location file config).2
  /-- A reference that a caller has can be returned, and the chip is shut down with the last. -/
  put : ∀ k ∈ held, ∃ chip, s.chips[k]? = some chip ∧
    let last := decide (s.outstanding held k = 1)
    let after := s.returned (s.registry.release k (s.outstanding held k)) chip last
    s.put k = .ok after ∧ s.DownWithLast chip last after
  /-- A device is brought up, or it is not and the references are as they were. -/
  probe : ∀ location file config, ∃ result s', s.probe location file config = .ok (result, s') ∧
    s.Probed (s.outstanding held) location file config result s'
  /-- A device that has gone cannot be dropped. -/
  gone : ∀ n, s.device? n = none → s.drop n = .ok (false, s)
  /-- A device that is dropped while it is open lasts. -/
  lasts : ∀ n device, s.device? n = some device → s.isOpen n = true →
    s.drop n = .ok (device.owned,
      { s with devices := s.devices.set n (some { device with owned := false }) })
  /-- Any other ends, and the chip is down then if it had the last reference. -/
  ends : ∀ n device, s.device? n = some device → s.isOpen n = false →
    ∃ chip, s.chips[device.chip]? = some chip ∧
      let after := s.ended n device chip (s.outstanding held device.chip)
      s.drop n = .ok (device.owned, after) ∧
        (s.outstanding held device.chip = 1 → (after.file chip.file).Down)

/-- Where references are counted rightly it does. -/
lemma Balanced.referenced (hb : s.Balanced held) : s.Referenced held where
  counts := hb.counts
  get := got_get hb.counts
  put _ hk := by
    obtain ⟨chip, hchip, hput⟩ := hb.exists_put hk
    exact ⟨chip, hchip, hput, downWithLast_returned _ _ _ _⟩
  probe := hb.exists_probe
  gone n hnone := by
    unfold Machine.drop
    rw [hnone]
    rfl
  lasts _ _ hdevice hopen := drop_eq_of_open hdevice hopen
  ends n device hdevice hopen := by
    have hchip := List.getElem?_eq_getElem (hb.orderly.devices n device hdevice)
    exact ⟨_, hchip, drop_eq_of_closed hb.counts hdevice hopen hchip,
      fun hlast => hlast ▸ s.down_ended n device _⟩

/-- References are counted rightly at all times, and no number comes back.

**Proof sketch.** Induction on what happens. -/
lemma Balanced.of_lends {held' : List Nat} (hb : s.Balanced held) (h : Lends s held s' held') :
    s'.Balanced held' ∧ s.registry.Continues s'.registry := by
  induction h with
  | refl => exact ⟨hb, .refl _⟩
  | step _ hput hperform ih =>
    obtain ⟨hbalanced, hcontinues⟩ := balanced_of_perform ih.1 hput hperform
    exact ⟨hbalanced, ih.2.trans hcontinues⟩

omit [DmaBackend δ] in
/-- Nobody has a reference in the beginning. -/
lemma balanced_vacant (dma : δ) : (vacant dma).Balanced [] where
  orderly := orderly_vacant dma
  counts := {
    registered := fun _ => iff_of_false nofun (Nat.lt_irrefl 0)
    references := nofun
    numbers := .nil
    places := .nil
    room := Nat.zero_le _
    issued := nofun }

/-- **References to chips are counted rightly**, whatever happens to a machine, as long as callers
return only those that they have. Taking and returning them goes as it should at all times, and a
number that has gone out of use never comes back. -/
theorem referenced_of_lends {dma : δ} (h : Lends (vacant dma) [] s held) :
    s.Referenced held ∧
      ∀ s' held', Lends s held s' held' → s.registry.Continues s'.registry := by
  have hbalanced := ((balanced_vacant dma).of_lends h).1
  exact ⟨hbalanced.referenced, fun _ _ hfurther => (hbalanced.of_lends hfurther).2⟩

/-- Whether callers have what they are to return. -/
def entitled (held : List Nat) : Operation → Bool
  | .put k => held.contains k
  | _ => true

/-- Lets one thing after the other happen, as long as callers have what they are to return. -/
def lendAll (s : Machine δ) (held : List Nat) : List Operation → Option (Machine δ × List Nat)
  | [] => some (s, held)
  | operation :: rest =>
    if entitled held operation then do
      (← (s.perform operation).toOption).lendAll (s.heldAfter held operation) rest
    else none

/-- What happens one after the other leads on.

**Proof sketch.** Along the operations, for every machine and every number of references that
lending has led to. -/
lemma lends_of_lendAll {operations : List Operation} {held' : List Nat}
    (h : s.lendAll held operations = some (s', held')) : Lends s held s' held' := by
  suffices hall : ∀ (s₁ : Machine δ) held₁, Lends s held s₁ held₁ →
      s₁.lendAll held₁ operations = some (s', held') → Lends s held s' held' from
    hall s held .refl h
  clear h
  induction operations with
  | nil =>
    intro s₁ held₁ hlends h
    obtain ⟨rfl, rfl⟩ := Prod.mk.inj (Option.some.inj h)
    exact hlends
  | cons operation rest ih =>
    intro s₁ held₁ hlends h
    unfold lendAll at h
    split at h
    · next hentitled =>
      obtain ⟨s₂, hperform, hrest⟩ := Option.bind_eq_some_iff.mp h
      refine ih s₂ _ (hlends.step ?_ (toOption_eq_some.mp hperform)) hrest
      rintro k rfl
      simpa [entitled] using hentitled
    · cases h

/-- A caller and a device share a chip, and two more devices cannot be brought up: one on a chip of
its own, which is shut down at once, and one on the same chip. Then the caller returns its reference
and the device is dropped. The chip that comes into use in the same slot has a new number. -/
theorem referenced_of_lends_shared :
    ∃ s held, Lends (vacant (HostDma.create HostDma.windowSize (some 1))) [] s held ∧
      (s.registry.entries.map fun e => (e.number, e.slot, e.references)) =
        [(2, 7, 1), (3, 9, 1)] ∧ held = [3, 2] ∧
      s.Referenced held ∧
        ∀ s' held', Lends s held s' held' → s.registry.Continues s'.registry := by
  let place (slot : Nat) : Location := { bus := 0, slot, vendor := 0, device := 0 }
  have hrun : ((vacant (HostDma.create HostDma.windowSize (some 1))).lendAll []
      [.get (place 9) 0 {}, .probe (place 9) 0 {}, .probe (place 5) 1 {}, .probe (place 9) 0 {},
        .put 0, .get (place 7) 2 {}, .drop 0, .get (place 9) 0 {}]).map
      (fun p => (p.1.registry.entries.map fun e : Registration => (e.number, e.slot, e.references),
        p.2)) = some ([(2, 7, 1), (3, 9, 1)], [3, 2]) := by decide +kernel
  obtain ⟨⟨s, held⟩, hlend, hview⟩ := Option.map_eq_some_iff.mp hrun
  obtain ⟨hentries, hheld⟩ := Prod.mk.inj hview
  have hlends := lends_of_lendAll hlend
  exact ⟨s, held, hlends, hentries, hheld, referenced_of_lends hlends⟩

end VideoCapture.Machine
