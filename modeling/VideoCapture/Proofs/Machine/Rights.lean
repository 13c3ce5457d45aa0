import VideoCapture.Proofs.Machine.Runs

/-!
# One opener at a time has the right to capture

That the right to capture is taken is noted twice: with the chip, and with the opener that has taken
it. The two agree at all times, whatever happens to a machine, and on every chip one opener at most
has the right. It is taken by asking for buffers or for capture, and given back by closing, and by
nothing else: a device lasts as long as anyone has it open, so the right never goes down with it.

## Main definitions

* `VideoCapture.Machine.held?` — the chip that an opener has the right to capture with.
* `VideoCapture.Machine.Orderly` — numbers refer to what is there, and rights are noted rightly.

## Main results

* `VideoCapture.Machine.Orderly.setSeat` — an opener takes the right, keeps it or gives it back.
* `VideoCapture.Machine.orderly_of_perform` — nothing that happens brings a machine out of order.
-/

set_option autoImplicit false

namespace VideoCapture

/-! ## References -/

namespace Registry

variable {registry registry' : Registry}

/-- A change of references leaves the numbers that are referred to. -/
lemma exists_of_mem_updateFirst {test : Registration → Bool}
    {change : Registration → Registration} {entries : List Registration} {entry : Registration}
    (h : entry ∈ updateFirst test change entries)
    (hchange : ∀ entry, (change entry).number = entry.number) :
    ∃ before ∈ entries, before.number = entry.number := by
  induction entries with
  | nil => cases h
  | cons first rest ih =>
    unfold updateFirst at h
    split at h
    · obtain rfl | h := List.mem_cons.mp h
      · exact ⟨first, List.mem_cons_self, (hchange first).symm⟩
      · exact ⟨entry, List.mem_cons_of_mem _ h, rfl⟩
    · obtain rfl | h := List.mem_cons.mp h
      · exact ⟨_, List.mem_cons_self, rfl⟩
      · obtain ⟨before, hbefore, hnumber⟩ := ih h
        exact ⟨before, List.mem_cons_of_mem _ hbefore, hnumber⟩

/-- A reference that is taken is to a chip in use, or else to the next one. -/
lemma take_cases {location : Location} {grant : Grant}
    (h : registry.take location = .ok (grant, registry')) :
    (∃ entry ∈ registry.entries, grant = .shared entry.number ∧
      registry'.count = registry.count ∧
      ∀ after ∈ registry'.entries, ∃ before ∈ registry.entries, before.number = after.number) ∨
    (grant = .first registry.count ∧ registry'.count = registry.count + 1 ∧
      ∀ after ∈ registry'.entries, after ∈ registry.entries ∨ after.number = registry.count) := by
  unfold take at h
  dsimp only at h
  split at h
  · next entry hfind =>
    obtain ⟨rfl, rfl⟩ := Prod.mk.inj (Except.ok.inj h)
    exact .inl ⟨entry, List.mem_of_find?_eq_some hfind, rfl, rfl, fun after hafter =>
      exists_of_mem_updateFirst hafter fun _ => rfl⟩
  · split at h
    · cases h
    · obtain ⟨rfl, rfl⟩ := Prod.mk.inj (Except.ok.inj h)
      refine .inr ⟨rfl, rfl, fun after hafter => ?_⟩
      obtain hafter | hafter := List.mem_append.mp hafter
      · exact .inl hafter
      · exact .inr (List.mem_singleton.mp hafter ▸ rfl)

/-- A reference that is returned was to a chip in use, and no others come into use. -/
lemma giveBack_cases {number : Nat} {last : Bool}
    (h : registry.giveBack number = .ok (last, registry')) : registry'.count = registry.count ∧
      ∀ after ∈ registry'.entries, ∃ before ∈ registry.entries, before.number = after.number := by
  unfold giveBack at h
  dsimp only at h
  split at h
  · cases h
  · split at h
    · obtain ⟨-, rfl⟩ := Prod.mk.inj (Except.ok.inj h)
      exact ⟨rfl, fun after hafter => ⟨after, List.mem_of_mem_eraseP hafter, rfl⟩⟩
    · obtain ⟨-, rfl⟩ := Prod.mk.inj (Except.ok.inj h)
      exact ⟨rfl, fun after hafter => exists_of_mem_updateFirst hafter fun _ => rfl⟩

end Registry

/-- What can become of the right to capture, which an opener has or not and the chip has noted as
taken or not: it stays where it is, it is taken while it is free, or it is given back by the one who
has it. -/
inductive Passes (holds claimed holds' claimed' : Bool) : Prop where
  /-- It stays where it is. -/
  | keep : holds' = holds → claimed' = claimed → Passes holds claimed holds' claimed'
  /-- It is taken. -/
  | take : claimed = false → holds' = true → claimed' = true → Passes holds claimed holds' claimed'
  /-- It is given back. -/
  | giveBack : holds = true → holds' = false → claimed' = false →
      Passes holds claimed holds' claimed'

namespace Machine

variable {δ : Type} {s s' : Machine δ}

/-- The chip that an opener has the right to capture with, if it has the right. -/
def held? (s : Machine δ) (number : Nat) : Option Nat := do
  let entry ← s.opener? number
  if entry.opener.holds then (s.device? entry.device).map Device.chip else none

/-- Numbers refer to what is there, and the right to capture is noted with a chip if and only if one
opener has it, and no other. -/
structure Orderly (s : Machine δ) : Prop where
  /-- A chip knows its number. -/
  numbered : ∀ (k : Nat) (chip : Chip), s.chips[k]? = some chip → chip.number = k
  /-- The next chip gets the next number. -/
  counted : s.registry.count = s.chips.length
  /-- References are to chips that there are. -/
  registered : ∀ entry ∈ s.registry.entries, entry.number < s.chips.length
  /-- A device has a chip that there is. -/
  devices : ∀ (n : Nat) (device : Device), s.device? n = some device → device.chip < s.chips.length
  /-- An opener has a device that has not gone. -/
  openers : ∀ (n : Nat) (entry : OpenDevice), s.opener? n = some entry →
    ∃ device, s.device? entry.device = some device
  /-- No two openers have the right to capture with the same chip. -/
  unique : ∀ {i j k}, s.held? i = some k → s.held? j = some k → i = j
  /-- A chip has its right noted as taken if and only if an opener has it. -/
  taken : ∀ (k : Nat) (chip : Chip), s.chips[k]? = some chip →
    (chip.claimed = true ↔ ∃ i, s.held? i = some k)

/-! ## What rights depend on -/

/-- Rights depend on openers and on which chips their devices have. -/
lemma held?_congr (hopeners : s'.openers = s.openers)
    (hkept : ∀ n entry, s.opener? n = some entry →
      (s'.device? entry.device).map Device.chip = (s.device? entry.device).map Device.chip)
    (i : Nat) : s'.held? i = s.held? i := by
  have hopener : s'.opener? i = s.opener? i := by rw [opener?, hopeners, opener?]
  rw [held?, held?, hopener]
  cases hentry : s.opener? i with
  | none => rfl
  | some entry => exact congrArg (ite _ · _) (hkept i entry hentry)

/-- So does the order of a machine, besides chips and references.

**Proof sketch.** Who has which right depends on the openers and on the chips of their devices,
which have not changed. -/
lemma Orderly.congr (h : s.Orderly) (hopeners : s'.openers = s.openers)
    (hdevices : ∀ n device, s'.device? n = some device → device.chip < s.chips.length)
    (hkept : ∀ n entry, s.opener? n = some entry →
      (s'.device? entry.device).map Device.chip = (s.device? entry.device).map Device.chip)
    (hchips : s'.chips = s.chips) (hregistry : s'.registry = s.registry) : s'.Orderly where
  numbered := hchips ▸ h.numbered
  counted := by rw [hregistry, hchips, h.counted]
  registered := by rw [hregistry, hchips]; exact h.registered
  devices := hchips ▸ hdevices
  openers n entry hentry := by
    rw [opener?, hopeners] at hentry
    obtain ⟨device, hdevice⟩ := h.openers n entry hentry
    have hchip := hkept n entry hentry
    rw [hdevice, Option.map_some] at hchip
    obtain ⟨after, hafter, -⟩ := Option.map_eq_some_iff.mp hchip
    exact ⟨after, hafter⟩
  unique hi hj := by
    rw [held?_congr hopeners hkept] at hi hj
    exact h.unique hi hj
  taken k chip hchip := by
    simp only [held?_congr hopeners hkept]
    exact h.taken k chip (hchips ▸ hchip)

/-- Registers do not matter to the order of a machine. -/
lemma Orderly.setFile (h : s.Orderly) (number : Nat) (regs : RegisterFile) :
    (s.setFile number regs).Orderly :=
  h.congr rfl h.devices (fun _ _ _ => rfl) rfl rfl

/-- Neither does memory. -/
lemma Orderly.set_dma (h : s.Orderly) (dma : δ) : Orderly { s with dma } :=
  h.congr rfl h.devices (fun _ _ _ => rfl) rfl rfl

/-! ## Devices -/

/-- A device may change, as long as it keeps its chip. -/
lemma Orderly.set_device {number : Nat} {device : Device} (h : s.Orderly) (after : Device)
    (hdevice : s.device? number = some device) (hchip : after.chip = device.chip) :
    Orderly { s with devices := s.devices.set number (some after) } := by
  have hget := join_getElem?_set (lt_length_of_join hdevice) (some after)
  refine h.congr rfl (fun n d hd => ?_) (fun n entry _ => ?_) rfl rfl
  · rw [device?, hget] at hd
    split at hd
    · rw [← Option.some.inj hd, hchip]
      exact h.devices number device hdevice
    · exact h.devices n d hd
  · rw [device?, hget]
    split
    · next hn => rw [hn, hdevice, Option.map_some, Option.map_some, hchip]
    · rfl

/-- The queue of a device does not matter to the order of a machine. -/
lemma Orderly.setChannel {number : Nat} {device : Device} (h : s.Orderly)
    (hdevice : s.device? number = some device) (c : Channel δ) :
    (s.setChannel number device c).Orderly :=
  ((h.setFile device.file c.regs).set_device
    { device with queue := c.toCaptureQueue } hdevice rfl).set_dma c.dma

/-- A device may come. -/
lemma Orderly.append_device {device : Device} (h : s.Orderly)
    (hchip : device.chip < s.chips.length) :
    Orderly { s with devices := s.devices ++ [some device] } := by
  have hget := join_getElem?_concat s.devices (some device)
  refine h.congr rfl (fun n d hd => ?_) (fun n entry hentry => ?_) rfl rfl
  · rw [device?, hget] at hd
    split at hd
    · exact Option.some.inj hd ▸ hchip
    · exact h.devices n d hd
  · obtain ⟨d, hd⟩ := h.openers n entry hentry
    rw [device?, hget, if_neg (Nat.ne_of_lt (lt_length_of_join hd))]
    rfl

/-- A device may go once nobody has it open. -/
lemma Orderly.vacate {number : Nat} (h : s.Orderly) (hplace : number < s.devices.length)
    (hopen : s.isOpen number = false) :
    Orderly { s with devices := s.devices.set number none } := by
  have hget := join_getElem?_set hplace none
  refine h.congr rfl (fun n d hd => ?_) (fun n entry hentry => ?_) rfl rfl
  · rw [device?, hget] at hd
    split at hd
    · cases hd
    · exact h.devices n d hd
  · have hne : entry.device ≠ number := by
      rintro rfl
      exact absurd ((isOpen_of_opener? hentry).symm.trans hopen) nofun
    rw [device?, hget, if_neg hne]
    rfl

/-! ## Chips -/

/-- Setting a chip in its place leaves the other chips alone. -/
lemma getElem?_set_chip {k : Nat} {chip after : Chip} (hchip : s.chips[k]? = some chip)
    (hk : after.number = k) (j : Nat) :
    (s.chips.set after.number after)[j]? = if j = k then some after else s.chips[j]? := by
  rw [hk]
  by_cases hj : j = k
  · rw [if_pos hj, hj, List.getElem?_set_self (List.getElem?_eq_some_iff.mp hchip).1]
  · rw [if_neg hj, List.getElem?_set_ne (Ne.symm hj)]

/-- What is set about a chip does not matter to the order of a machine. -/
lemma Orderly.setChip {k : Nat} {chip after : Chip} (h : s.Orderly)
    (hchip : s.chips[k]? = some chip) (hrole : chip.SameRole after) :
    (s.setChip after).Orderly := by
  have hk : after.number = k := hrole.number.trans (h.numbered k chip hchip)
  have hget := getElem?_set_chip hchip hk
  have hlength : (s.setChip after).chips.length = s.chips.length := List.length_set
  refine ⟨fun j other hother => ?_, h.counted.trans hlength.symm, hlength ▸ h.registered,
    hlength ▸ h.devices, h.openers, h.unique, fun j other hother => ?_⟩
  · rw [Machine.setChip, hget] at hother
    split at hother
    · next hj => rw [← Option.some.inj hother, hk, hj]
    · exact h.numbered j other hother
  · rw [Machine.setChip, hget] at hother
    split at hother
    · next hj =>
      rw [← Option.some.inj hother, hrole.claimed, hj]
      exact h.taken k chip hchip
    · exact h.taken j other hother

/-- Setting something about a chip leaves a machine in order. -/
lemma Orderly.adjust (h : s.Orderly) (number : Nat) (setting : Chip.Setting) :
    (s.adjust number setting).Orderly := by
  obtain hsame | ⟨chip, after, regs, hchip, hrole, -, heq⟩ := adjust_cases s number setting
  · rwa [hsame]
  · rw [heq]
    exact (h.setChip hchip hrole).setFile chip.file regs

/-- References may be counted anew, as long as no other chips are referred to. -/
lemma Orderly.set_registry {registry : Registry} (h : s.Orderly)
    (hcount : registry.count = s.registry.count)
    (hentries : ∀ entry ∈ registry.entries, ∃ before ∈ s.registry.entries,
      before.number = entry.number) : Orderly { s with registry } := by
  refine ⟨h.numbered, hcount.trans h.counted, fun entry hentry => ?_, h.devices, h.openers,
    h.unique, h.taken⟩
  obtain ⟨before, hbefore, hnumber⟩ := hentries entry hentry
  exact hnumber ▸ h.registered before hbefore

/-- Returning a reference to a chip leaves a machine in order, and concerns no device or opener. -/
lemma Orderly.put {number : Nat} (h : s.Orderly) (hput : s.put number = .ok s') :
    s'.Orderly ∧ s'.openers = s.openers ∧ s'.devices = s.devices ∧ s'.chips = s.chips := by
  obtain ⟨⟨last, registry⟩, hback, hput⟩ := bind_eq_ok.mp hput
  obtain ⟨hcount, hentries⟩ := Registry.giveBack_cases hback
  have hregistry : Orderly { s with registry } := h.set_registry hcount hentries
  dsimp only at hput
  split at hput
  · split at hput
    · obtain rfl := pure_eq_ok.mp hput
      exact ⟨hregistry.setFile _ _, rfl, rfl, rfl⟩
    · obtain rfl := pure_eq_ok.mp hput
      exact ⟨hregistry, rfl, rfl, rfl⟩
  · obtain rfl := pure_eq_ok.mp hput
    exact ⟨hregistry, rfl, rfl, rfl⟩

/-- A chip that is brought up is noted as free, and nobody has the right to capture with it.

**Proof sketch.** All numbers are below that of the new chip, so that no device refers to it and
nobody has a right to it. -/
lemma Orderly.append_chip {chip : Chip} {registry : Registry} (h : s.Orderly)
    (hnumber : chip.number = s.chips.length) (hfree : chip.claimed = false)
    (hcount : registry.count = s.chips.length + 1)
    (hentries : ∀ entry ∈ registry.entries, entry.number < s.chips.length + 1) :
    Orderly { s with registry, chips := s.chips ++ [chip] } := by
  have hlength : (s.chips ++ [chip]).length = s.chips.length + 1 := List.length_append
  have hget : ∀ (k : Nat) (other : Chip), (s.chips ++ [chip])[k]? = some other →
      s.chips[k]? = some other ∨ k = s.chips.length ∧ other = chip := by
    intro k other hother
    obtain hlt | hge := Nat.lt_or_ge k s.chips.length
    · rw [List.getElem?_append_left hlt] at hother
      exact .inl hother
    · have hk := (List.getElem?_eq_some_iff.mp hother).1
      obtain rfl : k = s.chips.length := by omega
      rw [List.getElem?_concat_length] at hother
      exact .inr ⟨rfl, (Option.some.inj hother).symm⟩
  refine ⟨fun k other hother => ?_, hcount.trans hlength.symm, ?_, fun n device hdevice => ?_,
    h.openers, h.unique, fun k other hother => ?_⟩
  · obtain hother | ⟨rfl, rfl⟩ := hget k other hother
    · exact h.numbered k other hother
    · exact hnumber
  · rw [hlength]
    exact hentries
  · rw [hlength]
    exact Nat.lt_succ_of_lt (h.devices n device hdevice)
  · obtain hother | ⟨rfl, rfl⟩ := hget k other hother
    · exact h.taken k other hother
    · -- no device has the chip yet
      refine iff_of_false (by simp [hfree]) ?_
      rintro ⟨i, hi⟩
      obtain ⟨entry, hentry, hheld⟩ := Option.bind_eq_some_iff.mp hi
      split at hheld
      · obtain ⟨device, hdevice, hchip⟩ := Option.map_eq_some_iff.mp hheld
        exact absurd (h.devices _ device hdevice) (by omega)
      · cases hheld

/-- Taking a reference to a chip leaves a machine in order, and concerns no device or opener. The
chip that the reference is to is one that there is.

**Proof sketch.** A reference to a chip in use changes the registry only. The first to a chip brings
it up, and its number is the next one. -/
lemma Orderly.get {location : Location} {file : Nat} {config : Config} {result : Except Error Nat}
    (h : s.Orderly) (hget : s.get location file config = (result, s')) :
    s'.Orderly ∧ s'.openers = s.openers ∧ s'.devices = s.devices ∧
      ∀ number, result = .ok number → number < s'.chips.length := by
  unfold Machine.get at hget
  split at hget
  · obtain ⟨rfl, rfl⟩ := Prod.mk.inj hget
    exact ⟨h, rfl, rfl, fun _ hnumber => by cases hnumber⟩
  · next number registry htake =>
    obtain ⟨entry, hentry, hgrant, hcount, hentries⟩ | ⟨hgrant, -⟩ := Registry.take_cases htake
    · obtain rfl := Registry.Grant.shared.inj hgrant
      obtain ⟨rfl, rfl⟩ := Prod.mk.inj hget
      exact ⟨h.set_registry hcount hentries, rfl, rfl, fun _ hnumber =>
        Except.ok.inj hnumber ▸ h.registered entry hentry⟩
    · cases hgrant
  · next number registry htake =>
    obtain ⟨_, -, hgrant, -⟩ | ⟨hgrant, hcount, hentries⟩ := Registry.take_cases htake
    · cases hgrant
    · obtain rfl := Registry.Grant.first.inj hgrant
      obtain ⟨rfl, rfl⟩ := Prod.mk.inj hget
      obtain ⟨hnumber, -, hfree⟩ :=
        Chip.role_bringUp s.registry.count location file (s.file file) config
      refine ⟨(h.setFile file _).append_chip (hnumber.trans h.counted) hfree
        (hcount.trans (congrArg (· + 1) h.counted)) fun after hafter => ?_, rfl, rfl,
        fun _ hok => ?_⟩
      · obtain hbefore | hnew := hentries after hafter
        · exact Nat.lt_succ_of_lt (h.registered after hbefore)
        · rw [hnew, h.counted]
          exact Nat.lt_succ_self _
      · rw [← Except.ok.inj hok, h.counted]
        exact List.length_append ▸ Nat.lt_succ_self _

/-! ## Openers -/

/-- Who has the right to capture once an opener has come or gone. -/
lemma held?_openers {openers : List (Option OpenDevice)} {place : Option OpenDevice} {number : Nat}
    (hopeners : ∀ n, openers[n]?.join = if n = number then place else s.opener? n) (i : Nat) :
    held? { s with openers } i = if i = number then
      place.bind fun entry =>
        if entry.opener.holds then (s.device? entry.device).map Device.chip else none
      else s.held? i := by
  refine (congrArg (Option.bind · _) (hopeners i)).trans ?_
  split <;> rfl

/-- An opener without the right to capture comes or goes.

**Proof sketch.** An opener without the right holds nothing, whether it is there or not, so that
everybody holds what they held. -/
lemma Orderly.set_opener {openers : List (Option OpenDevice)} {place : Option OpenDevice}
    {number : Nat} (h : s.Orderly)
    (hopeners : ∀ n, openers[n]?.join = if n = number then place else s.opener? n)
    (hdevice : ∀ entry, place = some entry → ∃ device, s.device? entry.device = some device)
    (hheld : ∀ entry, place = some entry → entry.opener.holds = false)
    (hbefore : s.held? number = none) : Orderly { s with openers } := by
  have hsame : ∀ i, held? { s with openers } i = s.held? i := by
    intro i
    rw [held?_openers hopeners]
    split
    · next hi =>
      rw [hi, hbefore]
      cases hplace : place with
      | none => rfl
      | some entry => simp [hheld entry hplace]
    · rfl
  refine ⟨h.numbered, h.counted, h.registered, h.devices, fun n entry hentry => ?_,
    fun hi hj => ?_, fun k chip hchip => ?_⟩
  · have hplace := (hopeners n).symm.trans hentry
    split at hplace
    · exact hdevice entry hplace
    · exact h.openers n entry hplace
  · rw [hsame] at hi hj
    exact h.unique hi hj
  · simp only [hsame]
    exact h.taken k chip hchip

/-- An opener that comes has not got the right to capture. -/
lemma Orderly.letIn {number : Nat} (h : s.Orderly) (hletIn : s.letIn number = .ok s') :
    s'.Orderly := by
  obtain rfl | ⟨device, opener, hdevice, hholds, rfl⟩ := letIn_cases hletIn
  · exact h
  · refine h.set_opener (join_getElem?_concat s.openers _) (fun entry hentry => ?_)
      (fun entry hentry => ?_) ?_
    · obtain rfl := Option.some.inj hentry
      exact ⟨device, hdevice⟩
    · obtain rfl := Option.some.inj hentry
      exact hholds
    · rw [held?, opener?, List.getElem?_eq_none (Nat.le_refl _)]
      rfl

/-- An opener may go once it has not got the right to capture. -/
lemma Orderly.leave {number : Nat} (h : s.Orderly) (hplace : number < s.openers.length)
    (hheld : s.held? number = none) :
    Orderly { s with openers := s.openers.set number none } :=
  h.set_opener (join_getElem?_set hplace none) nofun nofun hheld

section Passing

variable {number : Nat} {entry : OpenDevice} {device : Device} {chip : Chip} {opener : Opener}
  {claimed : Bool}

/-- An opener has the right to capture with the chip of its device, or with none. -/
lemma held?_of_opener? (hentry : s.opener? number = some entry)
    (hdevice : s.device? entry.device = some device) :
    s.held? number = if entry.opener.holds then some device.chip else none := by
  rw [held?, hentry, Option.bind_eq_bind, Option.bind_some, hdevice, Option.map_some]

/-- An opener has the right to capture with a chip if it has the right and its device has the
chip. -/
lemma held?_eq_some {k : Nat} : s.held? number = some k ↔ ∃ entry device,
    s.opener? number = some entry ∧ s.device? entry.device = some device ∧
      entry.opener.holds = true ∧ device.chip = k := by
  simp only [held?, Option.bind_eq_bind, Option.bind_eq_some_iff, Option.ite_none_right_eq_some,
    Option.map_eq_some_iff]
  constructor
  · rintro ⟨entry, hentry, hholds, device, hdevice, hchip⟩
    exact ⟨entry, device, hentry, hdevice, hholds, hchip⟩
  · rintro ⟨entry, device, hentry, hdevice, hholds, hchip⟩
    exact ⟨entry, hentry, hholds, device, hdevice, hchip⟩

/-- An opener without the right has it with none. -/
lemma held?_of_without (hentry : s.opener? number = some entry)
    (hwithout : entry.opener.holds = false) : s.held? number = none := by
  rw [held?, hentry, Option.bind_eq_bind, Option.bind_some, hwithout]
  rfl

/-- Who has the right to capture once an opener has changed. -/
lemma held?_set (hentry : s.opener? number = some entry)
    (hdevice : s.device? entry.device = some device) (opener : Opener) (chips : List Chip)
    (i : Nat) :
    held? { s with openers := s.openers.set number (some { entry with opener }), chips } i =
      if i = number then if opener.holds then some device.chip else none else s.held? i := by
  refine (held?_openers (join_getElem?_set (lt_length_of_join hentry) _) i).trans ?_
  rw [Option.bind_some, hdevice, Option.map_some]

/-- An opener that has the right afterwards is the only one for its chip. -/
lemma Orderly.alone (h : s.Orderly) (hentry : s.opener? number = some entry)
    (hdevice : s.device? entry.device = some device) (hchip : s.chips[device.chip]? = some chip)
    (hpasses : Passes entry.opener.holds chip.claimed opener.holds claimed)
    (hholds : opener.holds = true) {i : Nat} (hi : s.held? i = some device.chip) : i = number := by
  cases hpasses with
  | keep hsame _ =>
    refine h.unique hi ?_
    rw [held?_of_opener? hentry hdevice, if_pos (hsame.symm.trans hholds)]
  | take hfree _ _ => exact absurd (hfree.symm.trans ((h.taken _ chip hchip).mpr ⟨i, hi⟩)) nofun
  | giveBack _ hno _ => exact absurd (hno.symm.trans hholds) nofun

/-- The chip has it noted afterwards if and only if there is one.

**Proof sketch.** If the right does not pass, nothing changes. If it is taken, the opener has it. If
it is given back, nobody else has it, as the opener was the only one. -/
lemma Orderly.noted (h : s.Orderly) (hentry : s.opener? number = some entry)
    (hdevice : s.device? entry.device = some device) (hchip : s.chips[device.chip]? = some chip)
    (hpasses : Passes entry.opener.holds chip.claimed opener.holds claimed) :
    claimed = true ↔ ∃ i, (if i = number then if opener.holds then some device.chip else none
      else s.held? i) = some device.chip := by
  have hbefore := held?_of_opener? hentry hdevice
  cases hpasses with
  | keep hholds hclaimed =>
    rw [hclaimed, h.taken _ chip hchip]
    refine exists_congr fun i => ?_
    split
    · next hi => rw [hi, hbefore, hholds]
    · exact Iff.rfl
  | take _ hyes hclaimed =>
    refine iff_of_true hclaimed ⟨number, ?_⟩
    rw [if_pos rfl, if_pos hyes]
  | giveBack hyes hno hclaimed =>
    refine iff_of_false (by simp [hclaimed]) ?_
    rintro ⟨i, hi⟩
    split at hi
    · rw [hno] at hi
      cases hi
    · next hne => exact hne (h.unique hi (by rw [hbefore, if_pos hyes]))

/-- What another chip has noted does not change. -/
lemma held?_other_iff (hentry : s.opener? number = some entry)
    (hdevice : s.device? entry.device = some device) {k : Nat} (hk : k ≠ device.chip) (i : Nat) :
    s.held? i = some k ↔
      (if i = number then if opener.holds then some device.chip else none else s.held? i) =
        some k := by
  split
  · next hi =>
    rw [hi, held?_of_opener? hentry hdevice]
    split <;> split <;> simp [Ne.symm hk]
  · exact Iff.rfl

/-- The right to capture passes between an opener and its chip.

**Proof sketch.** Other openers and other chips are as they were. Of two that hold a right to one
chip the opener cannot be one, unless they are the same, as it takes a right only when nobody has
it. -/
lemma Orderly.set_right {after : Chip} (h : s.Orderly) (hentry : s.opener? number = some entry)
    (hdevice : s.device? entry.device = some device) (hchip : s.chips[device.chip]? = some chip)
    (hnumber : after.number = device.chip)
    (hpasses : Passes entry.opener.holds chip.claimed opener.holds after.claimed) :
    Orderly { s with
      openers := s.openers.set number (some { entry with opener })
      chips := s.chips.set after.number after } := by
  have hget := getElem?_set_chip hchip hnumber
  have hlength : (s.chips.set after.number after).length = s.chips.length := List.length_set
  have hopeners := join_getElem?_set (lt_length_of_join hentry) (some { entry with opener })
  have hheld := held?_set hentry hdevice opener (s.chips.set after.number after)
  refine ⟨fun k other hother => ?_, h.counted.trans hlength.symm, hlength ▸ h.registered,
    hlength ▸ h.devices, fun n e he => ?_, fun {i j k} hi hj => ?_, fun k other hother => ?_⟩
  · rw [hget] at hother
    split at hother
    · next hk => rw [← Option.some.inj hother, hnumber, hk]
    · exact h.numbered k other hother
  · rw [opener?, hopeners] at he
    split at he
    · rw [← Option.some.inj he]
      exact ⟨device, hdevice⟩
    · exact h.openers n e he
  · have halone : opener.holds = true → ∀ j, s.held? j = some device.chip → j = number :=
      fun hholds _ => h.alone hentry hdevice hchip hpasses hholds
    rw [hheld] at hi hj
    split at hi <;> split at hj
    · next hi' hj' => rw [hi', hj']
    · next hi' _ =>
      split at hi
      · next hholds => rw [hi', halone hholds j (hj.trans hi.symm)]
      · cases hi
    · next _ hj' =>
      split at hj
      · next hholds => rw [hj', halone hholds i (hi.trans hj.symm)]
      · cases hj
    · exact h.unique hi hj
  · simp only [hheld]
    rw [hget] at hother
    split at hother
    · next hk =>
      rw [← Option.some.inj hother, hk]
      exact h.noted hentry hdevice hchip hpasses
    · next hk =>
      rw [h.taken k other hother]
      exact exists_congr fun i => held?_other_iff hentry hdevice hk i

end Passing

/-- **An opener takes the right to capture, keeps it or gives it back**, and the machine stays in
order. -/
theorem Orderly.setSeat {number : Nat} {seat after : Seat δ} (h : s.Orderly)
    (hseat : s.seat? number = some seat) (hnumber : after.chip.number = seat.chip.number)
    (hpasses : Passes seat.opener.holds seat.chip.claimed after.opener.holds after.chip.claimed) :
    (s.setSeat number after).Orderly := by
  obtain ⟨entry, device, chip, hentry, hdevice, hchip, rfl⟩ := seat?_eq_some.mp hseat
  have hchannel := h.setChannel hdevice after.channel
  have hfound := (device?_setChannel hdevice after.channel entry.device).trans (if_pos rfl)
  rw [setSeat_eq hentry hdevice]
  exact hchannel.set_right hentry hfound hchip (hnumber.trans (h.numbered _ chip hchip)) hpasses

/-! ## Operations -/

variable [DmaBackend δ]

/-- What an opener asks for leaves a machine in order. -/
lemma Orderly.ask {number : Nat} {operation : Seat.Operation} {answer : Option CaptureQueue.Answer}
    (h : s.Orderly) (hask : s.ask number operation = .ok (answer, s')) : s'.Orderly := by
  obtain ⟨-, -, rfl⟩ | ⟨seat, after, given, hseat, hperform, -, rfl⟩ := ask_cases hask
  · exact h
  · have hadvance := Seat.advance_of_perform hperform
    obtain ⟨hholds, hchip⟩ | ⟨-, hfree, hyes, hchip⟩ := hadvance.right
    · exact h.setSeat hseat (hchip ▸ rfl) (.keep hholds (hchip ▸ rfl))
    · exact h.setSeat hseat (hchip ▸ rfl) (.take hfree hyes (hchip ▸ rfl))

/-- So does working on the queue of a device. -/
lemma Orderly.serve {wanted : Geometry → Norm → Prop} {number : Nat} (h : s.Orderly)
    (hserved : s.Served wanted number s') : s'.Orderly := by
  obtain rfl | ⟨device, c, hdevice, -, rfl⟩ := hserved
  · exact h
  · exact h.setChannel hdevice c

/-- A device that nobody has any more ends in order. -/
lemma Orderly.retire {number : Nat} {device : Device} (h : s.Orderly)
    (hplace : number < s.devices.length) (hopen : s.isOpen number = false)
    (hretire : s.retire number device = .ok s') : s'.Orderly := by
  obtain ⟨s₁, hput, hretire⟩ := bind_eq_ok.mp hretire
  obtain ⟨h₁, hopeners, hdevices, -⟩ := (h.setFile _ _).put hput
  obtain rfl := pure_eq_ok.mp hretire
  refine ((h₁.vacate ?_ ?_).setFile device.file _).set_dma _
  · rw [hdevices]
    exact hplace
  · rw [isOpen, hopeners]
    exact hopen

/-- Removing a device that nobody keeps leaves things in order: it has no openers. -/
lemma Orderly.reap {number : Nat} (h : s.Orderly) (hreap : s.reap number = .ok s') :
    s'.Orderly := by
  unfold Machine.reap at hreap
  split at hreap
  · next device hdevice =>
    split at hreap
    · exact pure_eq_ok.mp hreap ▸ h
    · next hleft =>
      refine h.retire (lt_length_of_join hdevice) ?_ hreap
      exact (Bool.or_eq_false_iff.mp (by simpa using hleft)).2
  · exact pure_eq_ok.mp hreap ▸ h

/-- A device is brought up in order, or not at all. -/
lemma Orderly.probe {location : Location} {file : Nat} {config : Config}
    {result : Except Error Nat} (h : s.Orderly)
    (hprobe : s.probe location file config = .ok (result, s')) : s'.Orderly := by
  unfold Machine.probe at hprobe
  split at hprobe
  · next hget =>
    obtain ⟨-, rfl⟩ := Prod.mk.inj (pure_eq_ok.mp hprobe)
    exact (h.get hget).1
  · next chip s₁ hget =>
    obtain ⟨h₁, -, -, hchip⟩ := h.get hget
    split at hprobe
    · obtain ⟨s₂, hput, hprobe⟩ := bind_eq_ok.mp hprobe
      obtain ⟨-, rfl⟩ := Prod.mk.inj (pure_eq_ok.mp hprobe)
      exact ((h₁.set_dma _).put hput).1
    · obtain ⟨-, rfl⟩ := Prod.mk.inj (pure_eq_ok.mp hprobe)
      exact (h₁.set_dma _).append_device (hchip chip rfl)

/-- Dropping a device leaves things in order: it stays as long as it has openers. -/
lemma Orderly.drop {number : Nat} {dropped : Bool} (h : s.Orderly)
    (hdrop : s.drop number = .ok (dropped, s')) : s'.Orderly := by
  unfold Machine.drop at hdrop
  split at hdrop
  · obtain ⟨-, rfl⟩ := Prod.mk.inj (pure_eq_ok.mp hdrop)
    exact h
  · next device hdevice =>
    obtain ⟨s₁, hreap, hdrop⟩ := bind_eq_ok.mp hdrop
    obtain ⟨-, rfl⟩ := Prod.mk.inj (pure_eq_ok.mp hdrop)
    exact (h.set_device { device with owned := false } hdevice rfl).reap hreap

/-- An opener that is closed has given the right back, if it had it, before it goes. -/
lemma Orderly.unseat {number : Nat} {entry : OpenDevice} {seat after : Seat δ} (h : s.Orderly)
    (hentry : s.opener? number = some entry) (hseat : s.seat? number = some seat)
    (hafter : seat.close = .ok after) :
    Orderly { s.setSeat number after with
      openers := (s.setSeat number after).openers.set number none } := by
  obtain ⟨hpasses, hnumber, hno⟩ :
      Passes seat.opener.holds seat.chip.claimed after.opener.holds after.chip.claimed ∧
        after.chip.number = seat.chip.number ∧ after.opener.holds = false := by
    obtain ⟨hholds, channel, -, rfl⟩ | ⟨hholds, rfl⟩ := Seat.close_cases hafter
    · exact ⟨.giveBack hholds rfl rfl, rfl, rfl⟩
    · exact ⟨.keep rfl rfl, rfl, hholds⟩
  obtain ⟨device, hdevice⟩ := h.openers number entry hentry
  refine (h.setSeat hseat hnumber hpasses).leave ?_ ?_
  · have hplace := opener?_setSeat hentry hdevice after number
    rw [if_pos rfl] at hplace
    exact lt_length_of_join hplace
  · exact held?_of_without ((opener?_setSeat hentry hdevice after number).trans (if_pos rfl)) hno

/-- Closing an opener leaves things in order: it gives its right back before it goes. -/
lemma Orderly.close {number : Nat} {closed : Bool} (h : s.Orderly)
    (hclose : s.close number = .ok (closed, s')) : s'.Orderly := by
  unfold Machine.close at hclose
  split at hclose
  · next entry seat hentry hseat =>
    obtain ⟨after, hafter, hclose⟩ := bind_eq_ok.mp hclose
    obtain ⟨s₁, hreap, hclose⟩ := bind_eq_ok.mp hclose
    obtain ⟨-, rfl⟩ := Prod.mk.inj (pure_eq_ok.mp hclose)
    exact (h.unseat hentry hseat hafter).reap hreap
  · obtain ⟨-, rfl⟩ := Prod.mk.inj (pure_eq_ok.mp hclose)
    exact h

/-- **Nothing that happens brings a machine out of order.**

**Proof sketch.** One case for each operation, by the lemma about that operation above. -/
theorem orderly_of_perform {operation : Operation} (h : s.Orderly)
    (hperform : s.perform operation = .ok s') : s'.Orderly := by
  cases operation with
  | get location file config =>
    obtain rfl := pure_eq_ok.mp hperform
    exact (h.get rfl).1
  | put chip => exact (h.put hperform).1
  | probe location file config =>
    obtain ⟨⟨result, _⟩, hprobe, hsame⟩ := bind_eq_ok.mp hperform
    exact pure_eq_ok.mp hsame ▸ h.probe hprobe
  | drop device =>
    obtain ⟨⟨dropped, _⟩, hdrop, hsame⟩ := bind_eq_ok.mp hperform
    exact pure_eq_ok.mp hsame ▸ h.drop hdrop
  | openDevice device => exact h.letIn hperform
  | close opener =>
    obtain ⟨⟨closed, _⟩, hclose, hsame⟩ := bind_eq_ok.mp hperform
    exact pure_eq_ok.mp hsame ▸ h.close hclose
  | ask opener operation =>
    obtain ⟨⟨answer, _⟩, hask, hsame⟩ := bind_eq_ok.mp hperform
    exact pure_eq_ok.mp hsame ▸ h.ask hask
  | adjust chip setting =>
    obtain rfl := pure_eq_ok.mp hperform
    exact h.adjust chip setting
  | interrupt now device => exact h.serve (served_of_interrupt (fun _ _ => True) hperform)
  | service device => exact h.serve (served_of_service (fun _ _ => True) hperform)
  | work device operation => exact h.serve (served_of_work _ operation.preparesFor_true hperform)
  | change file regs =>
    obtain rfl := pure_eq_ok.mp hperform
    exact h.setFile file regs

omit [DmaBackend δ] in
/-- A machine in which nothing has happened yet is in order. -/
lemma orderly_vacant (dma : δ) : (vacant dma).Orderly where
  numbered _ _ := nofun
  counted := rfl
  registered := nofun
  devices _ _ := nofun
  openers _ _ := nofun
  unique := nofun
  taken _ _ := nofun

/-- **A machine stays in order**, whatever happens to it. -/
theorem orderly_of_run {admits : Machine δ → Operation → Prop} (h : Run admits s s')
    (hs : s.Orderly) : s'.Orderly :=
  h.keeps hs fun _ _ _ hs₁ _ hperform => orderly_of_perform hs₁ hperform

end Machine

end VideoCapture
