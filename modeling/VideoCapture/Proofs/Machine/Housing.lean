import VideoCapture.Proofs.Machine.Turns

/-!
# Devices that share a backend

All devices of a machine get their memory from one backend, and its table has one entry for each
index, whichever device has the buffer. So a device that maps a buffer may take the entry of another
that holds one of the same index: that is a clash. As long as nothing clashes no two devices hold
buffers of the same index, the backend accounts for the programs of all, and each device has what
its buffers hold in the table.

## Main definitions

* `VideoCapture.Machine.Clashes` — an operation maps a buffer of an index that another device has.
* `VideoCapture.Machine.Housed` — the devices have what they hold, and share no index.

## Main results

* `VideoCapture.Machine.Housed.change` — a place changes, and other devices keep what they hold.
* `VideoCapture.Machine.Turns.housed` — devices keep what they hold, whatever comes, goes or is
  worked on.
* `VideoCapture.Machine.housed_of_perform` — devices keep what they hold until something clashes.
-/

set_option autoImplicit false

namespace VideoCapture

namespace Machine

variable {s s' : Machine HostDma} {n i : Nat} {device : Device} {place? : Option (Nat × Nat)}
  {operation : Operation}

/-! ## What is held -/

/-- The backend accounts for the programs of all devices, each has what its buffers hold in the
table, and no two have buffers of the same index there. -/
structure Housed (s : Machine HostDma) : Prop extends s.Accounted where
  /-- What the buffers of a device hold stands in the table. -/
  lodged : ∀ n device, s.device? n = some device → (s.channel device).Lodged
  /-- No two devices hold buffers of the same index. -/
  sole : ∀ n n' device device', n ≠ n' → s.device? n = some device → s.device? n' = some device' →
    ∀ i, device.queue.mappingOf i = none ∨ device'.queue.mappingOf i = none

/-- A device that stays as it is has what it had, as long as its entries stay. -/
lemma Housed.lodged_of_lookup (hs : s.Housed) (hdevice : s.device? n = some device)
    (hlookup : ∀ i, device.queue.mappingOf i ≠ none →
      s'.dma.mapped.lookup i = s.dma.mapped.lookup i) : (s'.channel device).Lodged :=
  (hs.lodged n device hdevice).of_lookup rfl hlookup

/-- **Changing one place takes nothing from the others** if what is there afterwards has what it
holds, and holds nothing at an index that another has, where the table stays as it is.

**Proof sketch.** Two places other than the changed one are as they were. The changed one holds
nothing at an index that another has, and keeps the table there. -/
theorem Housed.change {place : Option Device} (hs : s.Housed) (haccounted : s'.Accounted)
    (hget : ∀ m, s'.device? m = if m = n then place else s.device? m)
    (hplace : ∀ after ∈ place, ∃ c : Channel HostDma,
      after.queue = c.toCaptureQueue ∧ c.dma = s'.dma ∧ c.Lodged)
    (hspared : ∀ m other, m ≠ n → s.device? m = some other → ∀ i,
      other.queue.mappingOf i ≠ none → (∀ after ∈ place, after.queue.mappingOf i = none) ∧
        s'.dma.mapped.lookup i = s.dma.mapped.lookup i) : s'.Housed := by
  refine ⟨haccounted, fun m other hother => ?_, fun m m' other other' hne hother hother' i => ?_⟩
  · rw [hget] at hother
    split at hother
    · obtain ⟨c, hqueue, hdma, hlodged⟩ := hplace other hother
      exact hlodged.of_lookup hqueue fun _ _ => by rw [hdma]; rfl
    · next hm => exact hs.lodged_of_lookup hother fun i hi => (hspared m other hm hother i hi).2
  · rw [hget] at hother hother'
    split at hother <;> split at hother'
    · next hm hm' => exact absurd (hm.trans hm'.symm) hne
    · next hm' =>
      refine or_iff_not_imp_right.mpr fun hheld => ?_
      exact (hspared m' other' hm' hother' i hheld).1 other hother
    · next hm _ =>
      refine or_iff_not_imp_left.mpr fun hheld => ?_
      exact (hspared m other hm hother i hheld).1 other' hother'
    · exact hs.sole m m' other other' hne hother hother' i

/-! ## Turns -/

/-- No device but one holds the buffer that is mapped there, if one is. -/
def Unheld (s : Machine HostDma) (place? : Option (Nat × Nat)) : Prop :=
  ∀ place ∈ place?, ∀ other device, other ≠ place.1 → s.device? other = some device →
    device.queue.mappingOf place.2 = none

/-- Working on a queue takes nothing from other devices. At an index that another has nothing was
held there before, and since nothing is mapped at it nothing is held afterwards. -/
lemma Housed.worked {index? : Option Nat} (hs : s.Housed) (h : s.Worked n index? s')
    (hfree : s.Unheld (index?.map (n, ·))) : s'.Housed := by
  have haccounted := hs.toAccounted.worked h
  obtain ⟨device, after, c, hdevice, htends, hqueue, hdevices, hdma⟩ := h
  have hlodged := hs.lodged n device hdevice
  refine hs.change haccounted (device?_of_set hdevice hdevices) (fun _ hafter => ?_)
    fun m other hm hother i hheld => ?_
  · obtain rfl := Option.some.inj hafter
    exact ⟨c, hqueue, hdma.symm, htends.lodged hlodged⟩
  · have hnone := (hs.sole n m device other hm.symm hdevice hother i).resolve_right hheld
    have hspare : i ∉ index? := fun hi =>
      hheld (hfree (n, i) (Option.mem_map_of_mem (n, ·) hi) m other hm hother)
    obtain ⟨hleft, hlookup⟩ := htends.spared hlodged i hspare hnone
    refine ⟨fun _ hafter => ?_, hdma ▸ hlookup⟩
    obtain rfl := Option.some.inj hafter
    exact hqueue ▸ hleft

/-- Neither does a device that comes, which has no buffers. -/
lemma Housed.entered {regs : RegisterFile} {config : Config} {c : Channel HostDma} {after : Device}
    (hs : s.Housed) (hcreate : Channel.create regs s.dma config = (.ok c, s'.dma))
    (hqueue : after.queue = c.toCaptureQueue) (hdevices : s'.devices = s.devices ++ [some after]) :
    s'.Housed := by
  have haccounted := hs.toAccounted.entered hcreate hqueue hdevices
  have hmapped := Channel.mapped_of_create hcreate
  obtain ⟨stopper, -, rfl⟩ := Channel.create_eq_ok hcreate
  refine hs.change haccounted (device?_of_concat hdevices) (fun _ hafter => ?_)
    fun _ _ _ _ i _ => ?_
  · obtain rfl := Option.some.inj hafter
    refine ⟨_, hqueue, rfl, Channel.lodged_of_empty fun _ hbuffer => ?_⟩
    cases hbuffer
  · refine ⟨fun _ hafter => ?_, by rw [hmapped]⟩
    obtain rfl := Option.some.inj hafter
    rw [hqueue]
    exact CaptureQueue.mappingOf_of_empty (by simp) i

/-- Neither does one that goes, whose entries stay in the table. -/
lemma Housed.vacated {c : Channel HostDma} (hs : s.Housed) (hdevice : s.device? n = some device)
    (hsame : (s.channel device).SameHoldings c) (hdevices : s'.devices = s.devices.set n none)
    (hdma : s'.dma = c.dispose.2) : s'.Housed := by
  have haccounted := hs.toAccounted.vacated hdevice hsame hdevices hdma
  have hmapped : s'.dma.mapped = s.dma.mapped := by
    rw [hdma, (Channel.dma_dispose c).2, hsame.dma]
    rfl
  refine hs.change haccounted (device?_of_set hdevice hdevices) (fun _ hafter => by cases hafter)
    fun _ _ _ _ _ _ => ⟨fun _ hafter => ?_, by rw [hmapped]⟩
  cases hafter

/-- **Devices take nothing from one another**, unless a buffer is mapped of an index that another
has.

**Proof sketch.** Induction on the turns, with a lemma for each kind. Turns that follow map no
buffer, so there is nothing that another device could have. -/
theorem Turns.housed (h : s.Turns place? s') (hs : s.Housed) (hfree : s.Unheld place?) :
    s'.Housed := by
  induction h with
  | @same s s' hdevices hdma =>
    have hdevice : ∀ n, s'.device? n = s.device? n := fun n => by rw [device?, hdevices, device?]
    refine ⟨(Turns.same hdevices hdma).accounted hs.toAccounted, fun n device h => ?_,
      fun n n' device device' hne h h' => ?_⟩
    · exact hs.lodged_of_lookup (hdevice n ▸ h) fun _ _ => by rw [hdma]
    · exact hs.sole n n' device device' hne (hdevice n ▸ h) (hdevice n' ▸ h')
  | worked hworked => exact hs.worked hworked hfree
  | entered hcreate hqueue hdevices => exact hs.entered hcreate hqueue hdevices
  | vacated hdevice hsame hdevices hdma => exact hs.vacated hdevice hsame hdevices hdma
  | followed _ _ ih₁ ih₂ => exact ih₂ (ih₁ hs hfree) fun _ hplace => by cases hplace

/-! ## Operations and runs -/

/-- An operation maps a buffer, and another device holds one of the same index. -/
def Clashes (s : Machine HostDma) (operation : Operation) : Prop :=
  ∃ n i other device, s.mapping? operation = some (n, i) ∧ other ≠ n ∧
    s.device? other = some device ∧ device.queue.setupOf i ≠ none

/-- What does not clash maps only what no other device holds. -/
lemma unheld_of_not_clashes (h : ¬s.Clashes operation) : s.Unheld (s.mapping? operation) := by
  rintro ⟨n, i⟩ hmapping other device hother hdevice
  refine CaptureQueue.mappingOf_eq_none.mpr (Decidable.byContradiction fun hheld => ?_)
  exact h ⟨n, i, other, device, hmapping, hother, hdevice, hheld⟩

/-- **Devices keep what they hold, whatever happens, until something clashes.** -/
theorem housed_of_perform (hs : s.Housed) (hclash : ¬s.Clashes operation)
    (h : s.perform operation = .ok s') : s'.Housed :=
  (turns_of_perform h).housed hs (unheld_of_not_clashes hclash)

/-- A machine in which nothing has happened yet holds nothing. -/
lemma housed_vacant {dma : HostDma} (h : dma.Accounts []) : (vacant dma).Housed where
  toAccounted := accounted_vacant h
  lodged _ _ := nofun
  sole _ _ _ _ _ := nofun

/-- **In every run without a clash devices have what they hold.** -/
theorem housed_of_run {size : Nat} {limit : Option Nat}
    (hsize : HostDma.windowBase + size ≤ 0x100000000)
    (h : Run (fun s operation => ¬s.Clashes operation) (vacant (HostDma.create size limit)) s) :
    s.Housed :=
  h.keeps (housed_vacant (HostDma.accounts_create hsize)) fun _ _ _ hs hclash hperform =>
    housed_of_perform hs hclash hperform

end Machine

end VideoCapture
