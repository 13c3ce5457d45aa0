import VideoCapture.Proofs.Machine.Sole
import VideoCapture.Proofs.Queue.Disposal
import VideoCapture.Proofs.Queue.Lodging

/-!
# Devices turned over

Of all that operations do to a machine, little concerns the memory that its devices have from their
backend: the queue of a device is worked on, and at most one buffer is mapped meanwhile, or a device
comes, or one goes. Each operation is made of such turns. Whatever is to hold of the devices and
their backend together has to be shown for each kind of turn only, and the first such thing is that
the backend accounts for the programs of all devices, whatever they map.

## Main definitions

* `VideoCapture.Seat.mapping?`, `VideoCapture.Machine.mapping?` — where an operation maps a buffer.
* `VideoCapture.Machine.Worked` — the queue of a device has been worked on.
* `VideoCapture.Machine.Turns` — what becomes of devices and backend in an operation.
* `VideoCapture.Machine.Accounted` — the backend accounts for the programs of all devices.

## Main results

* `VideoCapture.Seat.tends_of_perform` — what an opener asks for maps one buffer at most.
* `VideoCapture.Machine.worked_of_ask`, `VideoCapture.Machine.worked_of_work` — the operations that
  can map a buffer.
* `VideoCapture.Machine.turns_of_perform` — every operation is made of turns.
* `VideoCapture.Machine.accounted_of_run` — programs are accounted for in every run.
-/

set_option autoImplicit false

namespace VideoCapture

open Channel (Tends tends_of_sameHoldings)

/-! ## Openers -/

namespace Seat

open CaptureQueue (Answer)

variable {seat seat' : Seat HostDma}

/-- The index at which preparing a buffer maps it, if the opener may prepare it and it is mapped. -/
def mapped? (seat : Seat HostDma) (i : Nat) : Option Nat :=
  if seat.opener.holds then seat.channel.mapped? i seat.opener.geometry seat.chip.norm else none

/-- The index at which what an opener asks for maps a buffer, if it does. -/
def mapping? (seat : Seat HostDma) : Operation → Option Nat
  | .prepare i => seat.mapped? i
  | .enqueue _ i => if seat.channel.stateOf i = some .prepared then none else seat.mapped? i
  | _ => none

/-- What an opener with the right does to the queue, and nothing without it. -/
lemma tends_of_ifHolding {α : Type} {result : Except Error α}
    {act : Channel HostDma → Except Fault (Except Error α × Channel HostDma)}
    (hact : ∀ {outcome channel}, act seat.channel = .ok (outcome, channel) →
      Tends none seat.channel channel)
    (h : seat.ifHolding act = .ok (result, seat')) : Tends none seat.channel seat'.channel := by
  obtain ⟨-, -, rfl⟩ | ⟨-, channel, hchannel, rfl⟩ := ifHolding_cases h
  · exact tends_of_sameHoldings (.refl _)
  · exact hact hchannel

/-- An opener that prepares a buffer has it mapped at most. -/
lemma tends_of_prepare {i : Nat} {result : Except Error Unit}
    (h : seat.prepare i = .ok (result, seat')) :
    Tends (seat.mapped? i) seat.channel seat'.channel := by
  obtain ⟨hholds, -, rfl⟩ | ⟨hholds, channel, hact, rfl⟩ := ifHolding_cases h
  · rw [mapped?, hholds, if_neg nofun]
    exact tends_of_sameHoldings (.refl _)
  · rw [mapped?, hholds, if_pos rfl]
    unfold CaptureQueue.handle at hact
    by_cases hi : i < seat.channel.buffers.length
    · rw [if_pos hi] at hact
      exact Channel.tends_of_prepare hact
    · rw [if_neg hi] at hact
      obtain ⟨-, rfl⟩ := Prod.mk.inj (pure_eq_ok.mp hact)
      rw [Channel.mapped?_of_length_le (Nat.le_of_not_lt hi)]
      exact tends_of_sameHoldings (.refl _)

/-- An opener that asks for buffers has none mapped. -/
lemma tends_of_request {count : Nat} {result : Except Error Nat}
    (h : seat.request count = .ok (result, seat')) : Tends none seat.channel seat'.channel := by
  obtain ⟨_, -, -, rfl⟩ | ⟨seat₁, hclaim, -, hafter⟩ := request_cases h
  · exact tends_of_sameHoldings (.refl _)
  · rw [← channel_of_claim hclaim]
    obtain ⟨-, -, rfl⟩ | ⟨-, hact⟩ := hafter
    · exact tends_of_sameHoldings (.refl _)
    · exact tends_of_ifHolding Channel.tends_of_requestBuffers hact

/-- An opener that hands a buffer in has it mapped at most, if it has to be prepared first. -/
lemma tends_of_enqueue {now : Int} {i : Nat} {result : Except Error Unit}
    (h : seat.enqueue now i = .ok (result, seat')) :
    Tends (seat.mapping? (.enqueue now i)) seat.channel seat'.channel := by
  have hsame : ∀ {c c' : Channel HostDma} {outcome}, c.enqueue now i = .ok (outcome, c') →
      c.SameHoldings c' := Channel.sameHoldings_of_enqueue
  obtain ⟨hlength, -, rfl⟩ | ⟨-, hready, channel, henqueue, rfl⟩ | ⟨-, hready, error, hprepare, -⟩ |
    ⟨-, hready, seat₁, channel, hprepare, henqueue, rfl⟩ := enqueue_cases h
  · have hnone : seat'.mapping? (.enqueue now i) = none := by
      simp only [mapping?, mapped?, Channel.mapped?_of_length_le hlength, ite_self]
    rw [hnone]
    exact tends_of_sameHoldings (.refl _)
  · rw [mapping?, if_pos hready]
    exact tends_of_sameHoldings (hsame henqueue)
  · rw [mapping?, if_neg hready]
    exact tends_of_prepare hprepare
  · rw [mapping?, if_neg hready]
    exact (tends_of_prepare hprepare).followed (hsame henqueue)

/-- An opener that takes a buffer back has none mapped. -/
lemma tends_of_dequeue {result : Except Error Frame} (h : seat.dequeue = .ok (result, seat')) :
    Tends none seat.channel seat'.channel :=
  tends_of_ifHolding
    (fun hact => tends_of_sameHoldings (Channel.sameHoldings_of_dequeue hact)) h

/-- An opener that waits for a buffer has none mapped. -/
lemma tends_of_await {result : Except Error Frame} (h : seat.await = .ok (result, seat')) :
    Tends none seat.channel seat'.channel := by
  obtain ⟨first, seat₁, hdequeue, ⟨-, rfl⟩ | ⟨deadline, stalled, waited, htimeout, hagain⟩⟩ :=
    await_cases h
  · exact tends_of_dequeue hdequeue
  · have hwaited := tends_of_sameHoldings (Channel.sameHoldings_of_checkTimeout htimeout)
    exact ((tends_of_dequeue hdequeue).trans hwaited).trans (tends_of_dequeue hagain)

/-- An opener that starts capture has no buffer mapped. -/
lemma tends_of_streamOn {now : Int} {result : Except Error Unit}
    (h : seat.streamOn now = .ok (result, seat')) : Tends none seat.channel seat'.channel := by
  obtain ⟨_, -, -, rfl⟩ | ⟨seat₁, hclaim, hact⟩ := streamOn_cases h
  · exact tends_of_sameHoldings (.refl _)
  · rw [← channel_of_claim hclaim]
    exact tends_of_ifHolding
      (fun hact => tends_of_sameHoldings (Channel.sameHoldings_of_streamOn hact)) hact

/-- **What an opener asks for maps one buffer at most**, and touches no other entry at which nothing
is held.

**Proof sketch.** One case for each operation. Preparing a buffer, by itself or when it is handed
in, maps that buffer; a request gives mappings back and makes none. -/
theorem tends_of_perform {operation : Operation} {answer : Answer}
    (h : seat.perform operation = .ok (answer, seat')) :
    Tends (seat.mapping? operation) seat.channel seat'.channel := by
  cases operation with
  | setFormat request =>
    obtain ⟨result, hformat, -⟩ := exists_result h
    obtain ⟨geometry, rfl⟩ := exists_of_setFormat hformat
    exact tends_of_sameHoldings (.refl _)
  | request count =>
    obtain ⟨result, hrequest, -⟩ := exists_result h
    exact tends_of_request hrequest
  | prepare index =>
    obtain ⟨result, hprepare, -⟩ := exists_result h
    exact tends_of_prepare hprepare
  | enqueue now index =>
    obtain ⟨result, henqueue, -⟩ := exists_result h
    exact tends_of_enqueue henqueue
  | dequeue =>
    obtain ⟨result, hdequeue, -⟩ := exists_result h
    exact tends_of_dequeue hdequeue
  | await =>
    obtain ⟨result, hawait, -⟩ := exists_result h
    exact tends_of_await hawait
  | streamOn now =>
    obtain ⟨result, hon, -⟩ := exists_result h
    exact tends_of_streamOn hon
  | streamOff =>
    obtain ⟨result, hoff, -⟩ := exists_result h
    exact tends_of_ifHolding Channel.tends_of_streamOff hoff

/-- An opener that is closed has no buffer mapped. -/
lemma tends_of_close (h : seat.close = .ok seat') : Tends none seat.channel seat'.channel := by
  obtain ⟨-, channel, hshutdown, rfl⟩ | ⟨-, rfl⟩ := close_cases h
  · exact Channel.tends_of_shutdown hshutdown
  · exact tends_of_sameHoldings (.refl _)

end Seat

namespace Machine

variable {s s₁ s' : Machine HostDma} {n : Nat} {device after : Device} {c : Channel HostDma}
  {others : List BusRange} {index? : Option Nat} {place? : Option (Nat × Nat)}
  {operation : Operation}

/-! ## Turns -/

/-- The queue of a device has been worked on, and the buffer of the given index was mapped, or
none. -/
def Worked (s : Machine HostDma) (n : Nat) (index? : Option Nat) (s' : Machine HostDma) : Prop :=
  ∃ device after c, s.device? n = some device ∧ Tends index? (s.channel device) c ∧
    after.queue = c.toCaptureQueue ∧ s'.devices = s.devices.set n (some after) ∧ s'.dma = c.dma

/-- What becomes of the devices of a machine and of their backend: the buffer of the given index of
the given device is mapped, or none. -/
inductive Turns : Machine HostDma → Option (Nat × Nat) → Machine HostDma → Prop
  /-- Registers, chips and openers do not matter. -/
  | same {s s' : Machine HostDma} : s'.devices = s.devices → s'.dma = s.dma → Turns s none s'
  /-- The queue of a device is worked on. -/
  | worked {s s' : Machine HostDma} {n : Nat} {index? : Option Nat} :
    s.Worked n index? s' → Turns s (index?.map (n, ·)) s'
  /-- A device comes. -/
  | entered {s s' : Machine HostDma} {regs : RegisterFile} {config : Config} {c : Channel HostDma}
    {after : Device} : Channel.create regs s.dma config = (.ok c, s'.dma) →
      after.queue = c.toCaptureQueue → s'.devices = s.devices ++ [some after] → Turns s none s'
  /-- A device goes. -/
  | vacated {s s' : Machine HostDma} {n : Nat} {device : Device} {c : Channel HostDma} :
    s.device? n = some device → (s.channel device).SameHoldings c →
      s'.devices = s.devices.set n none → s'.dma = c.dispose.2 → Turns s none s'
  /-- More follows, and maps no buffer. -/
  | followed {s s₁ s' : Machine HostDma} {place? : Option (Nat × Nat)} :
    Turns s place? s₁ → Turns s₁ none s' → Turns s place? s'

/-- Scheduling maps no buffer. -/
lemma turns_of_sameHoldings (hdevice : s.device? n = some device)
    (hsame : (s.channel device).SameHoldings c) : s.Turns none (s.setChannel n device c) :=
  have hworked : s.Worked n none (s.setChannel n device c) :=
    ⟨device, _, c, hdevice, tends_of_sameHoldings hsame, rfl, rfl, rfl⟩
  .worked hworked

/-! ## Operations that can map a buffer -/

/-- The device and the index for which an operation maps a buffer, if it does. -/
def mapping? (s : Machine HostDma) : Operation → Option (Nat × Nat)
  | .ask opener wish => (s.opener? opener).bind fun entry =>
    ((s.seat? opener).bind fun seat => seat.mapping? wish).map (entry.device, ·)
  | .work number work => (s.device? number).bind fun device =>
    ((s.channel device).mapping? work).map (number, ·)
  | _ => none

/-- Putting an opener back puts its queue back. -/
lemma worked_setSeat {number : Nat} {entry : OpenDevice} {seat : Seat HostDma}
    (hentry : s.opener? number = some entry) (hdevice : s.device? entry.device = some device)
    (h : Tends index? (s.channel device) seat.channel) :
    s.Worked entry.device index? (s.setSeat number seat) := by
  refine ⟨device, _, seat.channel, hdevice, h, rfl, devices_setSeat hentry hdevice seat, ?_⟩
  rw [setSeat_eq hentry hdevice]
  rfl

/-- What an opener asks for is worked on, or nothing changes. -/
theorem worked_of_ask {opener : Nat} {wish : Seat.Operation}
    (h : s.perform (.ask opener wish) = .ok s') :
    (s.mapping? (.ask opener wish) = none ∧ s' = s) ∨ ∃ n index?,
      s.mapping? (.ask opener wish) = index?.map (n, ·) ∧ s.Worked n index? s' := by
  obtain ⟨⟨answer, _⟩, hask, hsame⟩ := bind_eq_ok.mp h
  obtain rfl := pure_eq_ok.mp hsame
  obtain ⟨hseat, -, rfl⟩ | ⟨seat, seat', given, hseat, hperform, -, rfl⟩ := ask_cases hask
  · left
    simp [mapping?, hseat]
  · obtain ⟨entry, device, chip, hentry, hdevice, -, hsame⟩ := seat?_eq_some.mp hseat
    have htends := Seat.tends_of_perform hperform
    refine .inr ⟨entry.device, seat.mapping? wish, ?_, worked_setSeat hentry hdevice ?_⟩
    · rw [mapping?, hentry, hseat]
      rfl
    · rwa [hsame] at htends ⊢

/-- What is done with a queue directly is worked on, or nothing changes. -/
theorem worked_of_work {number : Nat} {work : CaptureQueue.Operation}
    (h : s.perform (.work number work) = .ok s') :
    (s.mapping? (.work number work) = none ∧ s' = s) ∨ ∃ n index?,
      s.mapping? (.work number work) = index?.map (n, ·) ∧ s.Worked n index? s' := by
  simp only [perform, workOn] at h
  split at h
  · next hdevice =>
    left
    exact ⟨by simp [mapping?, hdevice], (pure_eq_ok.mp h).symm⟩
  · next device hdevice =>
    obtain ⟨c, hc, h⟩ := bind_eq_ok.mp h
    obtain ⟨⟨answer, _⟩, hperform, hsame⟩ := bind_eq_ok.mp hc
    obtain rfl := pure_eq_ok.mp hsame
    obtain rfl := pure_eq_ok.mp h
    refine .inr ⟨number, (s.channel device).mapping? work, ?_, device, _, _, hdevice,
      Channel.tends_of_perform hperform, rfl, rfl, rfl⟩
    rw [mapping?, hdevice]
    rfl

/-! ## Operations -/

/-- A device that is brought up comes, and one that cannot be does not.

**Proof sketch.** Taking a reference concerns neither devices nor the backend. Then the queue is
created and its device comes, or the reference is returned and nothing has happened. -/
lemma turns_of_probe {location : Location} {file : Nat} {config : Config}
    {result : Except Error Nat} (h : s.probe location file config = .ok (result, s')) :
    s.Turns none s' := by
  obtain ⟨-, hdevices, hdma⟩ := s.rest_get location file config
  unfold Machine.probe at h
  rcases hget : s.get location file config with ⟨got, s₁⟩
  rw [hget] at h hdevices hdma
  have hgot : s.Turns none s₁ := .same hdevices hdma
  cases got with
  | error error =>
    obtain ⟨-, rfl⟩ := Prod.mk.inj (pure_eq_ok.mp h)
    exact hgot
  | ok chip =>
    dsimp only at h
    rcases hcreate : Channel.create (s₁.file file) s₁.dma config with ⟨made, dma⟩
    rw [hcreate] at h
    cases made with
    | error error =>
      obtain ⟨s₂, hput, h⟩ := bind_eq_ok.mp h
      obtain ⟨-, rfl⟩ := Prod.mk.inj (pure_eq_ok.mp h)
      obtain ⟨-, hdevices₂, hdma₂⟩ := rest_put hput
      exact hgot.followed (.same hdevices₂ (hdma₂.trans (Channel.dma_of_create_error hcreate)))
    | ok c =>
      obtain ⟨-, rfl⟩ := Prod.mk.inj (pure_eq_ok.mp h)
      exact hgot.followed (.entered hcreate rfl rfl)

/-- A device that nobody uses any more goes. -/
lemma turns_of_retire (hdevice : s.device? n = some device) (h : s.retire n device = .ok s') :
    s.Turns none s' := by
  obtain ⟨s₁, hput, h⟩ := bind_eq_ok.mp h
  obtain ⟨-, hdevices, hdma⟩ := rest_put hput
  obtain rfl := pure_eq_ok.mp h
  have hsame : (s.channel device).SameHoldings
      (s₁.channel { device with queue := (s.channel device).stopEngine.toCaptureQueue }) :=
    ⟨rfl, rfl, hdma⟩
  exact .vacated hdevice hsame (congrArg (fun places => places.set n none) hdevices) rfl

/-- Other devices stay. -/
lemma turns_of_reap (h : s.reap n = .ok s') : s.Turns none s' := by
  unfold Machine.reap at h
  split at h
  · next device hdevice =>
    split at h
    · exact pure_eq_ok.mp h ▸ .same rfl rfl
    · exact turns_of_retire hdevice h
  · exact pure_eq_ok.mp h ▸ .same rfl rfl

/-- A device that is dropped has what it had as long as it lasts. -/
lemma turns_of_drop {dropped : Bool} (h : s.drop n = .ok (dropped, s')) : s.Turns none s' := by
  unfold Machine.drop at h
  split at h
  · obtain ⟨-, rfl⟩ := Prod.mk.inj (pure_eq_ok.mp h)
    exact .same rfl rfl
  · next device hdevice =>
    obtain ⟨s₁, hreap, h⟩ := bind_eq_ok.mp h
    obtain ⟨-, rfl⟩ := Prod.mk.inj (pure_eq_ok.mp h)
    have hdisowned : s.Worked n none
        { s with devices := s.devices.set n (some { device with owned := false }) } :=
      ⟨device, { device with owned := false }, s.channel device, hdevice,
        tends_of_sameHoldings (.refl _), rfl, rfl, rfl⟩
    exact (Turns.worked hdisowned).followed (turns_of_reap hreap)

/-- An opener that is closed may put its queue back, and the device may go. -/
lemma turns_of_close {number : Nat} {closed : Bool} (h : s.close number = .ok (closed, s')) :
    s.Turns none s' := by
  unfold Machine.close at h
  split at h
  · next entry seat hentry hseat =>
    obtain ⟨after, hafter, h⟩ := bind_eq_ok.mp h
    obtain ⟨s₁, hreap, h⟩ := bind_eq_ok.mp h
    obtain ⟨-, rfl⟩ := Prod.mk.inj (pure_eq_ok.mp h)
    obtain ⟨_, device, chip, hentry', hdevice, -, rfl⟩ := seat?_eq_some.mp hseat
    obtain rfl := Option.some.inj (hentry.symm.trans hentry')
    have hworked := worked_setSeat hentry hdevice (Seat.tends_of_close hafter)
    have hleft : Turns (s.setSeat number after) none { s.setSeat number after with
        openers := (s.setSeat number after).openers.set number none } := .same rfl rfl
    exact ((Turns.worked hworked).followed hleft).followed (turns_of_reap hreap)
  · obtain ⟨-, rfl⟩ := Prod.mk.inj (pure_eq_ok.mp h)
    exact .same rfl rfl

/-- **Every operation is made of turns**, and maps a buffer where it is told to.

**Proof sketch.** One case for each operation. Those that reach a queue are worked by it, and
dropping, closing and probing are made of smaller turns; all others leave devices and backend as
they are. -/
theorem turns_of_perform (h : s.perform operation = .ok s') :
    s.Turns (s.mapping? operation) s' := by
  cases operation with
  | get location file config =>
    obtain rfl := pure_eq_ok.mp h
    exact .same (s.rest_get location file config).2.1 (s.rest_get location file config).2.2
  | put chip => exact .same (rest_put h).2.1 (rest_put h).2.2
  | probe location file config =>
    obtain ⟨⟨result, _⟩, hprobe, hsame⟩ := bind_eq_ok.mp h
    exact pure_eq_ok.mp hsame ▸ turns_of_probe hprobe
  | drop device =>
    obtain ⟨⟨dropped, _⟩, hdrop, hsame⟩ := bind_eq_ok.mp h
    exact pure_eq_ok.mp hsame ▸ turns_of_drop hdrop
  | openDevice device =>
    obtain rfl | ⟨_, _, -, -, rfl⟩ := letIn_cases h <;> exact .same rfl rfl
  | close opener =>
    obtain ⟨⟨closed, _⟩, hclose, hsame⟩ := bind_eq_ok.mp h
    exact pure_eq_ok.mp hsame ▸ turns_of_close hclose
  | ask opener wish =>
    obtain ⟨hmapping, rfl⟩ | ⟨n, index?, hmapping, hworked⟩ := worked_of_ask h <;> rw [hmapping]
    · exact .same rfl rfl
    · exact .worked hworked
  | adjust chip setting =>
    obtain rfl := pure_eq_ok.mp h
    obtain hsame | ⟨_, _, _, -, -, -, hsame⟩ := adjust_cases s chip setting <;>
      exact hsame.symm ▸ .same rfl rfl
  | interrupt now device =>
    simp only [perform, serve] at h
    split at h
    · exact pure_eq_ok.mp h ▸ .same rfl rfl
    · next device chip hunit =>
      obtain ⟨⟨handled, _⟩, hinterrupt, h⟩ := bind_eq_ok.mp h
      obtain rfl := pure_eq_ok.mp h
      obtain ⟨⟨mine, c⟩, hserve, h⟩ := bind_eq_ok.mp hinterrupt
      obtain ⟨-, rfl⟩ := Prod.mk.inj (pure_eq_ok.mp h)
      exact turns_of_sameHoldings (unit?_eq_some.mp hunit).1
        (Channel.sameHoldings_of_interrupt hserve)
  | service device =>
    simp only [perform, workOn] at h
    split at h
    · exact pure_eq_ok.mp h ▸ .same rfl rfl
    · next device hdevice =>
      obtain rfl := pure_eq_ok.mp h
      exact turns_of_sameHoldings hdevice ⟨rfl, rfl, rfl⟩
  | work number work =>
    obtain ⟨hmapping, rfl⟩ | ⟨n, index?, hmapping, hworked⟩ := worked_of_work h <;> rw [hmapping]
    · exact .same rfl rfl
    · exact .worked hworked
  | change file regs =>
    obtain rfl := pure_eq_ok.mp h
    exact .same rfl rfl

/-! ## What is held -/

/-- The bus addresses of the programs in a place for a device. -/
def placeRanges (place : Option Device) : List BusRange :=
  (place.map fun device => device.queue.ranges).getD []

/-- The bus addresses of the programs of all devices. -/
def ranges (s : Machine HostDma) : List BusRange :=
  s.devices.flatMap placeRanges

/-- The bus addresses of the programs of all devices but one. -/
def rangesBut (s : Machine HostDma) (n : Nat) : List BusRange :=
  (s.devices.set n none).flatMap placeRanges

/-- The programs of a device come before those of the others. -/
lemma perm_ranges (hdevice : s.device? n = some device) :
    s.ranges.Perm (device.queue.ranges ++ s.rangesBut n) := by
  have hplace := Option.join_eq_some_iff.mp hdevice
  have hperm : ∀ place : Option Device, ((s.devices.set n place).flatMap placeRanges).Perm
      (placeRanges place ++ (s.devices.eraseIdx n).flatMap placeRanges) := fun place =>
    (List.set_perm_cons_eraseIdx (lt_length_of_join hdevice) place).flatMap_right _
  have hwith := hperm (some device)
  rw [set_of_getElem? hplace] at hwith
  exact hwith.trans ((hperm none).symm.append_left device.queue.ranges)

/-- The backend accounts for the programs of all devices. -/
structure Accounted (s : Machine HostDma) : Prop where
  /-- The backend accounts for all programs. -/
  accounts : s.dma.Accounts s.ranges
  /-- It accounts for those of each device, besides those of the others. -/
  stocked : ∀ n device, s.device? n = some device → (s.channel device).Stocked (s.rangesBut n)

/-- A queue among others is stocked if the backend accounts for all. -/
lemma stocked_of_accounts (haccounts : s.dma.Accounts s.ranges)
    (hdevice : s.device? n = some device) (hc : c.Stocked others)
    (hqueue : device.queue = c.toCaptureQueue) : (s.channel device).Stocked (s.rangesBut n) :=
  hc.of_holds hqueue (LawfulDmaBackend.perm haccounts (perm_ranges hdevice))

/-- **Changing one place leaves programs accounted for** if those of the device that is there
afterwards are. -/
theorem Accounted.change {place : Option Device} (hs : s.Accounted)
    (hget : ∀ m, s'.device? m = if m = n then place else s.device? m)
    (haccounts : s'.dma.Accounts s'.ranges)
    (hplace : ∀ after ∈ place, ∃ (c : Channel HostDma) (others : List BusRange),
      after.queue = c.toCaptureQueue ∧ c.Stocked others) : s'.Accounted := by
  refine ⟨haccounts, fun m other hother => ?_⟩
  have hbefore := hother
  rw [hget] at hbefore
  split at hbefore
  · obtain ⟨c, others, hqueue, hstocked⟩ := hplace other hbefore
    exact stocked_of_accounts haccounts hother hstocked hqueue
  · exact stocked_of_accounts haccounts hother (hs.stocked m other hbefore) rfl

/-- The devices of a machine are those of another, but for one place. -/
lemma device?_of_set {place : Option Device} (hdevice : s.device? n = some device)
    (hdevices : s'.devices = s.devices.set n place) (m : Nat) :
    s'.device? m = if m = n then place else s.device? m := by
  rw [device?, hdevices]
  exact join_getElem?_set (lt_length_of_join hdevice) _ m

/-- The devices of a machine are those of another, and one more. -/
lemma device?_of_concat (hdevices : s'.devices = s.devices ++ [some after]) (m : Nat) :
    s'.device? m = if m = s.devices.length then some after else s.device? m := by
  rw [device?, hdevices]
  exact join_getElem?_concat s.devices _ m

/-- Working on a queue leaves programs accounted for: it keeps its own among those of the others. -/
lemma Accounted.worked {index? : Option Nat} (hs : s.Accounted) (h : s.Worked n index? s') :
    s'.Accounted := by
  obtain ⟨device, after, c, hdevice, htends, hqueue, hdevices, hdma⟩ := h
  have hstocked := htends.stocked _ (hs.stocked n device hdevice)
  have hget := device?_of_set hdevice hdevices
  refine hs.change hget ?_ fun _ hafter => ?_
  · have hbut : s'.rangesBut n = s.rangesBut n := by
      rw [rangesBut, hdevices, List.set_set, rangesBut]
    have hperm := perm_ranges ((hget n).trans (if_pos rfl))
    rw [hqueue, hbut] at hperm
    rw [hdma]
    exact LawfulDmaBackend.perm hstocked.holds hperm.symm
  · obtain rfl := Option.some.inj hafter
    exact ⟨c, _, hqueue, hstocked⟩

/-- So does a device that comes: it allocates its own. -/
lemma Accounted.entered {regs : RegisterFile} {config : Config} (hs : s.Accounted)
    (hcreate : Channel.create regs s.dma config = (.ok c, s'.dma))
    (hqueue : after.queue = c.toCaptureQueue) (hdevices : s'.devices = s.devices ++ [some after]) :
    s'.Accounted := by
  have hstocked : c.Stocked s.ranges := Channel.stocked_of_create hs.accounts hcreate
  have hdma : c.dma = s'.dma := by
    obtain ⟨stopper, -, rfl⟩ := Channel.create_eq_ok hcreate
    rfl
  refine hs.change (device?_of_concat hdevices) ?_ fun _ hafter => ?_
  · have hranges : s'.ranges = s.ranges ++ after.queue.ranges := by
      rw [ranges, hdevices, List.flatMap_append, List.flatMap_singleton]
      rfl
    rw [hranges, hqueue, ← hdma]
    exact LawfulDmaBackend.perm hstocked.holds List.perm_append_comm
  · obtain rfl := Option.some.inj hafter
    exact ⟨c, _, hqueue, hstocked⟩

/-- So does one that goes: it gives its own back. -/
lemma Accounted.vacated (hs : s.Accounted) (hdevice : s.device? n = some device)
    (hsame : (s.channel device).SameHoldings c) (hdevices : s'.devices = s.devices.set n none)
    (hdma : s'.dma = c.dispose.2) : s'.Accounted := by
  refine hs.change (device?_of_set hdevice hdevices) ?_ fun _ hafter => by cases hafter
  rw [hdma, ranges, hdevices]
  exact Channel.holds_dispose ((hs.stocked n device hdevice).of_sameHoldings hsame)

/-- **Programs are accounted for, whatever happens to devices.**

**Proof sketch.** Induction on the turns, with a lemma for each kind. -/
theorem Turns.accounted (h : s.Turns place? s') (hs : s.Accounted) : s'.Accounted := by
  induction h with
  | @same s s' hdevices hdma =>
    have haccounts : s'.dma.Accounts s'.ranges := by
      rw [hdma, ranges, hdevices]
      exact hs.accounts
    refine ⟨haccounts, fun n device h => ?_⟩
    have hbefore : s.device? n = some device := by rwa [device?, hdevices] at h
    exact stocked_of_accounts haccounts h (hs.stocked n device hbefore) rfl
  | worked hworked => exact hs.worked hworked
  | entered hcreate hqueue hdevices => exact hs.entered hcreate hqueue hdevices
  | vacated hdevice hsame hdevices hdma => exact hs.vacated hdevice hsame hdevices hdma
  | followed _ _ ih₁ ih₂ => exact ih₂ (ih₁ hs)

/-- A machine in which nothing has happened yet holds nothing. -/
lemma accounted_vacant {dma : HostDma} (h : dma.Accounts []) : (vacant dma).Accounted where
  accounts := h
  stocked _ _ := nofun

/-- **In every run programs are accounted for.** -/
theorem accounted_of_run {admits : Machine HostDma → Operation → Prop} {dma : HostDma}
    (hdma : dma.Accounts []) (h : Run admits (vacant dma) s) : s.Accounted :=
  h.keeps (accounted_vacant hdma) fun _ _ _ hs _ hperform =>
    (turns_of_perform hperform).accounted hs

end Machine

end VideoCapture
