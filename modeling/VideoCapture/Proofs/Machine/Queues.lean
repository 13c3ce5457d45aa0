import VideoCapture.Proofs.Machine.Closing
import VideoCapture.Proofs.Queue.Shutdown

/-!
# What becomes of the queues of devices

The queue of a device is made when the device is brought up. Whatever happens to a machine, from
then on operations lead from the queue before to the queue after, or it stays as it is; so what is
true of new queues and is broken by no operation is true of the queues of all devices at all times.
Which operations these are depends on what happens: openers have buffers prepared for what they want
and requested with room for that, an interrupt has status acted upon, and whoever works on a queue
directly says what is to be done.

An opener with the right to capture keeps it until it is closed, and then no buffer is left. Its
format changes only when nothing else is done.

## Main definitions

* `VideoCapture.Machine.Descends`, `VideoCapture.Machine.Springs` — where a queue comes from.
* `VideoCapture.Machine.Remains` — what can become of an opener that may capture.
* `VideoCapture.Machine.Evolves` — what can become of queues and of openers that may capture.
* `VideoCapture.Machine.Operation.Carries` — what an operation has carried out on a queue.
* `VideoCapture.Machine.Operation.PreparesFor` — operations prepare for what is wanted only.
* `VideoCapture.Machine.Operation.SetsFormat` — operations that may change formats.

## Main results

* `VideoCapture.Machine.rises_of_perform`, `VideoCapture.Machine.remains_of_perform` — what becomes
  of queues, and of openers that may capture, whatever happens.
* `VideoCapture.Machine.queue_of_run` — what no operation of a queue breaks is true of all queues.
-/

set_option autoImplicit false

namespace VideoCapture.Machine

variable {δ : Type} [DmaBackend δ] {wanted : Nat → Geometry → Norm → Prop} {changes : Prop}
  {s s₁ s' : Machine δ} {n number : Nat} {device after : Device} {entry : OpenDevice}

/-! ## Queues and openers -/

/-- A queue is new, or operations that prepare buffers for what is wanted lead to it from that of
the device of a number. -/
inductive Descends (wanted : Geometry → Norm → Prop) (s : Machine δ) (n : Nat) :
    CaptureQueue → Prop where
  /-- It is new. -/
  | made {regs : RegisterFile} {dma dma' : δ} {config : Config} {c : Channel δ} :
      Channel.create regs dma config = (.ok c, dma') → Descends wanted s n c.toCaptureQueue
  /-- Operations lead to it. -/
  | led {device : Device} {c : Channel δ} : s.device? n = some device →
      (s.channel device).Follows wanted c → Descends wanted s n c.toCaptureQueue

/-- What can become of an opener that may capture, and of its device: it keeps the right and its
format, or it changes its format, if there are changes, and the queue stays as it is, or it goes and
leaves no buffers. -/
structure Remains (s : Machine δ) (changes : Prop) (s' : Machine δ) (number : Nat)
    (entry : OpenDevice) : Prop where
  /-- What is left of it. -/
  opener : ∀ after, s'.opener? number = some after →
    after.device = entry.device ∧ after.opener.holds = true ∧
      (after.opener.geometry = entry.opener.geometry ∨
        changes ∧ ∀ later, s'.device? entry.device = some later →
          ∃ device, s.device? entry.device = some device ∧ later.queue = device.queue)
  /-- What it leaves if it goes. -/
  gone : s'.opener? number = none →
    ∀ later, s'.device? entry.device = some later → later.queue.buffers = []

/-- What can become of the queues of devices, for which something is wanted each, and of the openers
that may capture, whether or not there are changes of format. -/
structure Evolves (wanted : Nat → Geometry → Norm → Prop) (changes : Prop) (s s' : Machine δ) :
    Prop where
  /-- Queues come from the queues before, or are new. -/
  queues : ∀ n after, s'.device? n = some after → s.Descends (wanted n) n after.queue
  /-- Openers that may capture stay so, or go. -/
  openers : ∀ number entry, s.opener? number = some entry → entry.opener.holds = true →
    s.Remains changes s' number entry

omit [DmaBackend δ] in
/-- An opener that stays as it is remains. -/
lemma remains_of_opener? (h : s'.opener? number = some entry) (hholds : entry.opener.holds = true) :
    s.Remains changes s' number entry := by
  refine ⟨fun after hafter => ?_, fun hnone => ?_⟩
  · obtain rfl := Option.some.inj (h.symm.trans hafter)
    exact ⟨rfl, hholds, .inl rfl⟩
  · cases h.symm.trans hnone

/-! ## Devices that come and go -/

/-- A device that nobody has any more goes, and nothing else. -/
lemma rest_reap (h : s.reap n = .ok s') : s'.openers = s.openers ∧
    ∀ m after, s'.device? m = some after → s.device? m = some after := by
  unfold Machine.reap at h
  split at h
  · next device hdevice =>
    split at h
    · exact pure_eq_ok.mp h ▸ ⟨rfl, fun _ _ hafter => hafter⟩
    · obtain ⟨s₁, hput, h⟩ := bind_eq_ok.mp h
      obtain ⟨hopeners, hdevices, -⟩ := rest_put hput
      obtain rfl := pure_eq_ok.mp h
      refine ⟨hopeners, fun m after hafter => ?_⟩
      have hplace : n < s₁.devices.length := hdevices ▸ lt_length_of_join hdevice
      have hget := (join_getElem?_set hplace none m).symm.trans hafter
      split at hget
      · cases hget
      · rwa [hdevices] at hget
  · exact pure_eq_ok.mp h ▸ ⟨rfl, fun _ _ hafter => hafter⟩

/-- A device that is dropped keeps its queue and its chip, as long as anybody has it.

**Proof sketch.** A device that is dropped loses its owner, and its place is emptied if nobody has
it open. All other places are as they were. -/
lemma rest_drop {dropped : Bool} (h : s.drop n = .ok (dropped, s')) : s'.openers = s.openers ∧
    ∀ m after, s'.device? m = some after →
      ∃ device, s.device? m = some device ∧ after.queue = device.queue ∧
        after.chip = device.chip := by
  unfold Machine.drop at h
  split at h
  · obtain ⟨-, rfl⟩ := Prod.mk.inj (pure_eq_ok.mp h)
    exact ⟨rfl, fun _ after hafter => ⟨after, hafter, rfl, rfl⟩⟩
  · next device hdevice =>
    obtain ⟨s₁, hreap, h⟩ := bind_eq_ok.mp h
    obtain ⟨-, rfl⟩ := Prod.mk.inj (pure_eq_ok.mp h)
    obtain ⟨hopeners, hdevices⟩ := rest_reap hreap
    refine ⟨hopeners, fun m after hafter => ?_⟩
    have hget := (join_getElem?_set (lt_length_of_join hdevice) _ m).symm.trans
      (hdevices m after hafter)
    split at hget
    · next hm =>
      obtain rfl := Option.some.inj hget
      exact ⟨device, hm ▸ hdevice, rfl, rfl⟩
    · exact ⟨after, hget, rfl, rfl⟩

/-- A device that is brought up has a new queue.

**Proof sketch.** Taking a reference and returning it concern neither devices nor openers, so that a
device comes just if its queue is created. -/
lemma rest_probe {location : Location} {file : Nat} {config : Config} {result : Except Error Nat}
    (h : s.probe location file config = .ok (result, s')) : s'.openers = s.openers ∧
      (s'.devices = s.devices ∨ ∃ (regs : RegisterFile) (dma dma' : δ) (c : Channel δ)
        (device : Device), Channel.create regs dma config = (.ok c, dma') ∧
          device.queue = c.toCaptureQueue ∧ s'.devices = s.devices ++ [some device]) := by
  obtain ⟨hopeners, hdevices, -⟩ := s.rest_get location file config
  unfold Machine.probe at h
  rcases hget : s.get location file config with ⟨got, s₁⟩
  rw [hget] at h hopeners hdevices
  cases got with
  | error error =>
    obtain ⟨-, rfl⟩ := Prod.mk.inj (pure_eq_ok.mp h)
    exact ⟨hopeners, .inl hdevices⟩
  | ok chip =>
    dsimp only at h
    rcases hcreate : Channel.create (s₁.file file) s₁.dma config with ⟨made, dma⟩
    rw [hcreate] at h
    cases made with
    | error error =>
      obtain ⟨s₂, hput, h⟩ := bind_eq_ok.mp h
      obtain ⟨-, rfl⟩ := Prod.mk.inj (pure_eq_ok.mp h)
      obtain ⟨hopeners₂, hdevices₂, -⟩ := rest_put hput
      exact ⟨hopeners₂.trans hopeners, .inl (hdevices₂.trans hdevices)⟩
    | ok c =>
      obtain ⟨-, rfl⟩ := Prod.mk.inj (pure_eq_ok.mp h)
      exact ⟨hopeners, .inr ⟨_, _, _, c, _, hcreate, rfl, by rw [hdevices]⟩⟩

/-! ## What is done with queues -/

/-- A queue is that of a new device, or allowed operations lead to it from that of the device of a
number. -/
inductive Springs (allowed : CaptureQueue.Operation → Prop) (s : Machine δ) (n : Nat) :
    CaptureQueue → Prop where
  /-- There has been no device yet. -/
  | made {regs : RegisterFile} {dma dma' : δ} {config : Config} {c : Channel δ} :
      s.device? n = none → Channel.create regs dma config = (.ok c, dma') →
      Springs allowed s n c.toCaptureQueue
  /-- Operations lead to it. -/
  | led {device : Device} {c : Channel δ} : s.device? n = some device →
      (s.channel device).Leads allowed c → Springs allowed s n c.toCaptureQueue

/-- Where a queue springs from if it may be prepared for nothing else. -/
lemma Springs.descends {allowed : CaptureQueue.Operation → Prop} {wanted : Geometry → Norm → Prop}
    {q : CaptureQueue} (h : s.Springs allowed n q)
    (hwanted : ∀ task, allowed task → task.PreparesFor wanted) : s.Descends wanted n q := by
  cases h with
  | made _ hcreate => exact .made hcreate
  | led hdevice hleads => exact .led hdevice (hleads.follows hwanted)

/-- What is true of new queues and broken by no operation that is wanted is true of a queue that
descends from one that it is true of. -/
lemma Descends.keeps {wanted : Geometry → Norm → Prop} {P : CaptureQueue → Prop}
    {q : CaptureQueue} (h : s.Descends wanted n q)
    (hnew : ∀ {regs : RegisterFile} {dma dma' : δ} {config : Config} {c : Channel δ},
      Channel.create regs dma config = (.ok c, dma') → P c.toCaptureQueue)
    (hs : ∀ device, s.device? n = some device → P device.queue)
    (hP : ∀ {c c' : Channel δ} {task : CaptureQueue.Operation} {answer : CaptureQueue.Answer},
      task.PreparesFor wanted → P c.toCaptureQueue → c.perform task = .ok (answer, c') →
        P c'.toCaptureQueue) : P q := by
  cases h with
  | made hcreate => exact hnew hcreate
  | led hdevice hfollows =>
    exact hfollows.keeps (P := fun c => P c.toCaptureQueue) (hs _ hdevice)
      fun _ _ _ _ hwanted hc hone => hP hwanted hc hone

/-- The queues of all devices spring from those before. -/
def Rises (allowed : Nat → CaptureQueue.Operation → Prop) (s s' : Machine δ) : Prop :=
  ∀ n after, s'.device? n = some after → s.Springs (allowed n) n after.queue

/-- What an operation has carried out on the queue of a device. -/
def Operation.Carries (s : Machine δ) (n : Nat) : Operation → CaptureQueue.Operation → Prop
  | .ask number _, task => ∃ entry seat, s.opener? number = some entry ∧ entry.device = n ∧
      s.seat? number = some seat ∧ seat.Carries task
  | .close _, task => task = .shutdown
  | .interrupt _ _, task | .service _, task => task.Unasked
  | .work number other, task => number = n ∧ task = other
  | .get _ _ _, _ | .put _, _ | .probe _ _ _, _ | .drop _, _ | .openDevice _, _ | .adjust _ _, _
  | .change _ _, _ => False

section Queues

variable {allowed : Nat → CaptureQueue.Operation → Prop}

/-- A queue that stays as it is springs from itself. -/
lemma springs_refl {allowed : CaptureQueue.Operation → Prop} (hdevice : s.device? n = some device) :
    s.Springs allowed n device.queue :=
  .led hdevice (Channel.leads_refl (s.channel device))

/-- Queues stay as they are, or devices go. -/
lemma rises_of_subset (h : ∀ n after, s'.device? n = some after →
    ∃ device, s.device? n = some device ∧ after.queue = device.queue) : s.Rises allowed s' := by
  intro n after hafter
  obtain ⟨device, hdevice, hqueue⟩ := h n after hafter
  exact hqueue ▸ springs_refl hdevice

/-- No devices change. -/
lemma rises_of_eq (h : s'.devices = s.devices) : s.Rises allowed s' := by
  refine rises_of_subset fun n after hafter => ⟨after, ?_, rfl⟩
  rwa [device?, h] at hafter

/-- The queue of a device is worked on. -/
lemma rises_of_conducted (h : s.Conducted (allowed n) n s') : s.Rises allowed s' := by
  obtain rfl | ⟨device, c, hdevice, hleads, rfl⟩ := h
  · exact rises_of_eq rfl
  · intro m after hafter
    rw [device?_setChannel hdevice] at hafter
    split at hafter
    · next hm =>
      obtain rfl := Option.some.inj hafter
      exact hm ▸ .led hdevice hleads
    · exact springs_refl hafter

/-- An opener is put back with the queue of its device, to which operations lead. -/
lemma rises_of_setSeat {seat : Seat δ} (hentry : s.opener? number = some entry)
    (hdevice : s.device? entry.device = some device)
    (hleads : (s.channel device).Leads (allowed entry.device) seat.channel) :
    s.Rises allowed (s.setSeat number seat) := by
  intro n after hafter
  rw [device?_setSeat hentry hdevice] at hafter
  split at hafter
  · next hn =>
    obtain rfl := Option.some.inj hafter
    exact hn ▸ .led hdevice hleads
  · exact springs_refl hafter

/-- What an opener does springs from what it has carried out on its queue, and other queues stay as
they are. -/
lemma rises_of_ask {wish : Seat.Operation} {answer : Option CaptureQueue.Answer}
    (h : s.ask number wish = .ok (answer, s')) :
    s.Rises (fun n => (Operation.ask number wish).Carries s n) s' := by
  obtain ⟨-, -, rfl⟩ | ⟨seat, seat', given, hseat, hperform, -, rfl⟩ := ask_cases h
  · exact rises_of_eq rfl
  · obtain ⟨entry, device, chip, hentry, hdevice, -, hsame⟩ := seat?_eq_some.mp hseat
    have hleads := (Seat.progress_of_perform hperform).channel
    refine rises_of_setSeat hentry hdevice ?_
    have hchannel : seat.channel = s.channel device := by rw [hsame]
    rw [← hchannel]
    exact hleads.mono fun task hcarries => ⟨entry, seat, hentry, rfl, hseat, hcarries⟩

/-- An opener that is closed stops capture first if it has the right to it, and it may be the last
that keeps a device. -/
lemma rises_of_close {closed : Bool} (h : s.close number = .ok (closed, s')) :
    s.Rises (fun n => (Operation.close number).Carries s n) s' := by
  unfold Machine.close at h
  split at h
  · next entry seat hentry hseat =>
    obtain ⟨seat', hclose, h⟩ := bind_eq_ok.mp h
    obtain ⟨s₁, hreap, h⟩ := bind_eq_ok.mp h
    obtain ⟨-, rfl⟩ := Prod.mk.inj (pure_eq_ok.mp h)
    obtain ⟨_, device, chip, hentry', hdevice, -, rfl⟩ := seat?_eq_some.mp hseat
    obtain rfl := Option.some.inj (hentry.symm.trans hentry')
    have hput : s.Rises (fun n => (Operation.close number).Carries s n) (s.setSeat number seat') :=
      rises_of_setSeat hentry hdevice (Seat.leads_of_close hclose)
    exact fun n after hafter => hput n after ((rest_reap hreap).2 n after hafter)
  · obtain ⟨-, rfl⟩ := Prod.mk.inj (pure_eq_ok.mp h)
    exact rises_of_eq rfl

/-- Bringing a device up leaves the queues of the others as they are, and its own is new. -/
lemma rises_of_probe {location : Location} {file : Nat} {config : Config}
    {result : Except Error Nat} (h : s.probe location file config = .ok (result, s')) :
    s.Rises allowed s' := by
  obtain ⟨-, hdevices | ⟨regs, dma, dma', c, device, hcreate, hqueue, hdevices⟩⟩ := rest_probe h
  · exact rises_of_eq hdevices
  · intro n after hafter
    have hget := join_getElem?_concat s.devices (some device) n
    rw [device?, hdevices, hget] at hafter
    split at hafter
    · next hn =>
      obtain rfl := Option.some.inj hafter
      rw [hqueue]
      refine .made ?_ hcreate
      rw [device?, hn, List.getElem?_eq_none (Nat.le_refl _)]
      rfl
    · exact springs_refl hafter

/-- **What becomes of the queues of devices, whatever happens**: they are new, or what has been
carried out leads to them.

**Proof sketch.** One case for each operation. Probing adds a new queue, dropping and closing take
some away, and what is carried out for an opener, an interrupt or a direct call leads on in the
queue that it concerns; all others leave the devices as they are. -/
theorem rises_of_perform {operation : Operation} (h : s.perform operation = .ok s') :
    s.Rises (fun n => operation.Carries s n) s' := by
  cases operation with
  | get location file config =>
    obtain rfl := pure_eq_ok.mp h
    exact rises_of_eq (s.rest_get location file config).2.1
  | put chip => exact rises_of_eq (rest_put h).2.1
  | probe location file config =>
    obtain ⟨⟨result, _⟩, hprobe, hsame⟩ := bind_eq_ok.mp h
    exact pure_eq_ok.mp hsame ▸ rises_of_probe hprobe
  | drop device =>
    obtain ⟨⟨dropped, _⟩, hdrop, hsame⟩ := bind_eq_ok.mp h
    refine pure_eq_ok.mp hsame ▸ rises_of_subset fun n after hafter => ?_
    obtain ⟨before, hbefore, hqueue, -⟩ := (rest_drop hdrop).2 n after hafter
    exact ⟨before, hbefore, hqueue⟩
  | openDevice device =>
    obtain rfl | ⟨_, _, -, -, rfl⟩ := letIn_cases h <;> exact rises_of_eq rfl
  | close opener =>
    obtain ⟨⟨closed, _⟩, hclose, hsame⟩ := bind_eq_ok.mp h
    exact pure_eq_ok.mp hsame ▸ rises_of_close hclose
  | ask opener wish =>
    obtain ⟨⟨answer, _⟩, hask, hsame⟩ := bind_eq_ok.mp h
    exact pure_eq_ok.mp hsame ▸ rises_of_ask hask
  | adjust chip setting =>
    obtain rfl := pure_eq_ok.mp h
    obtain hsame | ⟨_, _, _, -, -, -, hsame⟩ := adjust_cases s chip setting <;>
      exact hsame.symm ▸ rises_of_eq rfl
  | interrupt now device => exact rises_of_conducted (conducted_of_interrupt h)
  | service device => exact rises_of_conducted (conducted_of_service h)
  | work device task =>
    exact rises_of_conducted ((conducted_of_work h).mono fun _ htask => ⟨rfl, htask⟩)
  | change file regs =>
    obtain rfl := pure_eq_ok.mp h
    exact rises_of_eq rfl

end Queues

/-! ## What becomes of openers -/

/-- An operation is a change of format. -/
def Operation.SetsFormat (operation : Operation) : Prop :=
  ∃ number request, operation = .ask number (.setFormat request)

/-- An opener with the right to capture keeps it while it asks for something. If its format changes,
nothing is done with the queue of its device. -/
lemma remains_of_setSeat {seat seat' : Seat δ} (hentry : s.opener? number = some entry)
    (hdevice : s.device? entry.device = some device) (hchannel : seat.channel = s.channel device)
    (hopener : seat.opener = entry.opener) (hadvance : seat.Advance seat')
    (hformat : seat'.opener.geometry = seat.opener.geometry ∨
      changes ∧ seat'.channel = seat.channel) (hholds : entry.opener.holds = true) :
    s.Remains changes (s.setSeat number seat') number entry := by
  have hput := (opener?_setSeat hentry hdevice seat' number).trans (if_pos rfl)
  refine ⟨fun after hafter => ?_, fun hnone => by cases hput.symm.trans hnone⟩
  obtain rfl := Option.some.inj (hput.symm.trans hafter)
  refine ⟨rfl, ?_, ?_⟩
  · obtain ⟨hkept, -⟩ | ⟨hno, -⟩ := hadvance.right
    · exact hkept.trans (hopener ▸ hholds)
    · exact absurd ((hopener ▸ hno).symm.trans hholds) nofun
  · refine hformat.imp (fun hsame => hopener ▸ hsame) (And.imp_right fun hqueue later hlater => ?_)
    rw [device?_setSeat hentry hdevice, if_pos rfl] at hlater
    obtain rfl := Option.some.inj hlater
    exact ⟨device, hdevice, congrArg Channel.toCaptureQueue (hqueue.trans hchannel)⟩

/-- An opener that asks for something keeps the right to capture if it has it. -/
lemma remains_of_ask {asker : Nat} {wish : Seat.Operation} {answer : Option CaptureQueue.Answer}
    (h : s.ask asker wish = .ok (answer, s')) (hentry : s.opener? number = some entry)
    (hholds : entry.opener.holds = true) :
    s.Remains (Operation.ask asker wish).SetsFormat s' number entry := by
  obtain ⟨-, -, rfl⟩ | ⟨seat, seat', given, hseat, hperform, -, rfl⟩ := ask_cases h
  · exact remains_of_opener? hentry hholds
  · obtain ⟨other, device, chip, hother, hdevice, -, hsame⟩ := seat?_eq_some.mp hseat
    by_cases hnumber : number = asker
    · subst hnumber
      obtain rfl := Option.some.inj (hentry.symm.trans hother)
      refine remains_of_setSeat hentry hdevice (by rw [hsame]) (by rw [hsame])
        (Seat.advance_of_perform hperform) ?_ hholds
      refine (Seat.format_of_perform hperform).imp_right ?_
      rintro ⟨⟨request, rfl⟩, hqueue⟩
      exact ⟨⟨number, request, rfl⟩, hqueue⟩
    · refine remains_of_opener? ?_ hholds
      rw [opener?_setSeat hother hdevice, if_neg hnumber, hentry]

/-- An opener with the right to capture that leaves has shut the queue of its device down. -/
lemma remains_of_leave {seat seat' : Seat δ} (hentry : s.opener? number = some entry)
    (hdevice : s.device? entry.device = some device) (hopener : seat.opener = entry.opener)
    (hclose : seat.close = .ok seat') (hholds : entry.opener.holds = true) :
    s.Remains changes (s.leave number seat') number entry := by
  have hleft := (opener?_leave hentry hdevice seat' number).trans (if_pos rfl)
  refine ⟨fun after hafter => ?_, fun _ later hlater => ?_⟩
  · cases hleft.symm.trans hafter
  · have hlater := (device?_setSeat hentry hdevice seat' _).symm.trans hlater
    rw [if_pos rfl] at hlater
    obtain rfl := Option.some.inj hlater
    obtain ⟨-, channel, hshutdown, rfl⟩ | ⟨hno, -⟩ := Seat.close_cases hclose
    · exact (Channel.off_of_shutdown hshutdown).2.1
    · exact absurd ((hopener ▸ hno).symm.trans hholds) nofun

/-- A device that nobody has any more takes nothing from openers. -/
lemma Remains.reap (h : s.Remains changes s₁ number entry) (hreap : s₁.reap n = .ok s') :
    s.Remains changes s' number entry := by
  obtain ⟨hopeners, hdevices⟩ := rest_reap hreap
  have hsame : s'.opener? number = s₁.opener? number := by rw [opener?, hopeners, opener?]
  refine ⟨fun after hafter => ?_, fun hnone later hlater => ?_⟩
  · obtain ⟨hdevice, hkept, hformat⟩ := h.opener after (hsame.symm.trans hafter)
    exact ⟨hdevice, hkept, hformat.imp_right (And.imp_right fun hqueue later hlater =>
      hqueue later (hdevices _ later hlater))⟩
  · exact h.gone (hsame.symm.trans hnone) later (hdevices _ later hlater)

/-- An opener that is closed leaves no buffers if it had the right to capture.

**Proof sketch.** If it is the opener itself that is closed, its right is given back after the queue
was shut down. If it is another one, the opener is where it was. -/
lemma remains_of_close {closer : Nat} {closed : Bool} (h : s.close closer = .ok (closed, s'))
    (hentry : s.opener? number = some entry) (hholds : entry.opener.holds = true) :
    s.Remains changes s' number entry := by
  unfold Machine.close at h
  split at h
  · next other seat hother hseat =>
    obtain ⟨seat', hclose, h⟩ := bind_eq_ok.mp h
    obtain ⟨s₁, hreap, h⟩ := bind_eq_ok.mp h
    obtain ⟨-, rfl⟩ := Prod.mk.inj (pure_eq_ok.mp h)
    obtain ⟨_, device, chip, hother', hdevice, -, hsame⟩ := seat?_eq_some.mp hseat
    obtain rfl := Option.some.inj (hother.symm.trans hother')
    have hleave : s.Remains changes (s.leave closer seat') number entry := by
      by_cases hnumber : number = closer
      · subst hnumber
        obtain rfl := Option.some.inj (hentry.symm.trans hother)
        exact remains_of_leave hentry hdevice (by rw [hsame]) hclose hholds
      · have hleft := (opener?_leave hother hdevice seat' number).trans (if_neg hnumber)
        exact remains_of_opener? (hleft.trans hentry) hholds
    exact hleave.reap hreap
  · obtain ⟨-, rfl⟩ := Prod.mk.inj (pure_eq_ok.mp h)
    exact remains_of_opener? hentry hholds

omit [DmaBackend δ] in
/-- An opener stays as it is when another one comes. -/
lemma opener?_of_letIn (h : s.letIn n = .ok s') (hentry : s.opener? number = some entry) :
    s'.opener? number = some entry := by
  obtain rfl | ⟨device, opener, -, -, rfl⟩ := letIn_cases h
  · exact hentry
  · have hget := join_getElem?_concat s.openers (some { device := n, opener }) number
    rw [if_neg (Nat.ne_of_lt (lt_length_of_join hentry))] at hget
    exact hget.trans hentry

/-- **What becomes of an opener that may capture, whatever happens.**

**Proof sketch.** Only what openers do, and closing them, concerns openers at all; everything else
leaves all of them as they are. -/
theorem remains_of_perform {operation : Operation} (h : s.perform operation = .ok s')
    (hentry : s.opener? number = some entry) (hholds : entry.opener.holds = true) :
    s.Remains operation.SetsFormat s' number entry := by
  have hsame : s'.openers = s.openers → s.Remains operation.SetsFormat s' number entry :=
    fun hopeners => remains_of_opener? (by rwa [opener?, hopeners]) hholds
  have hserved : ∀ {wanted : Geometry → Norm → Prop} {n : Nat}, s.Served wanted n s' →
      s'.openers = s.openers := by
    rintro wanted n (rfl | ⟨_, _, -, -, rfl⟩) <;> rfl
  cases operation with
  | get location file config =>
    obtain rfl := pure_eq_ok.mp h
    exact hsame (s.rest_get location file config).1
  | put chip => exact hsame (rest_put h).1
  | probe location file config =>
    obtain ⟨⟨result, _⟩, hprobe, heq⟩ := bind_eq_ok.mp h
    exact hsame (pure_eq_ok.mp heq ▸ (rest_probe hprobe).1)
  | drop device =>
    obtain ⟨⟨dropped, _⟩, hdrop, heq⟩ := bind_eq_ok.mp h
    exact hsame (pure_eq_ok.mp heq ▸ (rest_drop hdrop).1)
  | openDevice device => exact remains_of_opener? (opener?_of_letIn h hentry) hholds
  | close closer =>
    obtain ⟨⟨closed, _⟩, hclose, heq⟩ := bind_eq_ok.mp h
    exact pure_eq_ok.mp heq ▸ remains_of_close hclose hentry hholds
  | ask asker wish =>
    obtain ⟨⟨answer, _⟩, hask, heq⟩ := bind_eq_ok.mp h
    exact pure_eq_ok.mp heq ▸ remains_of_ask hask hentry hholds
  | adjust chip setting =>
    obtain rfl := pure_eq_ok.mp h
    refine hsame ?_
    obtain heq | ⟨_, _, _, -, -, -, heq⟩ := adjust_cases s chip setting <;> rw [heq]
    rfl
  | interrupt now device => exact hsame (hserved (served_of_interrupt (fun _ _ => True) h))
  | service device => exact hsame (hserved (served_of_service (fun _ _ => True) h))
  | work device task => exact hsame (hserved (served_of_work _ task.preparesFor_true h))
  | change file regs =>
    obtain rfl := pure_eq_ok.mp h
    exact hsame rfl

/-! ## Queues and openers together -/

/-- What operations have buffers prepared for is wanted: openers want their formats, and whoever
works on a queue says what for. -/
def Operation.PreparesFor (s : Machine δ) (wanted : Nat → Geometry → Norm → Prop) :
    Operation → Prop
  | .ask number _ => ∀ entry seat geometry norm, s.opener? number = some entry →
      s.seat? number = some seat → seat.Wants geometry norm → wanted entry.device geometry norm
  | .work number task => task.PreparesFor (wanted number)
  | _ => True

omit [DmaBackend δ] in
/-- If so, nothing that is carried out prepares for anything else. -/
lemma Operation.PreparesFor.carries {operation : Operation} {task : CaptureQueue.Operation}
    (h : operation.PreparesFor s wanted) (hcarries : operation.Carries s n task) :
    task.PreparesFor (wanted n) := by
  cases operation with
  | ask number wish =>
    obtain ⟨entry, seat, hentry, rfl, hseat, htask⟩ := hcarries
    cases task with
    | prepare _ geometry norm => exact h entry seat geometry norm hentry hseat htask
    | _ => exact trivial
  | close _ => exact hcarries ▸ trivial
  | interrupt _ _ | service _ => exact hcarries.preparesFor _
  | work number other =>
    obtain ⟨rfl, rfl⟩ := hcarries
    exact h
  | get _ _ _ | put _ | probe _ _ _ | drop _ | openDevice _ | adjust _ _ | change _ _ =>
    exact hcarries.elim

/-- **What becomes of queues and of openers that may capture, whatever happens.** -/
theorem evolves_of_perform {operation : Operation} (hwanted : operation.PreparesFor s wanted)
    (h : s.perform operation = .ok s') : s.Evolves wanted operation.SetsFormat s' where
  queues n after hafter := (rises_of_perform h n after hafter).descends fun _ => hwanted.carries
  openers _ _ hentry hholds := remains_of_perform h hentry hholds

/-! ## Runs -/

omit [DmaBackend δ] in
/-- If everything is wanted, every operation prepares for what is wanted. -/
lemma Operation.preparesFor_true (s : Machine δ) (operation : Operation) :
    operation.PreparesFor s fun _ _ _ => True := by
  cases operation with
  | ask number wish => exact fun _ _ _ _ _ _ _ => trivial
  | work number task => exact task.preparesFor_true
  | _ => exact trivial

section Keeping

variable {P : CaptureQueue → Prop}
  (hnew : ∀ {regs : RegisterFile} {dma dma' : δ} {config : Config} {c : Channel δ},
    Channel.create regs dma config = (.ok c, dma') → P c.toCaptureQueue)
  (hP : ∀ {c c' : Channel δ} {operation : CaptureQueue.Operation} {answer : CaptureQueue.Answer},
    P c.toCaptureQueue → c.perform operation = .ok (answer, c') → P c'.toCaptureQueue)

include hnew hP

/-- What is true of new queues and broken by no operation of a queue is broken by nothing. -/
lemma queue_of_perform {operation : Operation}
    (hs : ∀ n device, s.device? n = some device → P device.queue)
    (h : s.perform operation = .ok s') :
    ∀ n device, s'.device? n = some device → P device.queue := by
  intro n device hdevice
  have hevolves := evolves_of_perform (operation.preparesFor_true s) h
  exact (hevolves.queues n device hdevice).keeps hnew (hs n) fun _ hc hone => hP hc hone

/-- **What is true of new queues and broken by no operation of a queue is true of the queues of all
devices**, whatever has happened. -/
theorem queue_of_run {admits : Machine δ → Operation → Prop} {dma : δ}
    (h : Run admits (vacant dma) s) : ∀ n device, s.device? n = some device → P device.queue :=
  h.keeps (P := fun s => ∀ n device, s.device? n = some device → P device.queue)
    (fun _ _ hnone => by cases hnone)
    fun _ _ _ hs _ hperform => queue_of_perform hnew hP hs hperform

end Keeping

end VideoCapture.Machine
