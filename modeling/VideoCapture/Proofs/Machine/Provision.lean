import VideoCapture.Proofs.Format.Negotiation
import VideoCapture.Proofs.Machine.Outsiders
import VideoCapture.Proofs.Machine.Queues
import VideoCapture.Proofs.Machine.Turns
import VideoCapture.Proofs.Queue.Capacity

/-!
# Openers with room for their formats

The buffers that an opener requests have room for the format that it has then. With the request it
takes the right to capture, so that nobody else can request buffers of the same device, and as long
as it keeps the format its own requests are for no less. So there is room for the format whenever it
has a buffer prepared. If the norm in force is one that grants the format, then the chip can capture
it too, and there is nothing left for which a buffer could be refused as invalid.

## Main definitions

* `VideoCapture.Machine.Provisioned` — the buffers of an opener have room for its format.
* `VideoCapture.Machine.Operation.Spares` — what may happen meanwhile.

## Main results

* `VideoCapture.Machine.provisioned_of_perform` — nothing of that takes the room away.
* `VideoCapture.Machine.valid_of_run` — what becomes of wishes, and of the buffers of openers that
  had them granted.
-/

set_option autoImplicit false

namespace VideoCapture

/-- What devices carry out by themselves requests no buffers. -/
lemma CaptureQueue.Operation.Unasked.suffices {operation : Operation} (h : operation.Unasked)
    (size : Nat) : operation.Suffices size := by
  cases operation with
  | request _ _ => exact h.elim
  | _ => exact trivial

/-- An opener that has requested buffers may capture, and they have room for its format. -/
lemma Seat.ample_of_request {δ : Type} [DmaBackend δ] {seat seat' : Seat δ} {count given : Nat}
    (h : seat.request count = .ok (.ok given, seat')) :
    seat'.opener.holds = true ∧ seat'.channel.Ample seat.opener.geometry.imageBytes := by
  obtain ⟨_, -, hrefused, -⟩ | ⟨seat₁, hclaim, -, ⟨-, hrefused, -⟩ | ⟨-, hact⟩⟩ := request_cases h
  · cases hrefused
  · cases hrefused
  · obtain ⟨-, hrefused, -⟩ | ⟨hholds, channel, hrequested, rfl⟩ := ifHolding_cases hact
    · cases hrefused
    · rw [geometry_of_claim hclaim] at hrequested
      have hample :=
        (Channel.ample_of_requestBuffers hrequested (le_wholePages _)).resolve_left nofun
      exact ⟨hholds, hample⟩

namespace Machine

open CaptureQueue (Answer)

variable {δ : Type} [DmaBackend δ] {s s' : Machine δ} {number : Nat} {entry : OpenDevice}
  {g : Geometry}

/-! ## Room for a format -/

/-- If an opener has a given format, it may capture, and the buffers of its device have room for
that. -/
def Provisioned (s : Machine δ) (number : Nat) (g : Geometry) : Prop :=
  ∀ entry, s.opener? number = some entry → entry.opener.geometry = g →
    entry.opener.holds = true ∧
      ∀ device, s.device? entry.device = some device → device.queue.Ample g.imageBytes

/-- An operation leaves an opener with a given format the room for it: the opener has it so far, and
whoever works on the queue of its device directly requests no buffers with less room. -/
def Operation.Spares (s : Machine δ) (number : Nat) (g : Geometry) (operation : Operation) : Prop :=
  ∃ entry, s.opener? number = some entry ∧ entry.opener.geometry = g ∧
    ∀ task, operation = .work entry.device task → task.Suffices g.imageBytes

omit [DmaBackend δ] in
/-- Nobody else can take the right to capture with the device of an opener that has it. -/
lemma Orderly.eq_of_claimable (h : s.Orderly) (hentry : s.opener? number = some entry)
    (hholds : entry.opener.holds = true) {asker : Nat} {other : OpenDevice} {seat : Seat δ}
    (hother : s.opener? asker = some other) (hsame : other.device = entry.device)
    (hseat : s.seat? asker = some seat)
    (hclaimable : seat.opener.holds = true ∨ seat.chip.claimed = false) : asker = number := by
  obtain ⟨_, device, chip, hopener, hdevice, hchip, rfl⟩ := seat?_eq_some.mp hseat
  obtain rfl := Option.some.inj (hother.symm.trans hopener)
  have hheld : s.held? number = some device.chip := by
    rw [held?_of_opener? hentry (hsame ▸ hdevice), if_pos hholds]
  obtain hyes | hfree := hclaimable
  · have hasker : s.held? asker = some device.chip := by
      rw [held?_of_opener? hother hdevice, if_pos hyes]
    exact h.unique hasker hheld
  · have htaken := (h.taken _ chip hchip).mpr ⟨number, hheld⟩
    exact absurd (hfree.symm.trans htaken) nofun

omit [DmaBackend δ] in
/-- Nothing that is carried out meanwhile requests buffers with less room.

**Proof sketch.** Buffers are requested by openers for their own formats, and only the one with the
right to capture can have a request carried out. -/
lemma Operation.Spares.suffices {operation : Operation} {task : CaptureQueue.Operation}
    (h : operation.Spares s number g) (horderly : s.Orderly)
    (hentry : s.opener? number = some entry) (hholds : entry.opener.holds = true)
    (hcarries : operation.Carries s entry.device task) : task.Suffices g.imageBytes := by
  obtain ⟨_, hopener, hformat, hwork⟩ := h
  obtain rfl := Option.some.inj (hentry.symm.trans hopener)
  cases operation with
  | ask asker wish =>
    obtain ⟨other, seat, hother, hsame, hseat, htask⟩ := hcarries
    cases task with
    | request count capacity =>
      obtain ⟨hclaimable, rfl⟩ := htask
      -- it is the opener itself that asks, for its own format
      obtain rfl := horderly.eq_of_claimable hentry hholds hother hsame hseat hclaimable
      obtain ⟨_, device, chip, hagain, -, -, rfl⟩ := seat?_eq_some.mp hseat
      obtain rfl := Option.some.inj (hentry.symm.trans hagain)
      exact hformat ▸ le_wholePages _
    | _ => exact trivial
  | close _ => exact hcarries ▸ trivial
  | interrupt _ _ | service _ => exact hcarries.suffices _
  | work device other =>
    obtain ⟨rfl, rfl⟩ := hcarries
    exact hwork task rfl
  | get _ _ _ | put _ | probe _ _ _ | drop _ | openDevice _ | adjust _ _ | change _ _ =>
    exact hcarries.elim

/-! ## Steps and runs -/

/-- **An opener keeps the room for its format**, whatever happens meanwhile. -/
theorem provisioned_of_perform {operation : Operation} (horderly : s.Orderly)
    (hs : s.Provisioned number g) (hspares : operation.Spares s number g)
    (h : s.perform operation = .ok s') : s'.Provisioned number g := by
  obtain ⟨entry, hentry, hformat, -⟩ := id hspares
  obtain ⟨hholds, hample⟩ := hs entry hentry hformat
  obtain ⟨device, hdevice⟩ := horderly.openers number entry hentry
  intro after hafter _
  obtain ⟨hplace, hkept, -⟩ := (remains_of_perform h hentry hholds).opener after hafter
  refine ⟨hkept, fun later hlater => ?_⟩
  rw [hplace] at hlater
  have hsprings := rises_of_perform h entry.device later hlater
  generalize later.queue = q at hsprings ⊢
  cases hsprings with
  | made hnone _ => cases hnone.symm.trans hdevice
  | led hbefore hleads =>
    exact hleads.keeps (P := fun c => c.Ample g.imageBytes) (hample _ hbefore)
      fun _ _ _ _ hcarries hc hone => Channel.responding_ample.of_perform hone
        (hspares.suffices horderly hentry hholds hcarries) hc

/-- So it does in a whole run. -/
lemma provisioned_of_run (h : Run (fun s operation => operation.Spares s number g) s s')
    (horderly : s.Orderly) (hs : s.Provisioned number g) : s'.Provisioned number g := by
  have hboth := h.keeps (P := fun s => s.Orderly ∧ s.Provisioned number g) ⟨horderly, hs⟩
    fun s₁ s₂ operation hs₁ hspares hperform =>
      ⟨orderly_of_perform hs₁.1 hperform, provisioned_of_perform hs₁.1 hs₁.2 hspares hperform⟩
  exact hboth.2

/-- So it has room for its format once it has requested buffers. -/
lemma provisioned_of_request {count : Nat} (hentry : s.opener? number = some entry)
    (h : s.ask number (.request count) = .ok (some .done, s')) :
    s'.Provisioned number entry.opener.geometry := by
  obtain ⟨-, hnone, -⟩ | ⟨seat, seat', given, hseat, hperform, hgiven, rfl⟩ := ask_cases h
  · cases hnone
  · obtain rfl := Option.some.inj hgiven
    obtain ⟨result, hrequest, hresult⟩ := Seat.exists_result hperform
    obtain ⟨granted, rfl⟩ := CaptureQueue.Answer.exists_ok_of_done hresult.symm
    obtain ⟨_, device, chip, hopener, hdevice, -, rfl⟩ := seat?_eq_some.mp hseat
    obtain rfl := Option.some.inj (hentry.symm.trans hopener)
    obtain ⟨hholds, hample⟩ := Seat.ample_of_request hrequest
    intro after hafter _
    rw [opener?_setSeat hentry hdevice, if_pos rfl] at hafter
    obtain rfl := Option.some.inj hafter
    refine ⟨hholds, fun later hlater => ?_⟩
    rw [device?_setSeat hentry hdevice, if_pos rfl] at hlater
    obtain rfl := Option.some.inj hlater
    exact hample

/-- The chunks of a buffer cover what was mapped for it, whatever has happened. -/
lemma whole_of_run {admits : Machine HostDma → Operation → Prop} {dma : HostDma}
    {s : Machine HostDma} (h : Run admits (vacant dma) s) :
    ∀ n device, s.device? n = some device → device.queue.All Setup.Whole :=
  queue_of_run Channel.all_of_create
    (fun hc hone => (Channel.keeping_all Setup.lasting_whole).relating.of_perform hone hc) h

/-- A buffer is not refused as invalid to an opener with a format that the norm in force can
deliver and with room for it, and preparing it breaks off only over a backend that has gone
astray. -/
lemma ask_prepare_or_astray {s : Machine HostDma} {seat : Seat HostDma} {i : Nat}
    (hseat : s.seat? number = some seat) (hholds : seat.opener.holds = true)
    (hn : seat.chip.norm ∈ Norm.all) (hformat : seat.opener.geometry.Deliverable seat.chip.norm)
    (hwhole : seat.channel.All Setup.Whole)
    (hample : seat.channel.Ample seat.opener.geometry.imageBytes)
    (hi : i < seat.channel.buffers.length) :
    (∃ answer s', s.ask number (.prepare i) = .ok (some answer, s') ∧
      answer ≠ .refused .invalidArgument) ∨
    ∃ fault, s.ask number (.prepare i) = .error fault ∧ seat.channel.dma.Astray fault := by
  have hperform : seat.perform (.prepare i) = do
      let (result, after) ← seat.prepare i
      return (.of (fun _ => .done) result, after) := rfl
  rw [ask_eq hseat, hperform, Seat.prepare_eq hholds hi]
  obtain ⟨result, c, hprepare, hvalid⟩ | ⟨fault, hprepare, hastray⟩ :=
    Channel.valid_prepare_or_astray hwhole hample hi (hformat.capturable hn) hformat.accepts
  · rw [hprepare]
    exact .inl ⟨_, _, rfl, Answer.of_ne_refused nofun hvalid⟩
  · rw [hprepare]
    exact .inr ⟨fault, rfl, hastray⟩

/-- A device is opened twice, and the second opener takes a format for small frames. -/
def unequalOperations : List Operation :=
  [.probe { bus := 0, slot := 9, vendor := 0, device := 0 } 0 {}, .openDevice 0, .openDevice 0,
    .ask 1 (.setFormat
      { width := 48, height := 32, code := PixelFormat.initial.code, field := .bottom })]

/-- **What is granted can be captured.** Every wish is settled by its format. If a wish of an opener
was granted under the norm in force, whatever it was before, and the opener has requested buffers
for that and kept the format since, then preparing any of the buffers of its device ends with an
answer, and it is never refused as invalid. It breaks off over no backend that accounted for nothing
when the machine was new, as each does whose window ends within reach of the bus. Over another, the
tail of a program may have no address.

**Proof sketch.** With the request the opener has taken the right to capture, so that nobody else
can have replaced the buffers, and it has kept its format, so that there is room in those of now.
Where preparing one breaks off, the backend has gone astray, but in every run over a backend that
accounted for nothing it accounts for the programs of all devices. -/
theorem valid_of_run {dma : HostDma} :
    (∀ n ∈ Norm.all, ∀ request : FormatRequest, request.Settled n) ∧
    ∀ (s s₁ s₂ : Machine HostDma) (number count : Nat) (entry : OpenDevice) (seat : Seat HostDma)
      (wish : FormatRequest),
      Run (fun _ _ => True) (vacant dma) s → s.opener? number = some entry →
      s.ask number (.request count) = .ok (some .done, s₁) →
      Run (fun s operation => operation.Spares s number entry.opener.geometry) s₁ s₂ →
      s₂.seat? number = some seat → seat.opener.geometry = entry.opener.geometry →
      seat.chip.norm ∈ Norm.all → wish.negotiate seat.chip.norm = .ok (.ok seat.opener.geometry) →
      ∀ i < seat.channel.buffers.length,
        (∃ answer s', s₂.ask number (.prepare i) = .ok (some answer, s') ∧
          answer ≠ .refused .invalidArgument) ∨
        (s₂.ask number (.prepare i) = .error .numberTooWide ∧ ¬dma.Accounts []) := by
  refine ⟨fun n hn request => request.settled hn, ?_⟩
  intro s s₁ s₂ number count entry seat wish hrun hentry hrequest hmeanwhile hseat hkept hn hwish
    i hi
  have hrequested : s.perform (.ask number (.request count)) = .ok s₁ :=
    bind_eq_ok.mpr ⟨_, hrequest, rfl⟩
  have hrun₁ := hrun.step trivial hrequested
  have horderly := orderly_of_run hrun₁ (orderly_vacant dma)
  have hprovisioned :=
    provisioned_of_run hmeanwhile horderly (provisioned_of_request hentry hrequest)
  obtain ⟨later, device, chip, hlater, hdevice, -, rfl⟩ := seat?_eq_some.mp hseat
  obtain ⟨hholds, hample⟩ := hprovisioned later hlater hkept
  have hrun₂ : Run (fun _ _ => True) (vacant dma) s₂ :=
    hrun₁.trans (hmeanwhile.mono fun _ _ _ => trivial)
  have hwhole := whole_of_run hrun₂ _ device hdevice
  obtain ⟨-, hformat⟩ := FormatRequest.deliverable_of_negotiate hn hwish
  refine (ask_prepare_or_astray hseat hholds hn hformat hwhole (hkept ▸ hample device hdevice)
    hi).imp_right fun ⟨fault, hfault, hwide, hastray⟩ => ⟨hwide ▸ hfault, fun haccounts => ?_⟩
  exact hastray _ (accounted_of_run haccounts hrun₂).accounts

/-- The first opener requests a buffer for the format that it was granted when it came. The second
one asks for smaller buffers and gets none, and then the first one has its buffer prepared. -/
theorem valid_of_run_unequal : ∃ s s₁ s₂ s' : Machine HostDma, ∃ entry seat answer,
    Run (fun _ _ => True) (vacant HostDma.create) s ∧ s.opener? 0 = some entry ∧
      s.ask 0 (.request 1) = .ok (some .done, s₁) ∧
      Run (fun s operation => operation.Spares s 0 entry.opener.geometry) s₁ s₂ ∧
      s₂.seat? 0 = some seat ∧ seat.opener.geometry = entry.opener.geometry ∧
      Opener.initialRequest.negotiate seat.chip.norm = .ok (.ok seat.opener.geometry) ∧
      s₂.ask 0 (.prepare 0) = .ok (some answer, s') ∧ answer ≠ .refused .invalidArgument := by
  have hview : (do
      let s ← ((vacant HostDma.create).performAll unequalOperations).toOption
      let entry ← s.opener? 0
      let (given, s₁) ← (s.ask 0 (.request 1)).toOption
      let first ← s₁.opener? 0
      let s₂ ← (s₁.perform (.ask 1 (.request 1))).toOption
      let seat ← s₂.seat? 0
      return decide (given = some .done ∧ first.opener.geometry = entry.opener.geometry ∧
        seat.opener.geometry = entry.opener.geometry ∧ seat.chip.norm ∈ Norm.all ∧
        Opener.initialRequest.negotiate seat.chip.norm = .ok (.ok seat.opener.geometry) ∧
        0 < seat.channel.buffers.length)) = some true := by decide +kernel
  simp only [Option.bind_eq_bind, Option.bind_eq_some_iff, Option.pure_def, Option.some.injEq,
    decide_eq_true_eq] at hview
  obtain ⟨s, hrun, entry, hentry, ⟨_, s₁⟩, hrequest, first, hfirst, s₂, hmeanwhile, seat, hseat,
    rfl, hformat, hkept, hn, hwish, hi⟩ := hview
  have hreach : Run (fun _ _ => True) (vacant HostDma.create) s :=
    run_of_performAll (fun _ _ _ => trivial) (toOption_eq_some.mp hrun)
  have hrequested : s.ask 0 (.request 1) = .ok (some .done, s₁) := toOption_eq_some.mp hrequest
  have hspares : (Operation.ask 1 (.request 1)).Spares s₁ 0 entry.opener.geometry :=
    ⟨first, hfirst, hformat, fun _ => nofun⟩
  have hon : Run (fun s operation => operation.Spares s 0 entry.opener.geometry) s₁ s₂ :=
    Run.refl.step hspares (toOption_eq_some.mp hmeanwhile)
  obtain ⟨answer, s', hprepare, hvalid⟩ | ⟨-, hastray⟩ := valid_of_run.2 s s₁ s₂ 0 1 entry seat
    Opener.initialRequest hreach hentry hrequested hon hseat hkept hn hwish 0 hi
  · exact ⟨s, s₁, s₂, s', entry, seat, answer, hreach, hentry, hrequested, hon, hseat, hkept, hwish,
      hprepare, hvalid⟩
  · exact absurd (HostDma.accounts_create (by decide)) hastray

end Machine

end VideoCapture
