import VideoCapture.Proofs.Machine.Outsiders
import VideoCapture.Proofs.Machine.Queues
import VideoCapture.Proofs.Queue.Formats

/-!
# The formats of openers and of the buffers they hand in

An opener has a format, and may take another one as long as it is not capturing. Buffers are
prepared for the format that the opener has when they are prepared. One that is not prepared when it
is handed in is prepared first, so its program captures the format of the opener. One that is
prepared already is handed in as it is, without a look at its format: if the opener has taken
another format since, the engine captures frames of the format before.

So the format of a buffer that is handed in is that of the opener if and only if the buffer was not
prepared for another one. Nothing but a change of format outdates a buffer, so none is outdated as
long as whoever may capture changes the format only while no buffer is prepared.

## Main definitions

* `VideoCapture.Machine.Outdated` — a buffer is prepared for another format than the opener has.
* `VideoCapture.Machine.Current` — prepared buffers are prepared for openers that may capture.
* `VideoCapture.Machine.Operation.Timely` — operations that outdate no buffer.
* `VideoCapture.Machine.Formatted` — what buffers are handed in and back with.

## Main results

* `VideoCapture.Seat.setup_of_enqueue` — what a buffer holds once an opener has handed it in.
* `VideoCapture.Machine.Operation.timely_of_not_setsFormat` — nothing but a change of format
  outdates buffers, as long as openers alone prepare them.
* `VideoCapture.Machine.current_of_perform` — timely operations outdate no buffer.
* `VideoCapture.Machine.formatted_of_run` — the formats of buffers that are handed in, in every run.
-/

set_option autoImplicit false

namespace VideoCapture

/-! ## Openers -/

namespace Seat

open CaptureQueue (Answer)

variable {δ : Type} [DmaBackend δ] {seat seat' : Seat δ} {now : Int} {i : Nat}

/-- A buffer that an opener has prepared is prepared for its format. -/
lemma geometry_of_prepare {setup : Setup} (h : seat.prepare i = .ok (.ok (), seat'))
    (hsetup : seat'.channel.setupOf i = some setup) :
    setup.geometry = seat.opener.geometry := by
  obtain ⟨-, hresult, -⟩ | ⟨-, channel, hact, rfl⟩ := ifHolding_cases h
  · cases hresult
  · unfold CaptureQueue.handle at hact
    by_cases hi : i < seat.channel.buffers.length
    · rw [if_pos hi] at hact
      exact Channel.geometry_of_prepare hact hsetup
    · rw [if_neg hi] at hact
      cases (Prod.mk.inj (pure_eq_ok.mp hact)).1

/-- **A buffer that an opener has handed in holds what it was prepared for**: the same as before if
it was prepared, and the format of the opener otherwise. -/
theorem setup_of_enqueue (hc : seat.channel.Furnished)
    (h : seat.enqueue now i = .ok (.ok (), seat')) :
    ∃ setup, seat'.channel.setupOf i = some setup ∧
      (seat.channel.stateOf i = some .prepared ∧ (∃ before, seat.channel.setupOf i = some before ∧
          setup.untied = before.untied) ∨
        seat.channel.stateOf i ≠ some .prepared ∧ setup.geometry = seat.opener.geometry) := by
  obtain ⟨-, hresult, -⟩ | ⟨-, hprepared, channel, henqueue, rfl⟩ | ⟨-, -, error, -, hresult⟩ |
    ⟨-, hnot, seat₁, channel, hprepare, henqueue, rfl⟩ := enqueue_cases h
  · cases hresult
  · obtain ⟨-, before, after, hbefore, hafter, huntied⟩ := Channel.setup_of_enqueue hc henqueue
    exact ⟨after, hafter, .inl ⟨hprepared, before, hbefore, huntied⟩⟩
  · cases hresult
  · obtain ⟨channel₁, hleads, rfl⟩ := leads_of_prepare hprepare
    have hc₁ : channel₁.Furnished := hleads.keeps (P := fun c => c.Furnished) hc
      fun _ _ _ _ _ hc hone => Channel.furnished_of_perform hc hone
    obtain ⟨-, before, after, hbefore, hafter, huntied⟩ := Channel.setup_of_enqueue hc₁ henqueue
    have hgeometry := geometry_of_prepare hprepare hbefore
    exact ⟨after, hafter, .inr ⟨hnot, (congrArg Setup.geometry huntied :).trans hgeometry⟩⟩

omit [DmaBackend δ] in
/-- A captured frame that an opener takes has as many bytes as the geometry of its buffer says. -/
lemma bytesUsed_of_dequeue {frame : Frame} (h : seat.dequeue = .ok (.ok frame, seat'))
    (hdone : frame.state = .done) : ∃ setup, seat'.channel.setupOf frame.index = some setup ∧
      frame.bytesUsed = setup.geometry.imageBytes := by
  obtain ⟨-, hresult, -⟩ | ⟨-, channel, hdequeue, rfl⟩ := ifHolding_cases h
  · cases hresult
  · exact Channel.bytesUsed_of_dequeue hdequeue hdone

/-- **So has any captured frame that an opener is answered.**

**Proof sketch.** Only two operations answer with a frame, and both take it from the queue. -/
theorem bytesUsed_of_perform {operation : Operation} {frame : Frame}
    (h : seat.perform operation = .ok (.frame frame, seat')) (hdone : frame.state = .done) :
    ∃ setup, seat'.channel.setupOf frame.index = some setup ∧
      frame.bytesUsed = setup.geometry.imageBytes := by
  have hnever : ∀ {α : Type} {result : Except Error α},
      Answer.frame frame ≠ .of (fun _ => .done) result := by
    intro α result
    cases result <;> nofun
  have htaken : ∀ {result : Except Error Frame}, Answer.frame frame = .of .frame result →
      result = .ok frame := by
    intro result hanswer
    cases result with
    | ok taken => exact congrArg Except.ok (Answer.frame.inj hanswer).symm
    | error _ => cases hanswer
  cases operation with
  | dequeue =>
    obtain ⟨result, hdequeue, hanswer⟩ := exists_result h
    obtain rfl := htaken hanswer
    exact bytesUsed_of_dequeue hdequeue hdone
  | await =>
    obtain ⟨result, hawait, hanswer⟩ := exists_result h
    obtain rfl := htaken hanswer
    obtain ⟨first, seat₁, hdequeue, ⟨rfl, rfl⟩ | ⟨_, _, _, -, hagain⟩⟩ := await_cases hawait
    · exact bytesUsed_of_dequeue hdequeue hdone
    · exact bytesUsed_of_dequeue hagain hdone
  | setFormat _ | request _ | prepare _ | enqueue _ _ | streamOn _ | streamOff =>
    obtain ⟨result, -, hanswer⟩ := exists_result h
    exact absurd hanswer hnever

end Seat

namespace Machine

open CaptureQueue (Answer)

variable {δ : Type} [DmaBackend δ] {s s' : Machine δ} {number i : Nat} {now : Int}
  {entry : OpenDevice} {device : Device}

/-! ## Handing buffers in and back -/

/-- A buffer of the device that an opener has opened is prepared, for another format than the opener
has. -/
def Outdated (s : Machine δ) (number i : Nat) : Prop :=
  ∃ entry device setup, s.opener? number = some entry ∧ s.device? entry.device = some device ∧
    device.queue.stateOf i = some .prepared ∧ device.queue.setupOf i = some setup ∧
    setup.geometry ≠ entry.opener.geometry

omit [DmaBackend δ] in
/-- Whether a buffer is outdated shows in the queue of its device. -/
lemma outdated_iff (hentry : s.opener? number = some entry)
    (hdevice : s.device? entry.device = some device) : s.Outdated number i ↔
      device.queue.stateOf i = some .prepared ∧ ∃ setup, device.queue.setupOf i = some setup ∧
        setup.geometry ≠ entry.opener.geometry := by
  constructor
  · rintro ⟨_, _, setup, hentry', hdevice', hprepared, hsetup, hother⟩
    obtain rfl := Option.some.inj (hentry.symm.trans hentry')
    obtain rfl := Option.some.inj (hdevice.symm.trans hdevice')
    exact ⟨hprepared, setup, hsetup, hother⟩
  · rintro ⟨hprepared, setup, hsetup, hother⟩
    exact ⟨entry, device, setup, hentry, hdevice, hprepared, hsetup, hother⟩

/-- What is true of the buffers of all devices. -/
def Furnished (s : Machine δ) : Prop :=
  ∀ n device, s.device? n = some device → device.queue.Furnished

/-- Whatever is done with the machine, all devices stay furnished. -/
lemma furnished_of_perform {operation : Operation} (hs : s.Furnished)
    (h : s.perform operation = .ok s') : s'.Furnished :=
  queue_of_perform Channel.furnished_of_create Channel.furnished_of_perform hs h

/-- **What is true of buffers is true of those of all devices**, whatever has happened. -/
theorem furnished_of_run {dma : δ} {admits : Machine δ → Operation → Prop}
    (h : Run admits (vacant dma) s) : s.Furnished :=
  queue_of_run Channel.furnished_of_create Channel.furnished_of_perform h

/-- **A buffer that an opener hands in has the format of the opener**, unless it is outdated.

**Proof sketch.** Handing a buffer in prepares it for the opener unless it was prepared before. In
the first case its format is that of the opener. In the second it has the format that it was
prepared for, which is another one just if the buffer is outdated. -/
theorem exists_setup_of_ask (hs : s.Furnished)
    (h : s.ask number (.enqueue now i) = .ok (some .done, s')) :
    ∃ entry after setup, s.opener? number = some entry ∧ s'.device? entry.device = some after ∧
      after.queue.setupOf i = some setup ∧
      (setup.geometry = entry.opener.geometry ↔ ¬s.Outdated number i) := by
  obtain ⟨-, hnone, -⟩ | ⟨seat, seat', given, hseat, hperform, hgiven, rfl⟩ := ask_cases h
  · cases hnone
  · obtain rfl := Option.some.inj hgiven
    obtain ⟨result, henqueue, hresult⟩ := Seat.exists_result hperform
    obtain ⟨⟨⟩, rfl⟩ := CaptureQueue.Answer.exists_ok_of_done hresult.symm
    obtain ⟨entry, device, chip, hentry, hdevice, -, rfl⟩ := seat?_eq_some.mp hseat
    obtain ⟨setup, hsetup, hcase⟩ := Seat.setup_of_enqueue (hs _ _ hdevice) henqueue
    refine ⟨entry, _, setup, hentry, (device?_setSeat hentry hdevice seat' _).trans (if_pos rfl),
      hsetup, ?_⟩
    rw [outdated_iff hentry hdevice]
    obtain ⟨hprepared, before, hbefore, huntied⟩ | ⟨hnot, hgeometry⟩ := hcase
    · have hgeometry : setup.geometry = before.geometry := (congrArg Setup.geometry huntied :)
      rw [hgeometry]
      constructor
      · rintro hsame ⟨-, other, hother, hne⟩
        obtain rfl := Option.some.inj (hbefore.symm.trans hother)
        exact hne hsame
      · exact fun hcurrent => Decidable.byContradiction fun hne =>
          hcurrent ⟨hprepared, before, hbefore, hne⟩
    · exact iff_of_true hgeometry fun houtdated => hnot houtdated.1

/-- A captured frame has as many bytes as the geometry of its buffer says. -/
lemma exists_bytesUsed_of_ask {wish : Seat.Operation} {frame : Frame}
    (h : s.ask number wish = .ok (some (.frame frame), s')) (hdone : frame.state = .done) :
    ∃ entry after setup, s.opener? number = some entry ∧ s'.device? entry.device = some after ∧
      after.queue.setupOf frame.index = some setup ∧
      frame.bytesUsed = setup.geometry.imageBytes := by
  obtain ⟨-, hnone, -⟩ | ⟨seat, seat', given, hseat, hperform, hgiven, rfl⟩ := ask_cases h
  · cases hnone
  · obtain rfl := Option.some.inj hgiven
    obtain ⟨entry, device, chip, hentry, hdevice, -, rfl⟩ := seat?_eq_some.mp hseat
    obtain ⟨setup, hsetup, hbytes⟩ := Seat.bytesUsed_of_perform hperform hdone
    exact ⟨entry, _, setup, hentry, (device?_setSeat hentry hdevice seat' _).trans (if_pos rfl),
      hsetup, hbytes⟩

/-! ## Changes of format -/

/-- An opener that may capture with a device has a format, whatever norm is in force. -/
def Captures (s : Machine δ) (n : Nat) (geometry : Geometry) (_ : Norm) : Prop :=
  ∃ number entry, s.opener? number = some entry ∧ entry.device = n ∧
    entry.opener.holds = true ∧ entry.opener.geometry = geometry

/-- Prepared buffers are prepared for the format of an opener that may capture. -/
def Current (s : Machine δ) : Prop :=
  ∀ n device, s.device? n = some device → device.queue.ReadyFor (s.Captures n)

/-- An operation outdates no buffer. -/
structure Operation.Timely (s : Machine δ) (operation : Operation) : Prop where
  /-- Buffers are prepared by openers only. -/
  asked : ∀ n i geometry norm, operation ≠ .work n (.prepare i geometry norm)
  /-- Openers that may capture keep their format while a buffer is prepared. -/
  keeps : ∀ s' number entry after device i, s.perform operation = .ok s' →
    s.opener? number = some entry → s'.opener? number = some after →
    entry.opener.holds = true → s.device? entry.device = some device →
    device.queue.stateOf i = some .prepared → after.opener.geometry = entry.opener.geometry

/-- Nothing but a change of format outdates buffers, as long as openers alone prepare them. -/
lemma Operation.timely_of_not_setsFormat {operation : Operation}
    (hasked : ∀ n i geometry norm, operation ≠ .work n (.prepare i geometry norm))
    (hformat : ¬operation.SetsFormat) : operation.Timely s := by
  refine ⟨hasked, fun s' number entry after device i hperform hentry hafter hholds _ _ => ?_⟩
  have hevolves := evolves_of_perform (operation.preparesFor_true s) hperform
  obtain ⟨-, -, hsame⟩ := (hevolves.openers number entry hentry hholds).opener after hafter
  exact hsame.resolve_right fun hchanges => hformat hchanges.1

/-- If an operation is timely, buffers are prepared for the formats of openers that may capture. -/
lemma Operation.Timely.preparesFor {operation : Operation} (h : operation.Timely s) :
    operation.PreparesFor s s.Captures := by
  cases operation with
  | ask number wish =>
    rintro entry seat geometry norm hentry hseat ⟨hholds, hgeometry, -⟩
    obtain ⟨_, device, chip, hentry', -, -, rfl⟩ := seat?_eq_some.mp hseat
    obtain rfl := Option.some.inj (hentry.symm.trans hentry')
    exact ⟨number, entry, hentry, rfl, hholds, hgeometry.symm⟩
  | work number task =>
    cases task with
    | prepare i geometry norm => exact absurd rfl (h.asked number i geometry norm)
    | _ => exact trivial
  | _ => exact trivial

/-- **Timely operations outdate no buffer.**

**Proof sketch.** Prepared buffers stay prepared for what some opener with the right to capture
wants. The opener of such a buffer still has its right, or is gone together with the prepared
buffers; and if it has changed its format there was no prepared buffer. -/
theorem current_of_perform {operation : Operation} (hs : s.Current) (hfurnished : s.Furnished)
    (htimely : operation.Timely s) (h : s.perform operation = .ok s') : s'.Current := by
  have hevolves := evolves_of_perform htimely.preparesFor h
  intro n after hafter
  obtain ⟨-, hready⟩ := (hevolves.queues n after hafter).keeps
    (P := fun q => q.Furnished ∧ q.ReadyFor (s.Captures n))
    (fun hcreate => ⟨Channel.furnished_of_create hcreate, Channel.readyFor_of_create hcreate⟩)
    (fun device hdevice => ⟨hfurnished n device hdevice, hs n device hdevice⟩)
    fun hprepares hc hone => ⟨Channel.furnished_of_perform hc.1 hone,
      Channel.responding_readyFor.of_perform hone hprepares hc.1.equipped hc.2⟩
  intro i setup hprepared hsetup
  obtain ⟨number, entry, hentry, rfl, hholds, hgeometry⟩ := hready i setup hprepared hsetup
  have hremains := hevolves.openers number entry hentry hholds
  cases hopener : s'.opener? number with
  | none =>
    rw [CaptureQueue.stateOf, hremains.gone hopener after hafter] at hprepared
    cases hprepared
  | some later =>
    obtain ⟨hsame, hkept, hformat⟩ := hremains.opener later hopener
    refine ⟨number, later, hopener, hsame, hkept, ?_⟩
    obtain hformat | hqueue := hformat
    · exact hformat.trans hgeometry
    · -- the format changes, and the buffer was prepared already
      obtain ⟨device, hdevice, hqueue⟩ := hqueue.2 after hafter
      rw [hqueue] at hprepared
      have hformat :=
        htimely.keeps s' number entry later device i h hentry hopener hholds hdevice hprepared
      exact hformat.trans hgeometry

omit [DmaBackend δ] in
/-- As long as prepared buffers are prepared for the format of an opener that may capture, they are
prepared for the format of the only one. -/
lemma Current.not_outdated (hs : s.Current) (horderly : s.Orderly)
    (hentry : s.opener? number = some entry) (hholds : entry.opener.holds = true) (i : Nat) :
    ¬s.Outdated number i := by
  obtain ⟨device, hdevice⟩ := horderly.openers number entry hentry
  rw [outdated_iff hentry hdevice]
  rintro ⟨hprepared, setup, hsetup, hne⟩
  obtain ⟨j, other, hother, hsame, hholds', hgeometry⟩ := hs _ _ hdevice i setup hprepared hsetup
  have hheld : s.held? number = some device.chip := by
    rw [held?_of_opener? hentry hdevice, if_pos hholds]
  have hheld' : s.held? j = some device.chip := by
    rw [held?_of_opener? hother (hsame ▸ hdevice), if_pos hholds']
  obtain rfl := horderly.unique hheld' hheld
  obtain rfl := Option.some.inj (hother.symm.trans hentry)
  exact hne hgeometry.symm

/-! ## Runs -/

/-- What buffers are handed in and back with. -/
structure Formatted (s : Machine δ) : Prop where
  /-- A buffer that an opener hands in holds the program for its geometry, which is the format of
  the opener if and only if the buffer was not outdated. -/
  handed : ∀ number now i s', s.ask number (.enqueue now i) = .ok (some .done, s') →
    ∃ entry after setup, s.opener? number = some entry ∧ s'.device? entry.device = some after ∧
      after.queue.setupOf i = some setup ∧ setup.Faithful after.queue.lineOffset ∧
      (setup.geometry = entry.opener.geometry ↔ ¬s.Outdated number i)
  /-- While capture is off nothing keeps a buffer out that is outdated. -/
  exposed : ∀ number entry device now i, s.opener? number = some entry →
    s.device? entry.device = some device → device.queue.streaming = false →
    s.Outdated number i → i ∉ device.queue.stream →
      ∃ s', s.ask number (.enqueue now i) = .ok (some .done, s')
  /-- A captured frame has as many bytes as the geometry of its buffer says. -/
  delivered : ∀ number wish frame s', s.ask number wish = .ok (some (.frame frame), s') →
    frame.state = .done →
    ∃ entry after setup, s.opener? number = some entry ∧ s'.device? entry.device = some after ∧
      after.queue.setupOf frame.index = some setup ∧
      frame.bytesUsed = setup.geometry.imageBytes

/-- An opener prepares a buffer for the format that it has. -/
def framedOperations : List Operation :=
  [.probe { bus := 0, slot := 9, vendor := 0, device := 0 } 0 {}, .openDevice 0,
    .ask 0 (.request 1), .ask 0 (.prepare 0)]

/-- No format changes then. -/
lemma timely_of_mem_framedOperations {operation : Operation} (h : operation ∈ framedOperations)
    (s : Machine δ) : operation.Timely s := by
  refine Operation.timely_of_not_setsFormat ?_ ?_
  · rintro n i geometry norm rfl
    simp [framedOperations] at h
  · rintro ⟨number, request, rfl⟩
    simp [framedOperations] at h

/-- An opener prepares a buffer for frames of 96 by 32 and then takes a format of 48 by 32. -/
def resizedOperations : List Operation :=
  [.probe { bus := 0, slot := 9, vendor := 0, device := 0 } 0 {}, .openDevice 0,
    .ask 0 (.setFormat
      { width := 96, height := 32, code := PixelFormat.initial.code, field := .bottom }),
    .ask 0 (.request 1), .ask 0 (.prepare 0),
    .ask 0 (.setFormat
      { width := 48, height := 32, code := PixelFormat.initial.code, field := .bottom })]

/-- **The format of a buffer that is handed in is that of the opener, unless it was prepared for
another one**, whatever has happened to the machine before. None is, with an opener that may
capture, if such openers have changed their format only while no buffer was prepared.

**Proof sketch.** Buffers of all devices are furnished in every run, so what a buffer handed in has
is known from that one step. If operations are timely no buffer is ever outdated, by induction on
the run. -/
theorem formatted_of_run {dma : δ} (h : Run (fun _ _ => True) (vacant dma) s) :
    s.Formatted ∧ (Run (fun s operation => operation.Timely s) (vacant dma) s →
      ∀ number entry i, s.opener? number = some entry → entry.opener.holds = true →
        ¬s.Outdated number i) := by
  have hfurnished := furnished_of_run h
  have horderly := orderly_of_run h (orderly_vacant dma)
  refine ⟨⟨fun number now i s' hask => ?_, fun number entry device now i hentry hdevice hoff hout
    hstream => ?_, fun _ _ _ _ hask hdone => exists_bytesUsed_of_ask hask hdone⟩, fun htimely => ?_⟩
  · obtain ⟨entry, after, setup, hentry, hafter, hsetup, hformat⟩ :=
      exists_setup_of_ask hfurnished hask
    have hperform : s.perform (.ask number (.enqueue now i)) = .ok s' :=
      bind_eq_ok.mpr ⟨_, hask, rfl⟩
    have hafterwards := furnished_of_run (h.step trivial hperform) _ _ hafter
    obtain ⟨buffer, hbuffer, hheld⟩ := Option.bind_eq_some_iff.mp hsetup
    exact ⟨entry, after, setup, hentry, hafter, hsetup,
      hafterwards.faithful buffer (List.mem_of_getElem? hbuffer) setup hheld, hformat⟩
  · have hprepared := ((outdated_iff hentry hdevice).mp hout).1
    exact horderly.exists_ask_of_slipsIn hentry hdevice hoff ⟨hprepared, hstream⟩
  · have hcurrent : s.Current := by
      have hboth := htimely.keeps (P := fun s => s.Furnished ∧ s.Current)
        ⟨fun _ _ => nofun, fun _ _ => nofun⟩ fun s₁ s₂ operation hs hone hperform =>
          ⟨furnished_of_perform hs.1 hperform, current_of_perform hs.2 hs.1 hone hperform⟩
      exact hboth.2
    exact fun number entry i hentry hholds => hcurrent.not_outdated horderly hentry hholds i

/-- No format changes in the first of two runs, and the buffer that is prepared is not outdated. In
the second one a buffer that was prepared for frames of 96 by 32 is handed in for frames of 48 by
32. -/
theorem formatted_of_run_resized :
    (∃ s : Machine HostDma, ∃ entry device,
      Run (fun s operation => operation.Timely s) (vacant HostDma.create) s ∧
        s.opener? 0 = some entry ∧ entry.opener.holds = true ∧
        s.device? entry.device = some device ∧ device.queue.stateOf 0 = some .prepared ∧
        ¬s.Outdated 0 0) ∧
    ∃ s s' : Machine HostDma, ∃ entry after setup,
      Run (fun _ _ => True) (vacant HostDma.create) s ∧ s.Formatted ∧
        s.opener? 0 = some entry ∧ entry.opener.holds = true ∧
        s.ask 0 (.enqueue 0 0) = .ok (some .done, s') ∧ s'.device? entry.device = some after ∧
        after.queue.setupOf 0 = some setup ∧ setup.geometry ≠ entry.opener.geometry := by
  constructor
  · obtain ⟨s, hrun, ⟨entry, hopener, hnumber, hholds⟩, device, hdevice, hprepared⟩ :
      ∃ s ∈ ((vacant HostDma.create).performAll framedOperations).toOption,
        (∃ entry ∈ s.opener? 0, entry.device = 0 ∧ entry.opener.holds = true) ∧
        ∃ device ∈ s.device? 0, device.queue.stateOf 0 = some .prepared := by decide +kernel
    have htimely : Run (fun s operation => operation.Timely s) (vacant HostDma.create) s :=
      run_of_performAll (fun _ => timely_of_mem_framedOperations) (toOption_eq_some.mp hrun)
    have hreach : Run (fun _ _ => True) (vacant HostDma.create) s :=
      htimely.mono fun _ _ _ => trivial
    exact ⟨s, entry, device, htimely, hopener, hholds, hnumber ▸ hdevice, hprepared,
      (formatted_of_run hreach).2 htimely 0 entry 0 hopener hholds⟩
  · obtain ⟨s, hrun, ⟨entry, hopener, hnumber, hholds, hformat⟩,
        d, hd, hoff, hstream, hprepared, before, hbefore, hwidth⟩ :
      ∃ s ∈ ((vacant HostDma.create).performAll resizedOperations).toOption,
        (∃ entry ∈ s.opener? 0, entry.device = 0 ∧ entry.opener.holds = true ∧
          entry.opener.geometry.width = 48) ∧
        ∃ d ∈ s.device? 0, d.queue.streaming = false ∧ d.queue.stream = [] ∧
          d.queue.stateOf 0 = some .prepared ∧
          ∃ before ∈ d.queue.setupOf 0, before.geometry.width = 96 := by decide +kernel
    have hreach : Run (fun _ _ => True) (vacant HostDma.create) s :=
      run_of_performAll (fun _ _ _ => trivial) (toOption_eq_some.mp hrun)
    have hdevice : s.device? entry.device = some d := hnumber ▸ hd
    have hother : before.geometry ≠ entry.opener.geometry := by
      intro hsame
      rw [hsame, hformat] at hwidth
      cases hwidth
    have houtdated : s.Outdated 0 0 :=
      (outdated_iff hopener hdevice).mpr ⟨hprepared, before, hbefore, hother⟩
    have hformatted := (formatted_of_run hreach).1
    obtain ⟨s', hask⟩ := hformatted.exposed 0 entry d 0 0 hopener hdevice hoff houtdated
      (hstream ▸ List.not_mem_nil)
    obtain ⟨entry', after, setup, hopener', hafter, hsetup, -, hiff⟩ :=
      hformatted.handed 0 0 0 s' hask
    obtain rfl := Option.some.inj (hopener.symm.trans hopener')
    exact ⟨s, s', entry, after, setup, hreach, hformatted, hopener, hholds, hask, hafter, hsetup,
      fun hsame => hiff.mp hsame houtdated⟩

end Machine

end VideoCapture
