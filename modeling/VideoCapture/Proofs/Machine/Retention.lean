import VideoCapture.Proofs.Machine.Allotment
import VideoCapture.Proofs.Machine.Outsiders

/-!
# What a refusal leaves behind

A request for buffers and the start of capture take the right to capture first, and find out
afterwards whether they can go on. If they cannot, they are refused, but what they have taken is not
given back. So an opener that takes the right only to be refused has it from then on, and until it
is closed everybody else who wants to capture with the chip is turned away.

Rights stay as they are in a refusal if and only if the right was not free before.

## Main definitions

* `VideoCapture.Seat.Operation.Claims` — operations that take the right to capture first.
* `VideoCapture.Seat.Refuses` — what they are refused for once they have it.
* `VideoCapture.Machine.Free` — nobody has the right to capture with a chip.
* `VideoCapture.Machine.Stays` — devices keep their chips, and an opener does not go.
* `VideoCapture.Machine.Retains` — what becomes of the right when an opener is refused.

## Main results

* `VideoCapture.Seat.perform_eq_refused_iff` — when such an operation is refused, and what is left.
* `VideoCapture.Machine.held?_of_run` — an opener has its right until it is closed.
* `VideoCapture.Machine.retained_of_run` — who has the right after a refusal, and who is kept out.
-/

set_option autoImplicit false

namespace VideoCapture

open CaptureQueue (Answer)

/-- An operation that can only be done or refused is refused for its error. -/
lemma CaptureQueue.Answer.of_eq_refused_iff {α : Type} {result : Except Error α} {error : Error} :
    of (fun _ => done) result = refused error ↔ result = .error error := by
  cases result with
  | ok _ => exact iff_of_false nofun nofun
  | error other => exact ⟨fun h => congrArg _ (refused.inj h), fun h => by rw [h]; rfl⟩

namespace Seat

variable {δ : Type} [DmaBackend δ] {seat seat' : Seat δ} {wish : Operation} {error : Error}

/-! ## Refusals -/

/-- An operation takes the right to capture before anything else. -/
def Operation.Claims : Operation → Prop
  | .request _ | .streamOn _ => True
  | _ => False

/-- What such an operation is refused for although the opener has the right: the memory of the
opener, if it can be told, has no room for an image, or the queue captures already. -/
def Refuses (seat : Seat δ) : Operation → Error → Prop
  | .request _, error => seat.memoryBytes < bound64 ∧
    ((error = .outOfMemory ∧ seat.memoryBytes < seat.opener.geometry.imageBytes) ∨
      (error = .busy ∧ seat.opener.geometry.imageBytes ≤ seat.memoryBytes ∧
        seat.channel.streaming = true))
  | .streamOn _, error =>
    error = .busy ∧ seat.channel.streaming = true ∧ seat.channel.fault = none
  | _, _ => False

/-- A request that has taken the right leaves it taken when it is refused.

**Proof sketch.** With the right taken, a request is refused where not even one image fits, or by
the queue while it captures; and nothing changes besides. -/
lemma request_eq_error_iff {seat₁ : Seat δ} {count : Nat} (hclaim : seat.claim = .ok seat₁) :
    seat.request count = .ok (.error error, seat') ↔
      seat' = seat₁ ∧ seat.Refuses (.request count) error := by
  have hnone : seat₁.granted count = 0 ↔ seat.memoryBytes < seat.opener.geometry.imageBytes :=
    (granted_of_claim hclaim count).symm ▸ granted_eq_zero_iff
  constructor
  · intro h
    obtain ⟨_, herror, -⟩ | ⟨_, hclaimed, hnarrow, hcase⟩ := request_cases h
    · cases herror.symm.trans hclaim
    · obtain rfl := Except.ok.inj (hclaim.symm.trans hclaimed)
      rw [memoryBytes_of_claim hclaim] at hnarrow
      obtain ⟨hzero, hrefused, rfl⟩ | ⟨hsome, hact⟩ := hcase
      · exact ⟨rfl, hnarrow, .inl ⟨Except.error.inj hrefused, hnone.mp hzero⟩⟩
      · obtain ⟨hno, -⟩ | ⟨-, c, hrequested, rfl⟩ := ifHolding_cases hact
        · cases hno.symm.trans (holds_of_claim hclaim)
        · obtain ⟨hon, hrefused, rfl⟩ | ⟨-, _, _, -, hgranted, -⟩ :=
            Channel.requestBuffers_cases hrequested
          · exact ⟨rfl, hnarrow, .inr ⟨Except.error.inj hrefused,
              Nat.le_of_not_lt (mt hnone.mpr hsome), channel_of_claim hclaim ▸ hon⟩⟩
          · cases hgranted
  · rintro ⟨rfl, hnarrow, hcase⟩
    rw [← memoryBytes_of_claim hclaim, ← Nat.not_le] at hnarrow
    rw [request_of_claim hclaim, if_neg hnarrow]
    obtain ⟨rfl, hshort⟩ | ⟨rfl, hroom, hon⟩ := hcase
    · exact if_pos (hnone.mpr hshort)
    · have hbusy : seat'.channel.requestBuffers (seat'.granted count)
          (wholePages seat'.opener.geometry.imageBytes) = .ok (.error .busy, seat'.channel) := by
        rw [Channel.requestBuffers, channel_of_claim hclaim, hon]
        rfl
      rw [if_neg (mt hnone.mp (Nat.not_lt_of_le hroom))]
      exact ifHolding_of_holds (holds_of_claim hclaim) hbusy

omit [DmaBackend δ] in
/-- So does the start of capture.

**Proof sketch.** Once the right is held the only error is that of a queue that captures already and
has no fault, which it is told before anything is done. -/
lemma streamOn_eq_error_iff {seat₁ : Seat δ} {now : Int} (hclaim : seat.claim = .ok seat₁) :
    seat.streamOn now = .ok (.error error, seat') ↔
      seat' = seat₁ ∧ seat.Refuses (.streamOn now) error := by
  constructor
  · intro h
    obtain ⟨_, herror, -⟩ | ⟨_, hclaimed, hact⟩ := streamOn_cases h
    · cases herror.symm.trans hclaim
    · obtain rfl := Except.ok.inj (hclaim.symm.trans hclaimed)
      obtain ⟨hno, -⟩ | ⟨-, c, hstarted, rfl⟩ := ifHolding_cases hact
      · cases hno.symm.trans (holds_of_claim hclaim)
      · obtain ⟨hon, hfault, hrefused, rfl⟩ | ⟨-, -, hdone, -⟩ | ⟨-, hdone, -⟩ :=
          Channel.streamOn_cases hstarted
        · rw [channel_of_claim hclaim] at hon hfault
          exact ⟨rfl, Except.error.inj hrefused, hon, hfault⟩
        · cases hdone
        · cases hdone
  · rintro ⟨rfl, rfl, hon, hfault⟩
    have hbusy : seat'.channel.streamOn now = .ok (.error .busy, seat'.channel) := by
      rw [Channel.streamOn, channel_of_claim hclaim, hon, hfault]
      rfl
    rw [streamOn, hclaim]
    exact ifHolding_of_holds (holds_of_claim hclaim) hbusy

omit [DmaBackend δ] in
/-- What takes the right first is refused if the right cannot be taken, or for what comes then.

**Proof sketch.** Claiming fails just if the opener is barred, and then it answers that the device
is busy and changes nothing. -/
lemma eq_error_iff_of_claim {α : Type} {x : Except Fault (Except Error α × Seat δ)} {refuses : Prop}
    (herror : ∀ error, seat.claim = .error error → x = .ok (.error error, seat))
    (hok : ∀ seat₁, seat.claim = .ok seat₁ →
      (x = .ok (.error error, seat') ↔ seat' = seat₁ ∧ refuses)) :
    x = .ok (.error error, seat') ↔
      (seat.Barred ∧ error = .busy ∧ seat' = seat) ∨ (seat.claim = .ok seat' ∧ refuses) := by
  cases hclaim : seat.claim with
  | error reason =>
    obtain ⟨rfl, hbarred⟩ := barred_of_claim hclaim
    rw [herror _ hclaim]
    constructor
    · intro h
      obtain ⟨hreason, rfl⟩ := Prod.mk.inj (Except.ok.inj h)
      exact .inl ⟨hbarred, (Except.error.inj hreason).symm, rfl⟩
    · rintro (⟨-, rfl, rfl⟩ | ⟨htaken, -⟩)
      · rfl
      · cases htaken
  | ok seat₁ =>
    rw [hok seat₁ hclaim]
    constructor
    · rintro ⟨rfl, hrefuses⟩
      exact .inr ⟨rfl, hrefuses⟩
    · rintro (⟨hbarred, -⟩ | ⟨htaken, hrefuses⟩)
      · cases hbarred.claim_eq.symm.trans hclaim
      · exact ⟨(Except.ok.inj htaken).symm, hrefuses⟩

omit [DmaBackend δ] in
/-- Putting an outcome into words leaves what was refused. -/
lemma words_eq_refused_iff {α : Type} {x : Except Fault (Except Error α × Seat δ)} :
    (do let (result, seat) ← x; return (Answer.of (fun _ => .done) result, seat)) =
      .ok (.refused error, seat') ↔ x = .ok (.error error, seat') := by
  constructor
  · intro h
    obtain ⟨result, hx, hwords⟩ := exists_result h
    obtain rfl := Answer.of_eq_refused_iff.mp hwords.symm
    exact hx
  · intro hx
    exact bind_eq_ok.mpr ⟨_, hx, rfl⟩

/-- **An operation that takes the right first is refused** to an opener that cannot take it, which
changes nothing, or once the right is taken, and then it stays so. -/
theorem perform_eq_refused_iff (hclaims : wish.Claims) :
    seat.perform wish = .ok (.refused error, seat') ↔
      (seat.Barred ∧ error = .busy ∧ seat' = seat) ∨
        (seat.claim = .ok seat' ∧ seat.Refuses wish error) := by
  cases wish with
  | request count =>
    refine words_eq_refused_iff.trans (eq_error_iff_of_claim (fun _ herror => ?_)
      fun _ => request_eq_error_iff)
    rw [request, herror]
    rfl
  | streamOn now =>
    refine words_eq_refused_iff.trans (eq_error_iff_of_claim (fun _ herror => ?_)
      fun _ => streamOn_eq_error_iff)
    rw [streamOn, herror]
    rfl
  | _ => exact hclaims.elim

end Seat

namespace Machine

variable {δ : Type} {s s' : Machine δ} {number k : Nat} {entry : OpenDevice} {device : Device}
  {seat seat' : Seat δ} {wish : Seat.Operation} {error : Error}

/-! ## Rights -/

/-- Nobody has the right to capture with a chip. -/
def Free (s : Machine δ) (k : Nat) : Prop :=
  ∀ i, s.held? i ≠ some k

/-- Putting an opener back puts back whether it has the right to capture. -/
lemma held?_setSeat (hentry : s.opener? number = some entry)
    (hdevice : s.device? entry.device = some device) (seat : Seat δ) (i : Nat) :
    (s.setSeat number seat).held? i =
      if i = number then if seat.opener.holds then some device.chip else none else s.held? i := by
  refine Eq.trans (held?_congr ?_ (fun n entry' _ => ?_) i)
    (held?_set hentry hdevice seat.opener s.chips i)
  · rw [setSeat_eq hentry hdevice]
    rfl
  · rw [device?_setSeat hentry hdevice]
    split
    · next hn =>
      show _ = (s.device? entry'.device).map Device.chip
      rw [hn, hdevice]
      rfl
    · rfl

/-- An opener is without a right that another one has. -/
lemma Orderly.barred (h : s.Orderly) (hheld : s.held? number = some k) {i : Nat}
    (hi : i ≠ number) (hseat : s.seat? i = some seat) (hk : seat.chip.number = k) :
    seat.Barred := by
  obtain ⟨entry, device, chip, hentry, hdevice, hchip, rfl⟩ := seat?_eq_some.mp hseat
  obtain rfl : chip.number = k := hk
  have hnumber := h.numbered _ chip hchip
  refine ⟨eq_false_of_ne_true fun hholds => hi ?_, ?_⟩
  · exact h.unique
      (held?_eq_some.mpr ⟨entry, device, hentry, hdevice, hholds, hnumber.symm⟩) hheld
  · exact (h.taken _ chip hchip).mpr ⟨number, hnumber ▸ hheld⟩

/-- The right of a chip is noted as free if and only if nobody has it. -/
lemma Orderly.free_iff (h : s.Orderly) (hseat : s.seat? number = some seat) :
    s.Free seat.chip.number ↔ seat.chip.claimed = false := by
  obtain ⟨entry, device, chip, -, -, hchip, rfl⟩ := seat?_eq_some.mp hseat
  have hnumber := h.numbered _ chip hchip
  show s.Free chip.number ↔ chip.claimed = false
  rw [Free, hnumber, ← not_exists, ← h.taken _ chip hchip, Bool.not_eq_true]

/-! ## What stays -/

/-- Devices keep their chips, and an opener does not go. -/
structure Stays (s s' : Machine δ) (number : Nat) : Prop where
  /-- Devices keep their chips. -/
  chips : ∀ n device after, s.device? n = some device → s'.device? n = some after →
    after.chip = device.chip
  /-- The opener does not go. -/
  opener : s.opener? number ≠ none → s'.opener? number ≠ none

/-- Devices keep their chips if they stay or go, and openers that stay do not go. -/
lemma stays_of_subset (hopeners : s'.openers = s.openers)
    (hdevices : ∀ n after, s'.device? n = some after →
      ∃ device, s.device? n = some device ∧ after.chip = device.chip) : s.Stays s' number := by
  refine ⟨fun n device after hdevice hafter => ?_, fun hsome => ?_⟩
  · obtain ⟨before, hbefore, hchip⟩ := hdevices n after hafter
    obtain rfl := Option.some.inj (hdevice.symm.trans hbefore)
    exact hchip
  · rwa [opener?, hopeners]

/-- Where neither openers nor devices change, they all stay. -/
lemma stays_of_eq (hopeners : s'.openers = s.openers) (hdevices : s'.devices = s.devices) :
    s.Stays s' number :=
  stays_of_subset hopeners fun n after hafter => ⟨after, by rwa [device?, hdevices] at hafter, rfl⟩

/-- A queue that is put back stays with its chip. -/
lemma stays_setChannel {n : Nat} (hdevice : s.device? n = some device) (c : Channel δ) :
    s.Stays (s.setChannel n device c) number := by
  refine stays_of_subset rfl fun m after hafter => ?_
  rw [device?_setChannel hdevice] at hafter
  split at hafter
  · next hm => exact ⟨device, hm ▸ hdevice, (Option.some.inj hafter) ▸ rfl⟩
  · exact ⟨after, hafter, rfl⟩

/-- An opener that is put back stays, and so do the others. -/
lemma stays_setSeat {asker : Nat} (hentry : s.opener? asker = some entry)
    (hdevice : s.device? entry.device = some device) (seat : Seat δ) :
    s.Stays (s.setSeat asker seat) number := by
  refine ⟨fun n before after hbefore hafter => ?_, fun hsome => ?_⟩
  · rw [device?_setSeat hentry hdevice] at hafter
    split at hafter
    · next hn =>
      obtain rfl := Option.some.inj (hdevice.symm.trans (hn ▸ hbefore))
      exact (Option.some.inj hafter) ▸ rfl
    · obtain rfl := Option.some.inj (hbefore.symm.trans hafter)
      rfl
  · rw [opener?_setSeat hentry hdevice]
    split
    · exact nofun
    · exact hsome

variable [DmaBackend δ]

/-- What is brought up takes nothing away. -/
lemma stays_of_probe {location : Location} {file : Nat} {config : Config}
    {result : Except Error Nat} (h : s.probe location file config = .ok (result, s')) :
    s.Stays s' number := by
  obtain ⟨hopeners, hdevices | ⟨_, _, _, _, made, -, -, hdevices⟩⟩ := rest_probe h
  · exact stays_of_eq hopeners hdevices
  · refine ⟨fun n device after hdevice hafter => ?_, fun hsome => by rwa [opener?, hopeners]⟩
    rw [device?, hdevices, join_getElem?_concat,
      if_neg (Nat.ne_of_lt (lt_length_of_join hdevice))] at hafter
    obtain rfl := Option.some.inj (hdevice.symm.trans hafter)
    rfl

/-- An opener that is closed takes no other one with it. -/
lemma stays_of_close {closer : Nat} {closed : Bool} (h : s.close closer = .ok (closed, s'))
    (hne : number ≠ closer) : s.Stays s' number := by
  unfold Machine.close at h
  split at h
  · next entry seat hentry hseat =>
    obtain ⟨after, -, h⟩ := bind_eq_ok.mp h
    obtain ⟨s₁, hreap, h⟩ := bind_eq_ok.mp h
    obtain ⟨-, rfl⟩ := Prod.mk.inj (pure_eq_ok.mp h)
    obtain ⟨_, device, chip, hopener, hdevice, -, -⟩ := seat?_eq_some.mp hseat
    obtain rfl := Option.some.inj (hentry.symm.trans hopener)
    obtain ⟨hopeners, hdevices⟩ := rest_reap hreap
    refine ⟨fun n before later hbefore hlater => ?_, fun hsome => ?_⟩
    · have hput : s.Stays (s.setSeat closer after) number := stays_setSeat hentry hdevice after
      exact hput.chips n before later hbefore (hdevices n later hlater)
    · rw [opener?, hopeners]
      have hleft := (opener?_leave hentry hdevice after number).trans (if_neg hne)
      exact fun hnone => hsome (hleft.symm.trans hnone)
  · obtain ⟨-, rfl⟩ := Prod.mk.inj (pure_eq_ok.mp h)
    exact stays_of_eq rfl rfl

/-- **Devices keep their chips, and an opener does not go until it is closed**, whatever happens.

**Proof sketch.** One case for each operation. Entries of openers are removed by closing them only,
and no operation gives a device another chip. -/
theorem stays_of_perform {operation : Operation} (h : s.perform operation = .ok s')
    (hopen : operation ≠ .close number) : s.Stays s' number := by
  have hserved : ∀ {wanted : Geometry → Norm → Prop} {n : Nat}, s.Served wanted n s' →
      s.Stays s' number := by
    rintro wanted n (rfl | ⟨device, c, hdevice, -, rfl⟩)
    · exact stays_of_eq rfl rfl
    · exact stays_setChannel hdevice c
  cases operation with
  | get location file config =>
    obtain rfl := pure_eq_ok.mp h
    exact stays_of_eq (s.rest_get location file config).1 (s.rest_get location file config).2.1
  | put chip => exact stays_of_eq (rest_put h).1 (rest_put h).2.1
  | probe location file config =>
    obtain ⟨⟨result, _⟩, hprobe, heq⟩ := bind_eq_ok.mp h
    exact pure_eq_ok.mp heq ▸ stays_of_probe hprobe
  | drop device =>
    obtain ⟨⟨dropped, _⟩, hdrop, heq⟩ := bind_eq_ok.mp h
    obtain ⟨hopeners, hdevices⟩ := rest_drop hdrop
    refine pure_eq_ok.mp heq ▸ stays_of_subset hopeners fun n after hafter => ?_
    obtain ⟨before, hbefore, -, hchip⟩ := hdevices n after hafter
    exact ⟨before, hbefore, hchip⟩
  | openDevice device =>
    refine ⟨fun n before after hbefore hafter => ?_, fun hsome => ?_⟩
    · obtain rfl | ⟨_, _, -, -, rfl⟩ := letIn_cases h
      · obtain rfl := Option.some.inj (hbefore.symm.trans hafter)
        rfl
      · obtain rfl := Option.some.inj (hbefore.symm.trans hafter)
        rfl
    · obtain ⟨entry, hentry⟩ := Option.ne_none_iff_exists'.mp hsome
      rw [opener?_of_letIn h hentry]
      exact nofun
  | close closer =>
    obtain ⟨⟨closed, _⟩, hclose, heq⟩ := bind_eq_ok.mp h
    exact pure_eq_ok.mp heq ▸ stays_of_close hclose fun hsame => hopen (hsame ▸ rfl)
  | ask asker wish =>
    obtain ⟨⟨answer, _⟩, hask, heq⟩ := bind_eq_ok.mp h
    obtain rfl := pure_eq_ok.mp heq
    obtain ⟨-, -, rfl⟩ | ⟨seat, after, _, hseat, -, -, rfl⟩ := ask_cases hask
    · exact stays_of_eq rfl rfl
    · obtain ⟨entry, device, chip, hentry, hdevice, -, -⟩ := seat?_eq_some.mp hseat
      exact stays_setSeat hentry hdevice after
  | adjust chip setting =>
    obtain rfl := pure_eq_ok.mp h
    obtain heq | ⟨_, _, _, -, -, -, heq⟩ := adjust_cases s chip setting <;> rw [heq] <;>
      exact stays_of_eq rfl rfl
  | interrupt now device => exact hserved (served_of_interrupt (fun _ _ => True) h)
  | service device => exact hserved (served_of_service (fun _ _ => True) h)
  | work device task => exact hserved (served_of_work _ task.preparesFor_true h)
  | change file regs =>
    obtain rfl := pure_eq_ok.mp h
    exact stays_of_eq rfl rfl

/-- **An opener keeps its right until it is closed**, whatever happens. -/
theorem held?_of_perform {operation : Operation} (horderly : s.Orderly)
    (h : s.perform operation = .ok s') (hopen : operation ≠ .close number)
    (hheld : s.held? number = some k) : s'.held? number = some k := by
  obtain ⟨entry, device, hentry, hdevice, hholds, rfl⟩ := held?_eq_some.mp hheld
  have hstays := stays_of_perform h hopen
  obtain ⟨after, hafter⟩ := Option.ne_none_iff_exists'.mp (hstays.opener (hentry ▸ nofun))
  obtain ⟨hplace, hkept, -⟩ := (remains_of_perform h hentry hholds).opener after hafter
  obtain ⟨later, hlater⟩ := (orderly_of_perform horderly h).openers number after hafter
  exact held?_eq_some.mpr ⟨after, later, hafter, hlater, hkept,
    hstays.chips _ _ _ hdevice (hplace ▸ hlater)⟩

/-- So it does in a whole run. -/
theorem held?_of_run (h : Run (fun _ operation => operation ≠ .close number) s s')
    (horderly : s.Orderly) (hheld : s.held? number = some k) : s'.held? number = some k := by
  have hboth := h.keeps (P := fun s => s.Orderly ∧ s.held? number = some k) ⟨horderly, hheld⟩
    fun s₁ s₂ operation hs₁ hopen hperform =>
      ⟨orderly_of_perform hs₁.1 hperform, held?_of_perform hs₁.1 hperform hopen hs₁.2⟩
  exact hboth.2

/-! ## Refusals of openers -/

/-- What becomes of the right to capture when an opener asks for something that takes the right
first, and is refused. -/
structure Retains (s : Machine δ) (number : Nat) (seat : Seat δ) (wish : Seat.Operation) :
    Prop where
  /-- If the right is free, the opener is refused just for what it is refused for with the right. -/
  refused_iff : s.Free seat.chip.number → ∀ error,
    (∃ s', s.ask number wish = .ok (some (.refused error), s')) ↔ seat.Refuses wish error
  /-- All have the rights that they had if and only if this one was not free. -/
  unchanged_iff : ∀ error s', s.ask number wish = .ok (some (.refused error), s') →
    ((∀ i, s'.held? i = s.held? i) ↔ ¬s.Free seat.chip.number)
  /-- If it was free, the opener has it now, and all others have the rights that they had. -/
  taken : s.Free seat.chip.number → ∀ error s',
    s.ask number wish = .ok (some (.refused error), s') →
    ∀ i, s'.held? i = if i = number then some seat.chip.number else s.held? i
  /-- Until it is closed, whatever happens, all others are refused what takes this right. -/
  excludes : s.Free seat.chip.number → ∀ error s' later,
    s.ask number wish = .ok (some (.refused error), s') →
    Run (fun _ operation => operation ≠ .close number) s' later →
    ∀ i other otherWish, i ≠ number → later.seat? i = some other →
      other.chip.number = seat.chip.number → otherWish.Claims →
      ∃ last, later.ask i otherWish = .ok (some (.refused .busy), last)

/-- An opener is refused what is refused with what it works on. -/
lemma ask_eq_refused_iff (hseat : s.seat? number = some seat) :
    s.ask number wish = .ok (some (.refused error), s') ↔
      ∃ after, seat.perform wish = .ok (.refused error, after) ∧ s' = s.setSeat number after := by
  rw [ask_eq hseat]
  constructor
  · intro h
    obtain ⟨⟨answer, after⟩, hperform, h⟩ := bind_eq_ok.mp h
    obtain ⟨hanswer, rfl⟩ := Prod.mk.inj (pure_eq_ok.mp h)
    obtain rfl := Option.some.inj hanswer
    exact ⟨after, hperform, rfl⟩
  · rintro ⟨after, hperform, rfl⟩
    exact bind_eq_ok.mpr ⟨_, hperform, rfl⟩

/-- A refusal leaves all rights where they were, and the one in question was not free; or it was,
and the opener has it now.

**Proof sketch.** A barred opener changes nothing, and somebody has the right. One with the right to
it keeps it. One that finds it free has it afterwards, and nobody else's rights are concerned. -/
lemma Orderly.held?_of_refused (h : s.Orderly) (hseat : s.seat? number = some seat)
    (hclaims : wish.Claims) (hask : s.ask number wish = .ok (some (.refused error), s')) :
    (¬s.Free seat.chip.number ∧ ∀ i, s'.held? i = s.held? i) ∨
      (s.Free seat.chip.number ∧ seat.Refuses wish error ∧
        ∀ i, s'.held? i = if i = number then some seat.chip.number else s.held? i) := by
  obtain ⟨after, hperform, rfl⟩ := (ask_eq_refused_iff hseat).mp hask
  have hfree := h.free_iff hseat
  obtain ⟨entry, device, chip, hentry, hdevice, hchip, hsame⟩ := seat?_eq_some.mp hseat
  have hopener : seat.opener = entry.opener := by rw [hsame]
  have hnumber : seat.chip.number = device.chip := by
    rw [hsame]
    exact h.numbered _ chip hchip
  have hbefore := held?_of_opener? hentry hdevice
  have hkeeps : after.opener.holds = seat.opener.holds →
      ∀ i, (s.setSeat number after).held? i = s.held? i := fun hholds i => by
    rw [held?_setSeat hentry hdevice, hholds, hopener, ← hbefore]
    split
    · next hi => rw [hi]
    · rfl
  -- Turned away at the door, let through with a right it had, or let through with a new one: only
  -- in the third case does anything change.
  obtain ⟨hbarred, -, rfl⟩ | ⟨hclaim, hrefuses⟩ := (Seat.perform_eq_refused_iff hclaims).mp hperform
  · refine .inl ⟨fun hnobody => ?_, hkeeps rfl⟩
    cases (hfree.mp hnobody).symm.trans hbarred.claimed
  · obtain ⟨hholds, rfl⟩ | ⟨-, hclaimed, rfl⟩ := Seat.claim_cases hclaim
    · refine .inl ⟨fun hnobody => hnobody number ?_, hkeeps rfl⟩
      rw [hbefore, ← hopener, if_pos hholds, hnumber]
    · refine .inr ⟨hfree.mpr hclaimed, hrefuses, fun i => ?_⟩
      rw [held?_setSeat hentry hdevice, if_pos rfl, hnumber]

/-- A device with no capture memory is opened twice. -/
def pennilessOperations : List Operation :=
  [.probe { bus := 0, slot := 9, vendor := 0, device := 0 } 0 { memoryLimit := 0 },
    .openDevice 0, .openDevice 0]

/-- **What a refusal leaves behind**, whatever has happened before. An opener that asks for buffers
or for capture and is refused leaves all rights to capture where they were if and only if the one
that it needed was not free. If it was, the opener keeps it without any use for it, and everybody
else is refused until it is closed.

**Proof sketch.** Every run leaves a machine in order, so that the right is noted as free just if
nobody has it. From a single refusal it is known who has what afterwards, and an opener keeps its
right over any further run until it is closed. -/
theorem retained_of_run {dma : δ} (h : Run (fun _ _ => True) (vacant dma) s)
    (hseat : s.seat? number = some seat) (hclaims : wish.Claims) :
    s.Retains number seat wish := by
  have horderly := orderly_of_run h (orderly_vacant dma)
  have hfree := horderly.free_iff hseat
  have htaken : s.Free seat.chip.number → ∀ error s',
      s.ask number wish = .ok (some (.refused error), s') →
      ∀ i, s'.held? i = if i = number then some seat.chip.number else s.held? i := by
    intro hnobody error s' hask
    obtain ⟨hsomebody, -⟩ | ⟨-, -, htaken⟩ := horderly.held?_of_refused hseat hclaims hask
    · exact absurd hnobody hsomebody
    · exact htaken
  refine ⟨fun hnobody error => ⟨?_, fun hrefuses => ?_⟩, fun error s' hask => ?_, htaken, ?_⟩
  · rintro ⟨s', hask⟩
    obtain ⟨hsomebody, -⟩ | ⟨-, hrefuses, -⟩ := horderly.held?_of_refused hseat hclaims hask
    · exact absurd hnobody hsomebody
    · exact hrefuses
  · obtain ⟨after, hclaim⟩ := Seat.exists_claim (.inr (hfree.mp hnobody))
    have hperform := (Seat.perform_eq_refused_iff hclaims).mpr (.inr ⟨hclaim, hrefuses⟩)
    exact ⟨_, (ask_eq_refused_iff hseat).mpr ⟨after, hperform, rfl⟩⟩
  · obtain ⟨hsomebody, hsame⟩ | ⟨hnobody, -, htaken⟩ :=
      horderly.held?_of_refused hseat hclaims hask
    · exact iff_of_true hsame hsomebody
    · refine iff_of_false (fun hsame => hnobody number ?_) (not_not.mpr hnobody)
      rw [← hsame, htaken, if_pos rfl]
  · -- The run after the refusal starts in an orderly state, so the right that the opener keeps in
    -- it is noted with the chip, where everybody else finds it taken.
    intro hnobody error s' later hask hrun i other otherWish hi hother hchip hotherClaims
    have hperform : s.perform (.ask number wish) = .ok s' := bind_eq_ok.mpr ⟨_, hask, rfl⟩
    have horderly' := orderly_of_perform horderly hperform
    have hheld : s'.held? number = some seat.chip.number := by
      rw [htaken hnobody error s' hask, if_pos rfl]
    have hbarred := (orderly_of_run hrun horderly').barred
      (held?_of_run hrun horderly' hheld) hi hother hchip
    have hrefused := (Seat.perform_eq_refused_iff hotherClaims).mpr (.inl ⟨hbarred, rfl, rfl⟩)
    exact ⟨_, (ask_eq_refused_iff hother).mpr ⟨other, hrefused, rfl⟩⟩

/-- The first of two openers asks for a buffer, for which there is no memory. From then on the
second is refused when it starts capture, which it could do before. -/
theorem retained_of_run_penniless : ∃ (s s' : Machine HostDma) (seat : Seat HostDma),
    Run (fun _ _ => True) (vacant HostDma.create) s ∧ s.seat? 0 = some seat ∧
      s.Retains 0 seat (.request 1) ∧
      s.ask 0 (.request 1) = .ok (some (.refused .outOfMemory), s') ∧
      s.held? 0 = none ∧ s'.held? 0 = some 0 ∧
      (∃ after, s.ask 1 (.streamOn 0) = .ok (some .done, after)) ∧
      ∃ after, s'.ask 1 (.streamOn 0) = .ok (some (.refused .busy), after) := by
  obtain ⟨s, hrun, hbefore, hseat, ⟨answer, s'⟩, hask, hanswer, hafter, ⟨⟨given, early⟩, hearly,
      hgiven⟩, ⟨refused, late⟩, hlate, hrefused⟩ :
    ∃ s ∈ ((vacant HostDma.create).performAll pennilessOperations).toOption,
      s.held? 0 = none ∧ (s.seat? 0).isSome ∧ ∃ first ∈ (s.ask 0 (.request 1)).toOption,
        first.1 = some (.refused .outOfMemory) ∧ first.2.held? 0 = some 0 ∧
        (∃ early ∈ (s.ask 1 (.streamOn 0)).toOption, early.1 = some .done) ∧
        ∃ late ∈ (first.2.ask 1 (.streamOn 0)).toOption, late.1 = some (.refused .busy) := by
    decide +kernel
  obtain ⟨seat, hseat⟩ := Option.isSome_iff_exists.mp hseat
  obtain rfl : answer = _ := hanswer
  obtain rfl : given = _ := hgiven
  obtain rfl : refused = _ := hrefused
  have hreach : Run (fun _ _ => True) (vacant HostDma.create) s :=
    run_of_performAll (fun _ _ _ => trivial) (toOption_eq_some.mp hrun)
  exact ⟨s, s', seat, hreach, hseat, retained_of_run hreach hseat trivial,
    toOption_eq_some.mp hask, hbefore, hafter, ⟨early, toOption_eq_some.mp hearly⟩, late,
    toOption_eq_some.mp hlate⟩

end Machine

end VideoCapture
