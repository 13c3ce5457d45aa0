import VideoCapture.Proofs.Queue.Recovery

/-!
# The rounds of an interrupt

An interrupt is served in rounds: each looks at the status and acts on the bits that are wanted. It
ends when a look finds none, and at the latest after as many rounds as are allowed. What counts then
is the number of rounds and not what is left of the status: every source is masked without one more
look. If the last round allowed has dealt with everything, sources are masked that nothing needs,
and no later interrupt finds anything, although the engine goes on.

What is read of the status is up to the chip, which can latch bits at any time. So each look reads
what it likes.

## Main definitions

* `VideoCapture.Channel.pending` — the bits of a reading that are wanted.
* `VideoCapture.Channel.interruptAmid` — serves an interrupt while each look reads what it likes.
* `VideoCapture.Channel.Rounds` — what rounds in a row make of a channel.
* `VideoCapture.Channel.Hasty` — every source is masked although nothing is pending.
* `VideoCapture.Channel.Concludes` — how an interrupt ends.

## Main results

* `VideoCapture.Channel.interrupt_eq_amid` — readings of the registers are among the readings.
* `VideoCapture.Channel.interruptAmid_of_reaches` — how an interrupt ends in every reachable queue.
-/

set_option autoImplicit false

namespace VideoCapture

namespace Channel

variable {δ : Type} {c c' : Channel δ} {reads : Nat → Channel δ → UInt32}

/-- The bits of a reading of the interrupt status that are wanted. -/
def pending (c : Channel δ) (reading : UInt32) : UInt32 :=
  reading &&& c.engine.mask

/-- Serves an interrupt in at most `passes` rounds, while the look at the status that comes after
`n` others reads what `reads n` makes of the channel. -/
def interruptAmid (now : Int) (handled : Bool) (reads : Nat → Channel δ → UInt32) :
    (passes : Nat) → Channel δ → Except Fault (Bool × Channel δ)
  | 0, c => return (handled, c.maskAll)
  | passes + 1, c => do
    if c.pending (reads 0 c) = 0 then return (handled, c)
    let (mine, c) ← c.handleStatus now (c.pending (reads 0 c))
    interruptAmid now (handled || mine) (fun n => reads (n + 1)) passes c

/-- **An interrupt whose looks read the registers is one of those whose looks read what they
like.**

**Proof sketch.** Induction on the rounds allowed. -/
theorem interrupt_eq_amid (sense : Channel δ → UInt32) (now : Int) (handled : Bool) (passes : Nat)
    (c : Channel δ) :
    c.interrupt sense now handled passes = c.interruptAmid now handled (fun _ => sense) passes := by
  induction passes generalizing c handled with
  | zero => rfl
  | succ passes ih =>
    simp only [interrupt, interruptAmid, ih]
    rfl

/-- Rounds in a row, each of which finds something and acts on it, lead from one channel to
another. The flag says whether any of it was the queue's. -/
inductive Rounds (now : Int) :
    (Nat → Channel δ → UInt32) → Nat → Bool → Channel δ → Channel δ → Prop where
  /-- No rounds lead nowhere. -/
  | none {reads : Nat → Channel δ → UInt32} {c : Channel δ} : Rounds now reads 0 false c c
  /-- A round comes before the others. -/
  | round {reads : Nat → Channel δ → UInt32} {n : Nat} {mine rest : Bool}
      {c c₁ c₂ : Channel δ} :
      c.pending (reads 0 c) ≠ 0 → c.handleStatus now (c.pending (reads 0 c)) = .ok (mine, c₁) →
        Rounds now (fun k => reads (k + 1)) n rest c₁ c₂ →
        Rounds now reads (n + 1) (mine || rest) c c₂

/-- No interrupt source is wanted, and the chip passes none on. -/
def Masked (c : Channel δ) : Prop :=
  c.engine.mask = 0 ∧ c.regs.read32 Register.interruptMask = 0

/-- After `n` rounds every source is masked although nothing is pending: as many rounds as are
allowed have been made, and the last has dealt with everything. -/
def Hasty (reads : Nat → Channel δ → UInt32) (passes n : Nat) (c : Channel δ) : Prop :=
  n = passes ∧ c.pending (reads n c) = 0 ∧ ¬c.Masked

/-- How an interrupt ends that may take `passes` rounds, has taken `n` and has been led to `c`. -/
structure Concludes (reads : Nat → Channel δ → UInt32) (passes n : Nat) (c c' : Channel δ) :
    Prop where
  /-- It takes no more rounds than are allowed. -/
  within : n ≤ passes
  /-- If it takes fewer, nothing is pending and everything stays as the rounds have left it. -/
  quiet : n < passes → c.pending (reads n c) = 0 ∧ c' = c
  /-- If it takes all of them, every source is masked, and nothing else changes. -/
  spent : n = passes → c' = c.maskAll ∧ c'.Masked
  /-- From then on interrupts find nothing, whatever the status reads. -/
  deaf : n = passes → ∀ (later : Int) (handled : Bool) (reads : Nat → Channel δ → UInt32)
    (allowed : Nat), c'.interruptAmid later handled reads (allowed + 1) = .ok (handled, c')
  /-- With nothing pending the sources stay as the rounds have left them, unless the interrupt is
  hasty. -/
  fair : (c.pending (reads n c) = 0 → c'.engine.mask = c.engine.mask ∧
      c'.regs.read32 Register.interruptMask = c.regs.read32 Register.interruptMask) ↔
    ¬c.Hasty reads passes n

/-! ## Masking -/

/-- Masking every source masks every source. -/
lemma masked_maskAll (c : Channel δ) : c.maskAll.Masked :=
  ⟨rfl, c.regs.read32_write32 0 (by decide) (by decide)⟩

/-- With no source wanted an interrupt finds nothing. -/
lemma Masked.interruptAmid_eq (h : c.Masked) (now : Int) (handled : Bool)
    (reads : Nat → Channel δ → UInt32) (passes : Nat) :
    c.interruptAmid now handled reads (passes + 1) = .ok (handled, c) := by
  have hnone : c.pending (reads 0 c) = 0 := by
    rw [pending, h.1]
    exact UInt32.and_zero
  rw [interruptAmid, if_pos hnone]
  rfl

/-! ## The end of an interrupt -/

/-- An interrupt that finds nothing pending ends before its rounds are used up. -/
lemma concludes_of_quiet {passes n : Nat} (hn : n < passes) (hquiet : c.pending (reads n c) = 0) :
    c.Concludes reads passes n c where
  within := Nat.le_of_lt hn
  quiet _ := ⟨hquiet, rfl⟩
  spent h := absurd h (Nat.ne_of_lt hn)
  deaf h := absurd h (Nat.ne_of_lt hn)
  fair := iff_of_true (fun _ => ⟨rfl, rfl⟩) fun hhasty => Nat.ne_of_lt hn hhasty.1

/-- An interrupt that uses its rounds up ends with every source masked. -/
lemma concludes_maskAll (reads : Nat → Channel δ → UInt32) (passes : Nat) (c : Channel δ) :
    c.Concludes reads passes passes c.maskAll where
  within := Nat.le_refl passes
  quiet h := absurd h (Nat.lt_irrefl passes)
  spent _ := ⟨rfl, c.masked_maskAll⟩
  deaf _ := c.masked_maskAll.interruptAmid_eq
  fair := by
    obtain ⟨hmask, hpassed⟩ := c.masked_maskAll
    rw [hmask, hpassed, Hasty, and_iff_right rfl, not_and, not_not, Masked]
    exact imp_congr_right fun _ => and_congr eq_comm eq_comm

/-- One round more comes before the rounds of an interrupt. -/
lemma Concludes.after {passes n : Nat}
    (h : c.Concludes (fun k => reads (k + 1)) passes n c') :
    c.Concludes reads (passes + 1) (n + 1) c' where
  within := Nat.succ_le_succ h.within
  quiet hn := h.quiet (Nat.lt_of_succ_lt_succ hn)
  spent hn := h.spent (Nat.succ.inj hn)
  deaf hn := h.deaf (Nat.succ.inj hn)
  fair := by
    have hhasty : c.Hasty reads (passes + 1) (n + 1) ↔
        c.Hasty (fun k => reads (k + 1)) passes n := by
      rw [Hasty, Hasty, Nat.add_right_cancel_iff]
    rw [hhasty]
    exact h.fair

/-- **How an interrupt ends**: in every reachable queue, whatever each look at the status reads and
however many rounds are allowed, it is served to the end, unless the numbers run out in a round.
Every source is masked if and only if all the rounds allowed have found something. Unless the last
of them has dealt with everything, this happens with something still pending only, and sources
otherwise stay as the rounds have left them.

**Proof sketch.** Induction on the rounds allowed; acting on the status succeeds as long as the
numbers suffice, and leads to a reachable queue. -/
theorem interruptAmid_of_reaches [DmaBackend δ] {regs : RegisterFile} {dma dma' : δ}
    {config : Config} {c₀ : Channel δ} (hcreate : create regs dma config = (.ok c₀, dma'))
    (h : c₀.Reaches c) (now : Int) (handled : Bool) (reads : Nat → Channel δ → UInt32)
    (passes : Nat) :
    (∀ sense, c.interrupt sense now handled passes =
        c.interruptAmid now handled (fun _ => sense) passes) ∧
      ((∃ n mine c₁ c', Rounds now reads n mine c c₁ ∧
        c.interruptAmid now handled reads passes = .ok (handled || mine, c') ∧
        c₁.Concludes reads passes n c') ∨
      ∃ n mine c₁, Rounds now reads n mine c c₁ ∧ n < passes ∧
        c₁.Exhausts now (c.interruptAmid now handled reads passes)) := by
  refine ⟨fun sense => c.interrupt_eq_amid sense now handled passes, ?_⟩
  induction passes generalizing c handled reads with
  | zero =>
    refine .inl ⟨0, false, c, c.maskAll, .none, ?_, concludes_maskAll reads 0 c⟩
    rw [Bool.or_false]
    rfl
  | succ passes ih =>
    by_cases hquiet : c.pending (reads 0 c) = 0
    · refine .inl ⟨0, false, c, c, .none, ?_, concludes_of_quiet passes.succ_pos hquiet⟩
      rw [interruptAmid, if_pos hquiet, Bool.or_false]
      rfl
    rw [interruptAmid, if_neg hquiet]
    have hfails := (failsOnly_handleStatus now (c.pending (reads 0 c)) (serves_of_reaches hcreate h)
      (equipped_of_reaches hcreate h)).mono fun _ hout => hout.2
    obtain ⟨⟨mine, c₁⟩, hstatus⟩ | ⟨fault, hstatus, hout⟩ :=
      (settled_of_reaches hcreate h).exists_or_exhausts hfails
    · have hperform : c.perform (.status now (c.pending (reads 0 c))) = .ok (.flag mine, c₁) :=
        bind_eq_ok.mpr ⟨(mine, c₁), hstatus, rfl⟩
      rw [hstatus]
      obtain ⟨n, rest, c₂, c', hrounds, hserved, hends⟩ |
          ⟨n, rest, c₂, hrounds, hless, hexhausts⟩ :=
        ih (h.perform hperform) (handled || mine) fun k => reads (k + 1)
      · refine .inl ⟨n + 1, mine || rest, c₂, c', .round hquiet hstatus hrounds, ?_, hends.after⟩
        rw [← Bool.or_assoc]
        exact hserved
      · exact .inr ⟨n + 1, mine || rest, c₂, .round hquiet hstatus hrounds,
          Nat.succ_lt_succ hless, hexhausts⟩
    · rw [hstatus]
      exact .inr ⟨0, false, c, .none, passes.succ_pos, fault, rfl, hout⟩

/-- One round is allowed, and it deals with the completion of a program: nothing is pending any
more, and every source is masked while the engine goes on. -/
theorem interruptAmid_of_reaches_hasty :
    let reads : Nat → Channel HostDma → UInt32 := fun _ c => c.regs.read32 Register.interruptStatus
    ∃ c₀ dma, ∃ c : Channel HostDma, create {} HostDma.create {} = (.ok c₀, dma) ∧
      c₀.Reaches c ∧ c.streaming = true ∧
      ∃ mine c₁ c', Rounds 0 reads 1 mine c c₁ ∧
        c.interruptAmid 0 false reads 1 = .ok (false || mine, c') ∧
        c₁.Concludes reads 1 1 c' ∧ c₁.Hasty reads 1 1 ∧ Engine.running c'.regs = true := by
  intro reads
  obtain ⟨c₀, dma, c, hcreate, hreach, hview⟩ := exists_session_of_viewFrom
    (show viewFrom HostDma.create chainedOperations (fun c =>
      let c := { c with regs := c.regs.raise Status.program }
      (c.streaming, c.pending (reads 0 c),
        (c.handleStatus 0 (c.pending (reads 0 c))).toOption.map fun served =>
          (served.2.pending (reads 1 served.2), served.2.engine.mask,
            Engine.running served.2.maskAll.regs))) =
      some (true, Status.program, some ((0 : UInt32), Status.video, true)) by decide +kernel)
  simp only [Prod.mk.injEq] at hview
  obtain ⟨hstreaming, hfound, hhandled⟩ := hview
  have hraised := hreach.change (c.regs.raise Status.program)
  refine ⟨c₀, dma, _, hcreate, hraised, hstreaming, ?_⟩
  obtain ⟨-, ⟨n, mine, c₁, c', hrounds, hserved, hends⟩ |
      ⟨n, mine, c₁, hrounds, hless, hexhausts⟩⟩ :=
    interruptAmid_of_reaches hcreate hraised 0 false reads 1
  case inr =>
    -- the one round that is allowed has been served to the end
    obtain ⟨⟨mine, c₂⟩, hserved, -⟩ := Option.map_eq_some_iff.mp hhandled
    refine absurd hexhausts (CaptureQueue.not_exhausts_of_ok (a := (false || mine, c₂.maskAll)) ?_)
    rw [interruptAmid, if_neg (by rw [hfound]; decide)]
    exact bind_eq_ok.mpr ⟨_, toOption_eq_some.mp hserved, rfl⟩
  cases hrounds with
  | none =>
    obtain ⟨hquiet, -⟩ := hends.quiet Nat.one_pos
    cases hfound.symm.trans hquiet
  | @round _ n mine rest _ c₂ _ hfirst hstatus hrounds =>
    obtain rfl : n = 0 := Nat.le_zero.mp (Nat.le_of_succ_le_succ hends.within)
    cases hrounds
    rw [hstatus] at hhandled
    simp only [Except.toOption, Option.map_some, Option.some.injEq, Prod.mk.injEq] at hhandled
    obtain ⟨hdealt, hmask, hrunning⟩ := hhandled
    refine ⟨_, _, c', .round hfirst hstatus .none, hserved, hends, ⟨rfl, hdealt, ?_⟩, ?_⟩
    · rintro ⟨hnone, -⟩
      cases hmask.symm.trans hnone
    · rwa [(hends.spent rfl).1]

end Channel

end VideoCapture
