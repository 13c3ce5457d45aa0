import VideoCapture.Proofs.Engine.Sequencer
import VideoCapture.Proofs.Queue.Retirement
import VideoCapture.Proofs.Queue.Walk

/-!
# Where the engine is

While the engine is enabled, the buffers of the chain that it has run come before those that it has
not, and it is in the program of the first that it has not run, or in the stopper. While it is
disabled there is no chain. The driver does not see any of this: it sees interrupts, several of
which may have become one, and the address that the engine fetches from. No operation breaks it all
the same, because the engine is stopped before a chain is given up and started again only from
there, and because a buffer spliced onto the chain comes behind all that the engine has run.

## Main definitions

* `VideoCapture.CaptureQueue.Passed` — how far the engine has come.
* `VideoCapture.Channel.Located` — where the engine is.
* `VideoCapture.Channel.Fetches` — the engine fetches from the program it is in.

## Main results

* `VideoCapture.Channel.Located.mem_ran` — what interrupt status may make done has been run.
* `VideoCapture.Channel.relating_located` — no operation loses the engine.
-/

set_option autoImplicit false

namespace VideoCapture

namespace CaptureQueue

/-- The engine has passed the front of the chain. It is in the first program that it has not passed,
or in the stopper. -/
structure Passed (q : CaptureQueue) (s : Sequencer) (passed ahead : List Nat) : Prop where
  /-- What it has passed comes first. -/
  active : q.active = passed ++ ahead
  /-- What it has passed it has run. -/
  ran : ∀ i ∈ passed, i ∈ s.ran
  /-- It is in the first program ahead, or in the stopper. -/
  position : (∃ i rest, ahead = i :: rest ∧ q.addressOf i = some s.position) ∨
    passed ≠ [] ∧ s.position = q.stopper.address

variable {q q' : CaptureQueue} {s s' : Sequencer} {passed ahead : List Nat}

/-- How far the engine has come depends on where the programs begin. -/
lemma Passed.congr (h : q.Passed s passed ahead) (hactive : q'.active = q.active)
    (haddress : ∀ i ∈ q.active, q'.addressOf i = q.addressOf i)
    (hstopper : q'.stopper = q.stopper) : q'.Passed s passed ahead where
  active := hactive.trans h.active
  ran := h.ran
  position := by
    rw [hstopper]
    obtain ⟨i, rest, hahead, hi⟩ | hparked := h.position
    · have hmem : i ∈ q.active := by
        rw [h.active, hahead]
        exact List.mem_append_right _ List.mem_cons_self
      exact .inl ⟨i, rest, hahead, (haddress i hmem).trans hi⟩
    · exact .inr hparked

/-- A chain that grows at its end grows ahead of the engine. -/
lemma Passed.append (h : q.Passed s passed ahead) {i : Nat} (hactive : q'.active = q.active ++ [i])
    (haddress : ∀ i, q'.addressOf i = q.addressOf i) (hstopper : q'.stopper = q.stopper) :
    q'.Passed s passed (ahead ++ [i]) where
  active := by rw [hactive, h.active, List.append_assoc]
  ran := h.ran
  position := by
    rw [hstopper]
    obtain ⟨j, rest, rfl, hj⟩ | hparked := h.position
    · exact .inl ⟨j, rest ++ [i], rfl, (haddress j).trans hj⟩
    · exact .inr hparked

/-- Where a program begins does not depend on other parts of its buffer. -/
lemma addressOf_modify (q : CaptureQueue) (i j : Nat) {f : CaptureBuffer → CaptureBuffer}
    (hf : ∀ buffer, (f buffer).setup = buffer.setup) :
    (q.modify i f).addressOf j = q.addressOf j :=
  congrArg (Option.map _) (setupOf_modify q i j f hf)

end CaptureQueue

namespace Channel

/-! ## The engine between two operations -/

variable {δ : Type} {c c' : Channel δ} {s s' : Sequencer} {now : Int}

/-- Where the engine is: it is enabled if the registers say so; while it is not there is no chain,
and while it is it has passed some of the chain. -/
structure Located (c : Channel δ) (s : Sequencer) : Prop where
  /-- The registers tell whether the engine is enabled. -/
  enabled : s.enabled = Engine.running c.regs
  /-- While it is disabled there is no chain. -/
  idle : s.enabled = false → c.active = []
  /-- While it is enabled it is in the chain. -/
  inside : s.enabled = true → ∃ passed ahead, c.Passed s passed ahead

/-- The engine fetches from the program it is in. -/
def Fetches (c : Channel δ) (position : UInt32) : Prop :=
  Engine.running c.regs = true → ∀ program, c.programAt position = some program →
    program.contains (c.regs.read32 Register.programPointer) = true

/-- The engine is disabled. -/
def Idle (c : Channel δ) (s : Sequencer) : Prop :=
  s.enabled = false ∧ Engine.running c.regs = false

/-- An engine that is disabled is located if there is no chain. -/
lemma Idle.located (h : c.Idle s) (hactive : c.active = []) : c.Located s := by
  refine ⟨h.1.trans h.2.symm, fun _ => hactive, fun henabled => ?_⟩
  cases h.1.symm.trans henabled

/-- An engine that is enabled has a chain. -/
lemma Located.idle_of_nil (h : c.Located s) (hactive : c.active = []) : c.Idle s := by
  have hdisabled : s.enabled = false := by
    refine eq_false_of_ne_true fun henabled => ?_
    obtain ⟨passed, ahead, hpassed⟩ := h.inside henabled
    have hnil : passed = [] ∧ ahead = [] := List.append_eq_nil_iff.mp (hpassed.active.symm.trans
      hactive)
    obtain ⟨i, rest, hahead, -⟩ | ⟨hne, -⟩ := hpassed.position
    · rw [hnil.2] at hahead
      cases hahead
    · exact hne hnil.1
  exact ⟨hdisabled, h.enabled.symm.trans hdisabled⟩

/-- Stopping the engine disables it. -/
lemma idle_stopEngine (c : Channel δ) (s : Sequencer) :
    c.stopEngine.Idle (s.watch c.stopEngine.regs) := by
  obtain ⟨hwatch, hrunning⟩ := s.watch_stop c.regs c.engine
  refine ⟨?_, hrunning⟩
  show (s.watch (c.engine.stop c.regs).2).enabled = false
  rw [hwatch]

/-- Where the engine is depends on the chain and on where programs begin. -/
lemma Located.congr (h : c.Located s) (hactive : c'.active = c.active)
    (haddress : ∀ i ∈ c.active, c'.addressOf i = c.addressOf i) (hstopper : c'.stopper = c.stopper)
    (hrunning : Engine.running c'.regs = Engine.running c.regs) : c'.Located s := by
  refine ⟨h.enabled.trans hrunning.symm, fun hoff => hactive.trans (h.idle hoff), fun hon => ?_⟩
  obtain ⟨passed, ahead, hpassed⟩ := h.inside hon
  exact ⟨passed, ahead, hpassed.congr hactive haddress hstopper⟩

/-! ## Scheduling -/

/-- **Starting the engine puts it at the head of the chain**, of which it has run nothing.

**Proof sketch.** The engine is watched at the address of the head, with the whole chain ahead of it
and nothing run. -/
theorem located_of_startHead (h : c.startHead now = .ok c') (hidle : c.Idle (s.watch c.regs)) :
    c'.Located (s.watch c'.regs) := by
  obtain ⟨hnil, rfl⟩ | ⟨head, rest, q, setup, engine, regs, hactive, hq, hsetup, hstart, rfl⟩ :=
    startHead_cases h
  · exact Idle.located hidle hnil
  · obtain ⟨hwatch, hrunning⟩ := Sequencer.watch_start hidle.1 hstart
    have hpassed : q.Passed (s.watch regs) [] (head :: rest) := by
      refine ⟨?_, by simp, .inl ⟨head, rest, rfl, ?_⟩⟩
      · rw [hq.rest]
        exact hactive
      · rw [hwatch, CaptureQueue.addressOf, hsetup]
        rfl
    refine ⟨?_, fun hoff => ?_, fun _ => ⟨[], head :: rest, ?_⟩⟩
    · rw [hwatch]
      exact hrunning.symm
    · rw [hwatch] at hoff
      cases hoff
    · exact hpassed.congr rfl (fun _ _ => rfl) rfl

/-- Starting the engine anew, once it is stopped, puts it at the head of a chain. -/
lemma located_of_restart (h : c.restart now = .ok c') (hidle : c.Idle (s.watch c.regs)) :
    c'.Located (s.watch c'.regs) := by
  obtain ⟨-, hstart⟩ | ⟨q, -, -, hstart⟩ := restart_cases h
  · exact located_of_startHead hstart hidle
  · exact located_of_startHead hstart hidle

/-- **A buffer that finds its place comes behind all that the engine has run.**

**Proof sketch.** No program moves. A buffer that waits leaves the chain as it is, one that starts a
chain has the engine at its front, and one that is spliced comes last, ahead of the engine. -/
theorem located_of_place {i : Nat} (h : c.place now i = .ok c')
    (hc : c.Located (s.watch c.regs)) : c'.Located (s.watch c'.regs) := by
  obtain ⟨-, hcase⟩ := place_cases h
  have hpointed : ∀ j, (c.pointTail i c.stopper.address).addressOf j = c.addressOf j :=
    fun j => CaptureQueue.addressOf_pointTail _
  dsimp only at hcase
  obtain ⟨-, rfl⟩ | ⟨-, -, hnil, hstart⟩ |
    ⟨previous, spliced, -, -, hlast, -, hsplice, rfl⟩ := hcase
  · refine hc.congr rfl (fun j _ => ?_) rfl rfl
    refine Eq.trans (CaptureQueue.addressOf_modify _ i j ?_) (hpointed j)
    exact fun _ => rfl
  · have hidle := hc.idle_of_nil hnil
    have hstarted := located_of_startHead (s := s) hstart hidle
    exact hstarted
  · obtain ⟨-, -, target, -, -, rfl⟩ := CaptureQueue.splice_eq_ok.mp hsplice
    have haddress : ∀ j, (((c.pointTail i c.stopper.address).modify i fun buffer =>
        { buffer with state := .active, position := c.count }).pointTail previous
          target.program.address).addressOf j = c.addressOf j := by
      intro j
      refine (CaptureQueue.addressOf_pointTail _).trans (Eq.trans ?_ (hpointed j))
      exact CaptureQueue.addressOf_modify _ i j fun _ => rfl
    refine ⟨hc.enabled, fun hoff => ?_, fun hon => ?_⟩
    · -- a buffer is spliced onto a chain, so the engine is enabled
      rw [hc.idle hoff] at hlast
      cases hlast
    · obtain ⟨passed, ahead, hpassed⟩ := hc.inside hon
      exact ⟨passed, ahead ++ [i], hpassed.append rfl haddress rfl⟩

/-! ## Operations without completions -/

/-- Handing a buffer in leaves the engine where the queue has it: the buffer is appended ahead of
it, or the engine is started at it. -/
lemma located_of_enqueue {i : Nat} {result : Except Error Unit}
    (h : c.enqueue now i = .ok (result, c')) (hc : c.Located (s.watch c.regs)) :
    c'.Located (s.watch c'.regs) := by
  have hgrown : Located { c with stream := c.stream ++ [i] } (s.watch c.regs) :=
    hc.congr rfl (fun _ _ => rfl) rfl rfl
  obtain ⟨_, -, rfl⟩ | ⟨-, -, -, ⟨-, hplace⟩ | ⟨-, rfl⟩⟩ := enqueue_cases h
  · exact hc
  · exact located_of_place hplace hgrown
  · exact hgrown

/-- Taking a buffer back leaves the engine where it is: no buffer of the chain is taken. -/
lemma located_of_dequeue {result : Except Error Frame} (h : c.dequeue = .ok (result, c'))
    (hc : c.Located (s.watch c.regs)) : c'.Located (s.watch c'.regs) := by
  obtain ⟨_, -, rfl⟩ | ⟨_, _, _, _, -, -, -, -, -, rfl⟩ := dequeue_cases h
  · exact hc
  · exact hc.congr rfl (fun _ _ => rfl) rfl rfl

/-- When capture starts the engine is started at the front of the first chain, if there is one. -/
lemma located_of_streamOn {result : Except Error Unit} (h : c.streamOn now = .ok (result, c'))
    (hc : c.Located (s.watch c.regs)) : c'.Located (s.watch c'.regs) := by
  obtain ⟨-, -, -, rfl⟩ | ⟨-, -, -, hrestart⟩ | ⟨-, -, hplace⟩ := streamOn_cases h
  · exact hc
  · exact located_of_restart hrestart (idle_stopEngine _ s)
  · have hready : Located { c with fault := none, streaming := true } (s.watch c.regs) :=
      hc.congr rfl (fun _ _ => rfl) rfl rfl
    exact placeAll_keeps (P := fun c => c.Located (s.watch c.regs))
      (fun _ _ _ hc hplace => located_of_place hplace hc) hplace hready

/-- Recovering from a stall stops the engine and starts it at the front of a new chain, and
otherwise nothing happens. -/
lemma located_of_checkTimeout {stalled : Bool} (h : c.checkTimeout now = .ok (stalled, c'))
    (hc : c.Located (s.watch c.regs)) : c'.Located (s.watch c'.regs) := by
  obtain ⟨-, rfl, -⟩ | ⟨-, -, rfl⟩ | ⟨-, -, q, -, hrestart⟩ := checkTimeout_cases h
  · exact hc
  · exact hc.congr rfl (fun _ _ => rfl) rfl rfl
  · exact located_of_restart hrestart (idle_stopEngine c s)

section Memory

variable [DmaBackend δ]

/-- A buffer that is prepared is not in the chain. -/
lemma located_of_prepare {i : Nat} {geometry : Geometry} {norm : Norm}
    {result : Except Error Unit} (h : c.prepare i geometry norm = .ok (result, c'))
    (hsettled : c.Settled) (hc : c.Located (s.watch c.regs)) : c'.Located (s.watch c'.regs) := by
  obtain ⟨_, -, rfl⟩ | ⟨buffer, buffer', dma, hi, -, -, -, rfl⟩ := prepare_cases h
  · exact hc
  · refine hc.congr rfl (fun j hj => ?_) rfl rfl
    have hne : i ≠ j := by
      rintro rfl
      exact hi (hsettled.mem_stream (.inl hj))
    have hsetup : (c.buffers.set i buffer')[j]? = c.buffers[j]? := List.getElem?_set_ne hne
    rw [CaptureQueue.addressOf, CaptureQueue.setupOf, hsetup]
    rfl

/-- Buffers are replaced while there is no chain. -/
lemma located_of_requestBuffers {count capacity : Nat} {result : Except Error Nat}
    (h : c.requestBuffers count capacity = .ok (result, c')) (hsettled : c.Settled)
    (hc : c.Located (s.watch c.regs)) : c'.Located (s.watch c'.regs) := by
  obtain ⟨-, -, rfl⟩ | ⟨hoff, released, dma, -, -, rfl⟩ := requestBuffers_cases h
  · exact hc
  · have hactive := (hsettled.off hoff).1
    have hidle := hc.idle_of_nil hactive
    exact Idle.located hidle hactive

/-- Stopping capture stops the engine and gives the chain up. -/
lemma located_of_streamOff {result : Except Error Unit} (h : c.streamOff = .ok (result, c'))
    (hc : c.Located (s.watch c.regs)) : c'.Located (s.watch c'.regs) := by
  obtain ⟨-, -, rfl⟩ | ⟨-, -, buffers, dma, -, rfl⟩ := streamOff_cases h
  · exact hc
  · have hidle := idle_stopEngine c s
    exact Idle.located hidle rfl

end Memory

/-! ## Completions -/

/-- Acknowledging interrupt status does not concern the engine. -/
lemma Located.acknowledge (hc : c.Located (s.watch c.regs)) :
    let regs := c.regs.write32 Register.interruptStatus Status.video
    Located { c with regs } (s.watch regs) := by
  dsimp only
  rw [Sequencer.watch_write32_of_ne (by decide) (by decide)]
  exact hc.congr rfl (fun _ _ => rfl) rfl (Engine.running_write32_ne (by decide) _)

/-- Neither does it move the program pointer. -/
lemma Fetches.acknowledge {position : UInt32} (h : c.Fetches position) :
    Fetches { c with regs := c.regs.write32 Register.interruptStatus Status.video } position := by
  intro hrunning program hprogram
  rw [Engine.running_write32_ne (by decide)] at hrunning
  rw [read32_programPointer_write32]
  exact h hrunning program hprogram

variable [DmaBackend δ] [LawfulDmaBackend δ] {others : List BusRange}

/-- If the engine is not inside the program of the chain's head any more, it has passed the head.

**Proof sketch.** If nothing has been passed the engine is in the program of the head, which it
fetches from, so that the head would still be running. -/
lemma Located.head_passed {head : Nat} {rest passed ahead : List Nat} (hc : c.Located s)
    (hstocked : c.Stocked others) (hfetches : c.Fetches s.position) (hon : s.enabled = true)
    (hpassed : c.Passed s passed ahead) (hactive : c.active = head :: rest)
    (hruns : c.headRuns (c.regs.read32 Register.programPointer) = .ok false) :
    ∃ passed', passed = head :: passed' ∧ rest = passed' ++ ahead := by
  have hparts := hpassed.active.symm.trans hactive
  cases passed with
  | cons i passed' =>
    obtain ⟨rfl, hrest⟩ := List.cons.inj hparts
    exact ⟨passed', rfl, hrest.symm⟩
  | nil =>
    -- the engine would be in the program of the head, and fetch from it
    exfalso
    obtain ⟨i, _, hahead, haddress⟩ | ⟨hne, -⟩ := hpassed.position
    · rw [List.nil_append, hahead] at hparts
      obtain ⟨rfl, -⟩ := List.cons.inj hparts
      obtain ⟨setup, hsetup, hposition⟩ := Option.map_eq_some_iff.mp haddress
      have hfind := hstocked.find?_setup hsetup
      rw [hposition] at hfind
      have hcontains := hfetches (hc.enabled.symm.trans hon) _ hfind
      obtain ⟨hnil, -⟩ | ⟨_, _, setup', hactive', hsetup', hout⟩ := headRuns_eq_ok.mp hruns
      · cases hnil.symm.trans hactive
      · obtain ⟨rfl, -⟩ := List.cons.inj (hactive'.symm.trans hactive)
        obtain rfl := Option.some.inj (hsetup'.symm.trans hsetup)
        cases hout.symm.trans hcontains
    · exact hne rfl

/-- **What interrupt status may make done has been run.** -/
theorem Located.mem_ran {i : Nat} (hc : c.Located s) (hstocked : c.Stocked others)
    (hfetches : c.Fetches s.position) (h : c.MayComplete i) : i ∈ s.ran := by
  obtain ⟨rest, hactive, hruns⟩ := h
  have hon : s.enabled = true := by
    refine eq_true_of_ne_false fun hoff => ?_
    rw [hc.idle hoff] at hactive
    cases hactive
  obtain ⟨passed, ahead, hpassed⟩ := hc.inside hon
  obtain ⟨passed', rfl, -⟩ := hc.head_passed hstocked hfetches hon hpassed hactive hruns
  exact hpassed.ran i List.mem_cons_self

/-- Retiring the head of the chain leaves the engine where it is, unless that is the stopper. -/
lemma located_of_completeHead {q : CaptureQueue} (h : c.completeHead now = .ok q)
    (hc : c.Located s) (hstocked : c.Stocked others) (hfetches : c.Fetches s.position)
    (hruns : c.headRuns (c.regs.read32 Register.programPointer) = .ok false)
    (hout : c.stopper.contains (c.regs.read32 Register.programPointer) = false) :
    Located { c with toCaptureQueue := q } s := by
  obtain ⟨-, rfl⟩ | ⟨head, rest, setup, hactive, -, rfl⟩ := CaptureQueue.completeHead_cases h
  · exact hc
  · refine ⟨hc.enabled, fun hoff => ?_, fun hon => ?_⟩
    · cases (hc.idle hoff).symm.trans hactive
    · obtain ⟨passed, ahead, hpassed⟩ := hc.inside hon
      obtain ⟨passed', rfl, rfl⟩ := hc.head_passed hstocked hfetches hon hpassed hactive hruns
      refine ⟨passed', ahead, rfl, fun i hi => hpassed.ran i (List.mem_cons_of_mem head hi), ?_⟩
      obtain ⟨i, rest, hahead, haddress⟩ | ⟨-, hparked⟩ := hpassed.position
      · refine .inl ⟨i, rest, hahead, Eq.trans ?_ haddress⟩
        exact CaptureQueue.addressOf_modify _ head i fun _ => rfl
      · -- an engine in the stopper would fetch from it
        exfalso
        have hmem : c.stopper ∈ c.programs := List.mem_cons_self
        have hfind := hstocked.find?_eq hmem
        rw [← hparked] at hfind
        cases hout.symm.trans (hfetches (hc.enabled.symm.trans hon) _ hfind)

/-- **A program's interrupt does not lose the engine.** -/
theorem located_of_handleCompletion (h : c.handleCompletion now = .ok c')
    (hc : c.Located (s.watch c.regs)) (hstocked : c.Stocked others)
    (hfetches : c.Fetches (s.watch c.regs).position) : c'.Located (s.watch c'.regs) := by
  obtain ⟨-, rfl⟩ | ⟨q, hruns, hcomplete, hcase⟩ := handleCompletion_cases h
  · exact hc
  · have hstopper := (sameHoldings_of_completeHead hcomplete).stopper
    obtain ⟨-, hpark⟩ | ⟨hout, rfl⟩ := hcase
    · -- the engine is stopped first, wherever it is
      have hidle := idle_stopEngine { c with toCaptureQueue := q } s
      obtain ⟨hactive, -, rfl⟩ | ⟨-, hrestart⟩ := park_cases hpark
      · exact Idle.located hidle hactive
      · exact located_of_restart hrestart hidle
    · rw [hstopper] at hout
      exact located_of_completeHead hcomplete hc hstocked hfetches hruns hout

/-- Acting on interrupt status leaves the engine where the queue has it, if it fetches from the
program that it is in. -/
lemma located_of_handleStatus {status : UInt32} {mine : Bool}
    (h : c.handleStatus now status = .ok (mine, c')) (hc : c.Located (s.watch c.regs))
    (hstocked : c.Stocked others) (hfetches : c.Fetches (s.watch c.regs).position) :
    c'.Located (s.watch c'.regs) := by
  have hacknowledged := hc.acknowledge
  obtain ⟨-, -, rfl⟩ | ⟨-, -, ⟨-, rfl⟩ | ⟨-, -, hfail⟩ | ⟨-, -, hcompletion⟩⟩ :=
    handleStatus_cases h
  · exact hc
  · exact hacknowledged
  · obtain ⟨q, backlog, hq, rfl⟩ := failStop_cases hfail
    refine Idle.located (idle_stopEngine _ s) ?_
    show q.active = []
    rw [hq.rest]
  · refine located_of_handleCompletion hcompletion hacknowledged
      (hstocked.of_sameHoldings ⟨rfl, rfl, rfl⟩) ?_
    dsimp only
    rw [Sequencer.watch_write32_of_ne (by decide) (by decide)]
    exact hfetches.acknowledge

/-- **No operation loses the engine**, if the engine fetches from the program it is in.

**Proof sketch.** One case for each operation. Only a status needs more than the engine's place: it
may take the head out of the chain, and it does so only if the engine, which fetches from the
program that it is in, does not fetch from the head's. -/
theorem relating_located (s : Sequencer) : Relating fun c c' : Channel δ => c.Sound others →
    c.Fetches (s.watch c.regs).position → c.Located (s.watch c.regs) →
    c'.Located (s.watch c'.regs) where
  request h hsound _ hc := located_of_requestBuffers h hsound.settled hc
  prepare h hsound _ hc := located_of_prepare h hsound.settled hc
  enqueue h _ _ hc := located_of_enqueue h hc
  dequeue h _ _ hc := located_of_dequeue h hc
  streamOn h _ _ hc := located_of_streamOn h hc
  streamOff h _ _ hc := located_of_streamOff h hc
  status h hsound hfetches hc := located_of_handleStatus h hc hsound.stocked hfetches
  timeout h _ _ hc := located_of_checkTimeout h hc
  maskAll {c} _ _ hc := by
    obtain ⟨hwatch, hrunning⟩ := s.watch_maskAll c.regs c.engine
    show Located c.maskAll (s.watch (c.engine.maskAll c.regs).2)
    rw [hwatch]
    exact hc.congr rfl (fun _ _ => rfl) rfl hrunning
  report _ _ _ hc := hc.congr rfl (fun _ _ => rfl) rfl rfl
  shutdown h hsound _ hc := by
    obtain ⟨c₁, hoff, _, hrequest⟩ := shutdown_cases h
    obtain ⟨-, rfl⟩ | ⟨-, _, hoff⟩ := hoff
    · exact located_of_requestBuffers hrequest hsound.settled hc
    · exact located_of_requestBuffers hrequest (settled_of_streamOff hsound.settled hoff)
        (located_of_streamOff hoff hc)

end Channel

end VideoCapture
