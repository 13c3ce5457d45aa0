import VideoCapture.Proofs.Dma.Host
import VideoCapture.Proofs.Engine.Control
import VideoCapture.Proofs.Queue.Chain
import VideoCapture.Proofs.Queue.Watch

/-!
# What the timer does

A chain that completes nothing until its deadline has stalled. The timer gives up the whole of it
and makes a new chain of those that wait: of the buffers at the front, as many as can be captured
one after the other, and no fewer. The others keep waiting. Before the deadline, and without one,
the timer does nothing at all.

## Main definitions

* `VideoCapture.CaptureQueue.Foremost` — a list is the longest run of buffers at the front of
  another that can be captured one after the other.
* `VideoCapture.Channel.Recovered` — what the timer does about a chain that has stalled.

## Main results

* `VideoCapture.CaptureQueue.foremost_of_promote` — no buffer is let into the chain out of turn, and
  none is left out that could follow.
* `VideoCapture.Channel.recovered_of_checkTimeout` — a chain that has stalled is recovered from.
* `VideoCapture.Channel.checkTimeout_of_reaches` — when the timer acts and what it does, in every
  reachable queue.
-/

set_option autoImplicit false

namespace VideoCapture

/-- An engine that is started is started at the address given. -/
lemma Engine.read32_programStart_of_start {engine engine' : Engine} {regs regs' : RegisterFile}
    {address : UInt32} {g : Geometry} {n : Norm}
    (h : engine.start regs address g n = .ok (engine', regs')) :
    regs'.read32 Register.programStart = address := by
  obtain ⟨scaling, -, -, rfl⟩ := start_eq_ok h
  -- the two registers that are written afterwards are others
  refine (RegisterFile.read32_write32_ne _ (by decide)).trans ?_
  refine (RegisterFile.read32_write32_ne _ (by decide)).trans ?_
  exact RegisterFile.read32_write32 _ _ (by decide) (by decide)

namespace CaptureQueue

/-! ## The front of those that wait -/

/-- `taken` is the longest run of buffers at the front of `all` that can be captured one after the
other. -/
structure Foremost (q : CaptureQueue) (all taken : List Nat) : Prop where
  /-- The run is at the front. -/
  front : taken <+: all
  /-- Each buffer of it can be captured right after the one before. -/
  follows : taken.IsChain q.Follows
  /-- No other such run is longer. -/
  longest : ∀ run, run <+: all → run.IsChain q.Follows → run.length ≤ taken.length

variable {q q' : CaptureQueue} {all taken waiting : List Nat} {i j : Nat}

/-- Whether buffers can be captured one after the other shows in their geometries. -/
lemma follows_congr (h : q'.geometryOf = q.geometryOf) : q'.Follows = q.Follows := by
  funext i j
  rw [Follows, Follows, h]

/-- So does which run is the longest. -/
lemma Foremost.congr (h : q.Foremost all taken) (hgeometry : q'.geometryOf = q.geometryOf) :
    q'.Foremost all taken :=
  have hfollows := follows_congr hgeometry
  ⟨h.front, hfollows ▸ h.follows, hfollows ▸ h.longest⟩

/-- A run that ends where the next buffer cannot follow is the longest. -/
lemma foremost_of_not_follows (hlast : taken.getLast? = some j) (hchain : taken.IsChain q.Follows)
    (hnot : ¬q.Follows j i) (rest : List Nat) : q.Foremost (taken ++ i :: rest) taken := by
  refine ⟨List.prefix_append _ _, hchain, fun run hfront hrun => Nat.le_of_not_lt fun hlonger => ?_⟩
  -- a longer run would have the next buffer behind the last
  have hmore : taken ++ [i] <+: run := by
    refine List.prefix_of_prefix_length_le (List.prefix_append_right_inj taken |>.mpr ?_) hfront ?_
    · exact List.cons_prefix_cons.mpr ⟨rfl, List.nil_prefix⟩
    · rw [List.length_append]
      exact hlonger
  obtain ⟨-, -, hborder⟩ := List.isChain_append.mp ( List.IsChain.prefix hrun hmore)
  exact hnot (hborder j hlast i rfl)

/-- **Letting waiting buffers into the chain makes it the longest it can be.**

**Proof sketch.** Induction on those that wait. What runs and what waits together stay the same
list, of which the chain is an ever longer front. -/
theorem foremost_of_promote (h : q.promote waiting = .ok q') (hchain : q.active.IsChain q.Follows) :
    q.Foremost (q.active ++ waiting) q'.active := by
  induction waiting generalizing q with
  | nil =>
    obtain rfl : { q with queued := [] } = q' := pure_eq_ok.mp h
    rw [List.append_nil]
    exact ⟨List.prefix_refl _, hchain, fun run hfront _ => hfront.length_le⟩
  | cons i waiting ih =>
    obtain ⟨hactive, hrest⟩ | ⟨j, s, t, hlast, hs, ht, hcase⟩ := promote_cases h
    · rw [hactive]
      exact (ih hrest (.singleton i)).congr rfl
    · obtain ⟨hchains, hrest⟩ | ⟨hnot, rfl⟩ := hcase
      · have hgeometry : (q.pointTail j t.program.address).geometryOf = q.geometryOf :=
          funext fun k => geometryOf_pointTail _
        have hgrown : (q.active ++ [i]).IsChain q.Follows := by
          refine List.isChain_append.mpr ⟨hchain, .singleton i, fun k hk l hl => ?_⟩
          obtain rfl : j = k := Option.some.inj (hlast.symm.trans hk)
          obtain rfl : i = l := by simpa using hl
          exact follows_of_setupOf hs ht hchains
        have hnext := ih hrest (by rwa [← follows_congr hgeometry] at hgrown)
        rw [show q.active ++ i :: waiting = q.active ++ [i] ++ waiting by simp]
        exact hnext.congr hgeometry.symm
      · refine foremost_of_not_follows hlast hchain ?_ waiting
        rintro ⟨g, k, hg, hk, hgk⟩
        rw [geometryOf, hs, Option.map_some, Option.some.injEq] at hg
        rw [geometryOf, ht, Option.map_some, Option.some.injEq] at hk
        rw [hg, hk, hgk] at hnot
        cases hnot

end CaptureQueue

/-! ## Starting anew -/

namespace Channel

open CaptureQueue (Foremost Operation)

variable {δ : Type} {c c' : Channel δ} {now : Int}

/-- With no chain left, the new one is made of those at the front of the ones that wait. -/
lemma foremost_of_restart (h : c.restart now = .ok c') (hnil : c.active = []) :
    c.Foremost c.queued c'.active := by
  obtain ⟨hactive, -⟩ | ⟨q, -, hpromote, hstart⟩ := restart_cases h
  · exact absurd hnil hactive
  · have hforemost := CaptureQueue.foremost_of_promote hpromote (by rw [hnil]; exact .nil)
    rw [hnil, List.nil_append] at hforemost
    rwa [(lists_of_startHead hstart).1]

/-- Starting anew makes the buffers of the new chain active, and no other changes its stage. -/
lemma stateOf_of_restart (h : c.restart now = .ok c') (i : Nat) :
    c'.stateOf i = if i ∈ c'.active then some .active else c.stateOf i := by
  have hstarted : ∀ {c₁ : Channel δ}, c₁.startHead now = .ok c' →
      c'.stateOf i = if i ∈ c'.active then some .active else c₁.stateOf i := by
    intro c₁ hstart
    obtain ⟨-, hactive, -, -, hstage, hothers⟩ := stages_of_startHead hstart
    rw [hactive]
    split
    · next hi => exact hstage i hi
    · next hi => exact hothers i hi
  obtain ⟨-, hstart⟩ | ⟨q, -, hpromote, hstart⟩ := restart_cases h
  · exact hstarted hstart
  · obtain ⟨taken, hq⟩ := CaptureQueue.promoted_of_promote hpromote
    exact (hstarted hstart).trans (by rw [← hq.states i])

/-- Starting anew counts as a start and as nothing else. -/
lemma stats_of_restart (h : c.restart now = .ok c') :
    ∃ starts, c'.stats = { c.stats with starts } := by
  have hstarted : ∀ {c₁ : Channel δ}, c₁.startHead now = .ok c' →
      ∃ starts, c'.stats = { c₁.stats with starts } := by
    intro c₁ hstart
    obtain ⟨-, rfl⟩ | ⟨head, rest, q, setup, engine, regs, -, hq, -, -, rfl⟩ :=
      startHead_cases hstart
    · exact ⟨_, rfl⟩
    · exact ⟨c₁.stats.starts + 1, by rw [hq.rest]⟩
  obtain ⟨-, hstart⟩ | ⟨q, -, hpromote, hstart⟩ := restart_cases h
  · exact hstarted hstart
  · obtain ⟨taken, hq⟩ := CaptureQueue.promoted_of_promote hpromote
    have hstats : q.stats = c.stats := by rw [hq.rest]
    obtain ⟨starts, hc'⟩ := hstarted hstart
    exact ⟨starts, hc'.trans (by rw [hstats])⟩

/-- The engine is started at the program of the chain's head. -/
lemma addressOf_head_of_restart (h : c.restart now = .ok c') :
    ∀ head ∈ c'.active.head?, c'.addressOf head = some (c'.regs.read32 Register.programStart) := by
  obtain ⟨c₁, hstart⟩ : ∃ c₁ : Channel δ, c₁.startHead now = .ok c' := by
    obtain ⟨-, hstart⟩ | ⟨q, -, -, hstart⟩ := restart_cases h <;> exact ⟨_, hstart⟩
  obtain ⟨hnil, rfl⟩ | ⟨head, rest, q, setup, engine, regs, hactive, hq, hsetup, hregs, rfl⟩ :=
    startHead_cases hstart
  · intro head hhead
    rw [show c₁.active = [] from hnil] at hhead
    cases hhead
  · intro head' hhead
    have hsame : q.active = head :: rest := by rw [hq.rest]; exact hactive
    rw [show q.active = head :: rest from hsame] at hhead
    obtain rfl : head = head' := Option.some.inj hhead
    rw [Engine.read32_programStart_of_start hregs]
    exact congrArg (Option.map fun setup => setup.program.address) hsetup

/-- With nothing to start, the registers stay as they are and there is no deadline. -/
lemma idle_of_restart (h : c.restart now = .ok c') (hactive : c.active = [])
    (hqueued : c.queued = []) : c'.deadline = none ∧ c'.regs = c.regs := by
  obtain ⟨hne, -⟩ | ⟨q, -, hpromote, hstart⟩ := restart_cases h
  · exact absurd hactive hne
  · rw [hqueued] at hpromote
    obtain rfl : { c.toCaptureQueue with queued := [] } = q := pure_eq_ok.mp hpromote
    obtain ⟨-, rfl⟩ | ⟨head, rest, _, _, _, _, hcons, -⟩ := startHead_cases hstart
    · exact ⟨rfl, rfl⟩
    · cases hcons.symm.trans hactive

/-! ## Recovering -/

/-- What the timer does at time `now` about a chain that has stalled. -/
structure Recovered (c : Channel δ) (now : Int) (c' : Channel δ) : Prop where
  /-- The buffers of the chain end in error, and no others do. -/
  error : ∀ i, c'.stateOf i = some .error ↔ i ∈ c.active ∨ c.stateOf i = some .error
  /-- Each of them counts as a failed frame. -/
  framesFailed : c'.stats.framesFailed = c.stats.framesFailed + c.active.length
  /-- There is one more recovery. -/
  timeouts : c'.stats.timeouts = c.stats.timeouts + 1
  /-- Those that waited make the new chain or wait on, in the same order. -/
  order : c'.active ++ c'.queued = c.queued
  /-- The new chain is as long as it can be. -/
  foremost : c.Foremost c.queued c'.active
  /-- Its tails lead from buffer to buffer and to the stopper. -/
  linked : c'.Linked c'.active c'.queued
  /-- There is a chain if anything waited. -/
  active : c'.active ≠ [] ↔ c.queued ≠ []
  /-- So the engine is enabled. -/
  running : Engine.running c'.regs = true ↔ c.queued ≠ []
  /-- It was started at the program of the head. -/
  head : ∀ head ∈ c'.active.head?,
    c'.addressOf head = some (c'.regs.read32 Register.programStart)
  /-- A deadline is set for the chain. -/
  deadline : c'.deadline = if c.queued = [] then none else some (now + c.timeout)

variable [DmaBackend δ] [LawfulDmaBackend δ] {others : List BusRange}

/-- Of the buffers given up before starting anew none is in the new chain, and of those that were in
error before neither.

**Proof sketch.** What is started has waited, so it is none of what was given up, and its stage was
another than error before as well. -/
lemma error_of_restart {q : CaptureQueue} (hc : c.Sound others) (hactive : c.active ≠ [])
    (hq : CaptureQueue.Failed { c.stopEngine.toCaptureQueue with deadline := none, active := [] }
      c.active q)
    (h : restart { c.stopEngine with
      toCaptureQueue := { q with stats.timeouts := q.stats.timeouts + 1 } } now = .ok c')
    (i : Nat) : c'.stateOf i = some .error ↔ i ∈ c.active ∨ c.stateOf i = some .error := by
  obtain ⟨f, hplaced⟩ := hc.settled.on (hc.settled.streaming_eq hactive)
  have hapart := (List.nodup_append.mp hplaced.nodup_inFlight).2.2
  have hqueued : q.queued = c.queued := by rw [hq.rest]; rfl
  have hnil : q.active = [] := by rw [hq.rest]
  have hwaited : ∀ i ∈ c'.active, i ∈ c.queued := by
    intro i hi
    have hparts : c'.active ++ c'.queued = c.queued := by
      rw [inFlight_of_restart h, ← hqueued]
      exact congrArg (· ++ q.queued) hnil
    exact hparts ▸ List.mem_append_left c'.queued hi
  rw [stateOf_of_restart h i]
  by_cases hgiven : i ∈ c.active
  · have hold : i ∉ c'.active := fun hnew => hapart i hgiven i (hwaited i hnew) rfl
    rw [if_neg hold]
    exact iff_of_true (hq.stateOf_eq hgiven) (.inl hgiven)
  · have hsame : q.stateOf i = c.stateOf i :=
      congrArg (Option.map CaptureBuffer.state) (hq.others i hgiven)
    by_cases hnew : i ∈ c'.active
    · rw [if_pos hnew, hplaced.queued i (hwaited i hnew)]
      simp [hgiven]
    · rw [if_neg hnew]
      exact (iff_of_eq (congrArg (· = some .error) hsame)).trans (or_iff_right hgiven).symm

/-- **A chain that has stalled is recovered from.**

**Proof sketch.** All of the chain is given up, so that what waits is started with no chain in front
of it. Whether anything is started depends on whether something waits, and each of the last
statements is told by this alone. -/
theorem recovered_of_checkTimeout (hc : c.Sound others)
    (h : c.checkTimeout now = .ok (true, c')) : c.Recovered now c' := by
  have hlinked := (chained_of_checkTimeout hc h).linked
  obtain ⟨hfalse, -⟩ | ⟨hfalse, -⟩ | ⟨-, hactive, q, hq, hrestart⟩ := checkTimeout_cases h
  · cases hfalse
  · cases hfalse
  -- of the queue that is started anew only buffers and counters are not as before
  have hnil : q.active = [] := by rw [hq.rest]
  have hqueued : q.queued = c.queued := by rw [hq.rest]; rfl
  have htimeout : q.timeout = c.timeout := by rw [hq.rest]; rfl
  have hfailed : q.stats.framesFailed = c.stats.framesFailed + c.active.length := by
    rw [hq.rest]
    rfl
  have htimeouts : q.stats.timeouts = c.stats.timeouts := by rw [hq.rest]; rfl
  have hgeometry : q.geometryOf = c.geometryOf :=
    funext fun i => congrArg (Option.map Setup.geometry) (hq.setupOf_eq i)
  have hforemost : c.Foremost c.queued c'.active := by
    have hnew := foremost_of_restart hrestart hnil
    rw [← hqueued]
    exact CaptureQueue.Foremost.congr hnew hgeometry.symm
  have horder : c'.active ++ c'.queued = c.queued := by
    have hparts := inFlight_of_restart hrestart
    rw [← hqueued]
    exact hparts.trans (congrArg (· ++ q.queued) hnil)
  obtain ⟨starts, hstats⟩ := stats_of_restart hrestart
  refine ⟨error_of_restart hc hactive hq hrestart, ?_, ?_, horder, hforemost, hlinked, ?_, ?_,
    addressOf_head_of_restart hrestart, ?_⟩
  · rw [hstats]
    exact hfailed
  · rw [hstats]
    exact congrArg (· + 1) htimeouts
  all_goals by_cases hwaits : c.queued = []
  · rw [hwaits, List.append_eq_nil_iff] at horder
    exact iff_of_false (fun hne => hne horder.1) fun hne => hne hwaits
  · have hstarted := started_of_restart hrestart (.inr (hqueued ▸ hwaits))
    exact iff_of_true hstarted.1 hwaits
  · have hidle := idle_of_restart hrestart hnil (hqueued.trans hwaits)
    rw [hidle.2]
    refine iff_of_false (fun hon => ?_) fun hne => hne hwaits
    cases hon.symm.trans (Engine.running_stop c.engine c.regs)
  · have hstarted := started_of_restart hrestart (.inr (hqueued ▸ hwaits))
    exact iff_of_true hstarted.2.2 hwaits
  · have hidle := idle_of_restart hrestart hnil (hqueued.trans hwaits)
    rw [if_pos hwaits]
    exact hidle.1
  · have hstarted := started_of_restart hrestart (.inr (hqueued ▸ hwaits))
    rw [if_neg hwaits, ← htimeout]
    exact hstarted.2.1

omit [DmaBackend δ] [LawfulDmaBackend δ] in
/-- The timer acts only once a deadline has passed. -/
lemma passed_of_checkTimeout (h : c.checkTimeout now = .ok (true, c')) :
    ∃ deadline, c.deadline = some deadline ∧ deadline ≤ now := by
  unfold checkTimeout at h
  split at h
  · cases h
  · next deadline hdeadline =>
    refine ⟨deadline, hdeadline, Int.not_lt.mp fun hearly => ?_⟩
    rw [if_pos hearly] at h
    cases h

/-- What a timer's call answers at time `now`, and what it does. -/
structure Attends (c : Channel δ) (now : Int) (stalled : Bool) (c' : Channel δ) : Prop where
  /-- It acts if a deadline has passed. -/
  acts : stalled = true ↔ ∃ deadline, c.deadline = some deadline ∧ deadline ≤ now
  /-- Otherwise nothing happens. -/
  early : stalled = false → c' = c
  /-- If it has passed the chain has stalled. -/
  recovered : stalled = true → c.Recovered now c'

/-- **When the timer acts and what it does**: in every reachable queue and at any time it does
nothing unless a deadline has passed, and then recovers from the stall. It succeeds unless the
numbers run out, which they can do only when a deadline has passed and buffers wait: the new
deadline may lie beyond the last instant, or there may be too many buffers to count.

**Proof sketch.** There is a deadline just if there is a chain, so that a deadline that has passed
is one of a chain that stalled. -/
theorem checkTimeout_of_reaches {regs : RegisterFile} {dma dma' : δ} {config : Config}
    {c₀ : Channel δ} (hdma : LawfulDmaBackend.Holds dma others)
    (hcreate : create regs dma config = (.ok c₀, dma')) (h : c₀.Reaches c) (now : Int) :
    (∃ stalled c', c.checkTimeout now = .ok (stalled, c') ∧ c.Attends now stalled c') ∨
      ∃ fault deadline, c.checkTimeout now = .error fault ∧ c.deadline = some deadline ∧
        deadline ≤ now ∧ c.queued ≠ [] ∧ RunsOut c.timeout now c.queued.length fault := by
  have htimed : c.Timed := timed_of_reaches hcreate h
  obtain ⟨⟨stalled, c'⟩, htimer⟩ | ⟨fault, hfault, ⟨deadline, hdeadline, hpassed⟩, hwaits, hout⟩ :=
    (failsOnly_checkTimeout now (serves_of_reaches hcreate h) (equipped_of_reaches hcreate h)).cases
  case inr => exact .inr ⟨fault, deadline, hfault, hdeadline, hpassed, hwaits, hout⟩
  refine .inl ⟨stalled, c', htimer, ?_, ?_, ?_⟩
  · constructor
    · rintro rfl
      exact passed_of_checkTimeout htimer
    · rintro ⟨deadline, hdeadline, hpassed⟩
      obtain ⟨-, -, hearly⟩ | ⟨-, hnil, -⟩ | ⟨hacts, -⟩ := checkTimeout_cases htimer
      · exact absurd (hearly deadline hdeadline) (Int.not_lt.mpr hpassed)
      · cases hdeadline.symm.trans (htimed.mp hnil)
      · exact hacts
  · rintro rfl
    obtain ⟨-, hsame, -⟩ | ⟨-, hnil, rfl⟩ | ⟨hacts, -⟩ := checkTimeout_cases htimer
    · exact hsame
    · rw [← htimed.mp hnil]
    · cases hacts
  · rintro rfl
    exact recovered_of_checkTimeout (sound_of_reaches hdma hcreate h) htimer

/-- Five buffers are handed in for frames of two widths. Capture starts with the first alone, as the
second is wider. -/
def stalledOperations : List Operation :=
  let narrow : Geometry := { width := 48, height := 32, format := .initial, field := .bottom }
  let wide : Geometry := { narrow with width := 64 }
  [.request 5 8192, .prepare 0 narrow .initial, .prepare 1 wide .initial,
    .prepare 2 wide .initial, .prepare 3 narrow .initial, .prepare 4 wide .initial,
    .enqueue 0 0, .enqueue 0 1, .enqueue 0 2, .enqueue 0 3, .enqueue 0 4, .streamOn 0]

/-- Once its deadline has passed the timer gives the first buffer up and makes a chain of the next
two, which the fourth cannot follow. -/
theorem checkTimeout_of_reaches_stalled :
    LawfulDmaBackend.Holds HostDma.create [] ∧
    ∃ c₀ dma c, create {} HostDma.create {} = (.ok c₀, dma) ∧ c₀.Reaches c ∧
      ((c.active, c.queued, c.deadline) = ([0], [1, 2, 3, 4], some 500) ∧
        (c.checkTimeout 700).toOption.map (fun r => (r.2.active, r.2.queued)) =
          some ([1, 2], [3, 4])) ∧
      ∃ stalled c', c.checkTimeout 700 = .ok (stalled, c') ∧ c.Attends 700 stalled c' := by
  have hdma : LawfulDmaBackend.Holds HostDma.create [] := HostDma.accounts_create (by decide)
  obtain ⟨c₀, dma, c, hcreate, hreach, hview⟩ := exists_session_of_viewFrom
    (show viewFrom HostDma.create stalledOperations (fun c =>
      ((c.active, c.queued, c.deadline), (c.checkTimeout 700).toOption.map
        (fun r => (r.2.active, r.2.queued)))) =
      some (([0], [1, 2, 3, 4], some 500), some ([1, 2], [3, 4])) by decide +kernel)
  obtain ⟨hlists, htimer⟩ := Prod.mk.inj hview
  obtain ⟨served, hserved, -⟩ := Option.map_eq_some_iff.mp htimer
  refine ⟨hdma, c₀, dma, c, hcreate, hreach, ⟨hlists, htimer⟩,
    (checkTimeout_of_reaches hdma hcreate hreach 700).resolve_right ?_⟩
  rintro ⟨fault, _, hfault, -⟩
  cases (toOption_eq_some.mp hserved).symm.trans hfault

end Channel

end VideoCapture
