import VideoCapture.Proofs.Engine.Tuning
import VideoCapture.Proofs.Queue.Setups

/-!
# One tuning for a whole chain

The engine is started for the head of a chain. Then it goes from program to program with its
registers left as they are, and buffers that join the chain do not change that either. All that they
are asked for is the size and the format code of those before them.

So while there is a chain the registers are tuned to one geometry under one norm, of which every
buffer of the chain shares the size and the format code. They are tuned to a buffer itself exactly
if it takes the same of them. Sizes and formats do not decide this: buffers under norms of different
timing may meet in one chain, and so may single fields and whole frames, and then some of them are
captured with crop or scale values that are not their own.

## Main definitions

* `VideoCapture.Engine.Undisturbed` — others leave the registers alone while the engine runs.
* `VideoCapture.CaptureQueue.Suits` — a chain has the size and the format code of a geometry.
* `VideoCapture.Channel.Attuned` — the registers are tuned to something that suits the chain.
* `VideoCapture.Channel.Shares` — which buffers of the chain the registers are tuned to.

## Main results

* `VideoCapture.CaptureQueue.suits_of_promote` — waiting buffers that are let in suit the chain.
* `VideoCapture.Channel.attuned_of_startHead` — starting the engine tunes it to the head.
* `VideoCapture.Channel.responding_attuned` — no operation changes the tuning under a chain.
* `VideoCapture.Channel.shares_of_session` — which buffers of a chain are captured as they ask.
-/

set_option autoImplicit false

namespace VideoCapture

/-- While the engine runs, others leave it running and leave its tuning alone. -/
def Engine.Undisturbed (regs regs' : RegisterFile) : Prop :=
  running regs = true → running regs' = true ∧ regs.SameTuning regs'

/-- Registers that are left alone are undisturbed. -/
lemma Engine.undisturbed_refl (regs : RegisterFile) : Undisturbed regs regs :=
  fun hrunning => ⟨hrunning, .refl regs⟩

/-- A word written elsewhere does not disturb the engine. -/
lemma Engine.undisturbed_write32 {regs : RegisterFile} {offset : Nat} (value : UInt32)
    (hcontrol : offset / 4 ≠ 0) (hscaler : ∀ other ∈ Scaling.offsets, offset / 4 ≠ other / 4) :
    Undisturbed regs (regs.write32 offset value) :=
  fun hrunning => ⟨(running_write32_ne hcontrol value).trans hrunning,
    RegisterFile.sameTuning_write32 value hcontrol hscaler⟩

namespace CaptureQueue

/-- Every buffer of a chain can be captured right after a frame of a geometry. -/
def Suits (q : CaptureQueue) (g : Geometry) (chain : List Nat) : Prop :=
  ∀ i ∈ chain, ∃ h, q.geometryOf i = some h ∧ g.chains h = true

variable {wanted : Geometry → Norm → Prop} {q q' : CaptureQueue} {g : Geometry}
  {chain waiting : List Nat}

/-! ## What scheduling leaves alone -/

/-- Scheduling leaves the geometries alone. -/
lemma geometryOf_eq_of_fixtures (h : q'.fixtures = q.fixtures) (i : Nat) :
    q'.geometryOf i = q.geometryOf i := by
  have hsetup := congrArg (Option.map Setup.geometry) (setupOf_eq_of_fixtures h i)
  rwa [Option.map_map, Option.map_map] at hsetup

/-- A chain suits a geometry whatever is scheduled. -/
lemma Suits.of_fixtures (hsuits : q.Suits g chain) (h : q'.fixtures = q.fixtures) :
    q'.Suits g chain := by
  intro i hi
  rw [geometryOf_eq_of_fixtures h]
  exact hsuits i hi

/-- A chain that suits a geometry suits the geometry of each of its buffers. -/
lemma Suits.rebase {i : Nat} {h : Geometry} (hsuits : q.Suits g chain) (hi : i ∈ chain)
    (hgeometry : q.geometryOf i = some h) : q.Suits h chain := by
  obtain ⟨h', hh', hchains⟩ := hsuits i hi
  obtain rfl := Option.some.inj (hgeometry.symm.trans hh')
  intro j hj
  obtain ⟨k, hk, hfits⟩ := hsuits j hj
  exact ⟨k, hk, Geometry.chains_trans (Geometry.chains_symm hchains) hfits⟩

/-- A buffer is a chain that suits its geometry. -/
lemma suits_singleton {i : Nat} (h : q.geometryOf i = some g) : q.Suits g [i] := by
  intro j hj
  obtain rfl := List.mem_singleton.mp hj
  exact ⟨g, h, g.chains_refl⟩

/-- A chain that is followed by a buffer of the same size and format code suits the same. -/
lemma Suits.concat {i j : Nat} (hsuits : q.Suits g chain) (hi : i ∈ chain)
    (hfollows : q.Follows i j) : q.Suits g (chain ++ [j]) := by
  intro k hk
  obtain hk | hk := List.mem_append.mp hk
  · exact hsuits k hk
  · obtain rfl := List.mem_singleton.mp hk
    obtain ⟨h, hgeometry, hchains⟩ := hsuits i hi
    obtain ⟨h', h'', hgeometry', hk, hfits⟩ := hfollows
    obtain rfl := Option.some.inj (hgeometry.symm.trans hgeometry')
    exact ⟨h'', hk, Geometry.chains_trans hchains hfits⟩

/-- **Waiting buffers that are let into the chain suit what it suits**, or the first of them if
there was no chain.

**Proof sketch.** Induction on those that wait. Each that is let in is compared with the last of the
chain, which suits the geometry already. -/
theorem suits_of_promote (h : q.promote waiting = .ok q') (hsuits : q.Suits g q.active)
    (hfirst : q.active = [] → ∀ i ∈ q'.active.head?, q.geometryOf i = some g) :
    q'.Suits g q'.active := by
  induction waiting generalizing q with
  | nil =>
    obtain rfl : { q with queued := [] } = q' := pure_eq_ok.mp h
    exact hsuits
  | cons i waiting ih =>
    obtain ⟨hnil, hrest⟩ | ⟨previous, s, t, hlast, hs, ht, ⟨hchains, hrest⟩ | ⟨-, rfl⟩⟩ :=
      promote_cases h
    · obtain ⟨taken, hq⟩ := promoted_of_promote hrest
      have hhead : q'.active.head? = some i := by
        rw [hq.rest]
        rfl
      exact ih hrest (suits_singleton (hfirst hnil i hhead)) nofun
    · have hgrown := hsuits.concat (List.mem_of_getLast? hlast)
        (follows_of_setupOf hs ht hchains)
      refine ih hrest (fun j hj => ?_) fun hnil => absurd hnil (List.concat_ne_nil i q.active)
      obtain ⟨h', hj', hfits⟩ := hgrown j hj
      exact ⟨h', (geometryOf_pointTail _).trans hj', hfits⟩
    · exact hsuits

end CaptureQueue

namespace Channel

open CaptureQueue (Operation Answer Event)

variable {δ : Type} {wanted : Geometry → Norm → Prop} {c c' : Channel δ} {now : Int}

/-- The registers are tuned to a wanted geometry under a norm that accepts its size, and the chain
suits it. -/
structure InTune (wanted : Geometry → Norm → Prop) (c : Channel δ) (g : Geometry) (n : Norm) :
    Prop where
  /-- The geometry and the norm are wanted. -/
  wanted : wanted g n
  /-- The norm accepts the size. -/
  accepts : n.accepts g.width g.height = true
  /-- The registers are tuned to them. -/
  tuned : c.regs.Tuned g n
  /-- The chain suits the geometry. -/
  suits : c.Suits g c.active

/-- While there is a chain the engine runs, and its registers are tuned to something that the chain
suits. -/
def Attuned (wanted : Geometry → Norm → Prop) (c : Channel δ) : Prop :=
  c.active ≠ [] → Engine.running c.regs = true ∧ ∃ g n, c.InTune wanted g n

/-- Some geometry suits a chain that the engine is on. -/
lemma Attuned.suits (hc : c.Attuned wanted) (hactive : c.active ≠ []) :
    ∃ g, c.Suits g c.active := by
  obtain ⟨-, g, n, hg⟩ := hc hactive
  exact ⟨g, hg.suits⟩

/-- Where nobody disturbs the engine, a chain that only loses buffers stays in tune. -/
lemma Attuned.mono (hc : c.Attuned wanted) (hregs : Engine.Undisturbed c.regs c'.regs)
    (hfixtures : c'.fixtures = c.fixtures) (hactive : ∀ i ∈ c'.active, i ∈ c.active) :
    c'.Attuned wanted := by
  intro hne
  obtain ⟨i, hi⟩ := List.exists_mem_of_ne_nil _ hne
  obtain ⟨hrunning, g, n, hg⟩ := hc (List.ne_nil_of_mem (hactive i hi))
  obtain ⟨hrunning', hsame⟩ := hregs hrunning
  refine ⟨hrunning', g, n, hg.wanted, hg.accepts, hg.tuned.congr hsame, fun j hj => ?_⟩
  exact hg.suits.of_fixtures hfixtures j (hactive j hj)

/-- Whether a channel is in tune shows in its registers, its fixtures and its chain. -/
lemma Attuned.congr (hc : c.Attuned wanted) (hregs : c'.regs = c.regs)
    (hfixtures : c'.fixtures = c.fixtures) (hactive : c'.active = c.active) :
    c'.Attuned wanted := by
  refine hc.mono ?_ hfixtures fun i hi => hactive ▸ hi
  rw [hregs]
  exact Engine.undisturbed_refl c.regs

/-! ## Starting the engine -/

/-- **Starting the engine tunes it to the head of the chain.**

**Proof sketch.** The registers are tuned to the geometry of the head, under a norm that accepts it,
and that geometry suits the chain by hypothesis. -/
theorem attuned_of_startHead (h : c.startHead now = .ok c') (hserves : c.Serves wanted)
    (hsuits : ∀ g, (∀ i ∈ c.active.head?, c.geometryOf i = some g) → c.Suits g c.active) :
    c'.Attuned wanted := by
  have hfixtures := (sameHoldings_of_startHead h).fixtures
  have hlist := (lists_of_startHead h).1
  obtain ⟨hnil, rfl⟩ | ⟨head, rest, q, setup, engine, regs, hactive, hq, hsetup, hstart, rfl⟩ :=
    startHead_cases h
  · exact fun hne => absurd hnil hne
  · rw [hq.setupOf_eq] at hsetup
    obtain ⟨hwanted, haccepts⟩ := hserves head setup hsetup
    have hgeometry : c.Suits setup.geometry c.active := by
      refine hsuits _ fun i hi => ?_
      rw [hactive] at hi
      obtain rfl : head = i := by simpa using hi
      rw [CaptureQueue.geometryOf, hsetup]
      rfl
    intro _
    refine ⟨Engine.running_start hstart, setup.geometry, setup.norm, hwanted, haccepts,
      Engine.tuned_of_start hstart, ?_⟩
    rw [hlist]
    exact hgeometry.of_fixtures hfixtures

/-- Starting the engine anew tunes it, whether there is a chain already or one is made. -/
lemma attuned_of_restart (h : c.restart now = .ok c') (hserves : c.Serves wanted)
    (hsuits : c.active ≠ [] → ∃ g, c.Suits g c.active) : c'.Attuned wanted := by
  obtain ⟨hactive, hstart⟩ | ⟨q, hnil, hpromote, hstart⟩ := restart_cases h
  · obtain ⟨g, hg⟩ := hsuits hactive
    refine attuned_of_startHead hstart hserves fun k hk => ?_
    obtain ⟨head, hhead⟩ := Option.ne_none_iff_exists'.mp (mt List.head?_eq_none_iff.mp hactive)
    exact hg.rebase (List.mem_of_head? hhead) (hk head hhead)
  · obtain ⟨taken, hq⟩ := CaptureQueue.promoted_of_promote hpromote
    refine attuned_of_startHead hstart (hserves.of_fixtures hq.fixtures) fun k hk => ?_
    refine CaptureQueue.suits_of_promote hpromote ?_ fun _ i hi => ?_
    · rw [hnil]
      exact nofun
    · rw [← CaptureQueue.geometryOf_eq_of_fixtures hq.fixtures]
      exact hk i hi

/-- A buffer that finds its place does not put the chain out of tune.

**Proof sketch.** A buffer that starts a chain is all of it, so its geometry suits it. One that is
spliced can follow the last of the chain, and so suits what the chain suits. -/
lemma attuned_of_place {i : Nat} (h : c.place now i = .ok c') (hserves : c.Serves wanted)
    (hc : c.Attuned wanted) : c'.Attuned wanted := by
  have hfixtures := (sameHoldings_of_place h).fixtures
  have hpointed : (c.pointTail i c.stopper.address).fixtures = c.fixtures :=
    CaptureQueue.fixtures_pointTail _ _ _
  obtain ⟨-, ⟨-, rfl⟩ | ⟨-, -, -, hstart⟩ |
    ⟨previous, spliced, -, -, hlast, hfits, hsplice, rfl⟩⟩ := place_cases h
  · exact hc.congr rfl hfixtures rfl
  · refine attuned_of_startHead hstart (hserves.of_fixtures hpointed) fun g hg => ?_
    exact CaptureQueue.suits_singleton (hg i rfl)
  · obtain ⟨-, -, target, -, -, rfl⟩ := CaptureQueue.splice_eq_ok.mp hsplice
    have hmem : previous ∈ c.active := List.mem_of_getLast? hlast
    obtain ⟨hrunning, g, n, hg⟩ := hc (List.ne_nil_of_mem hmem)
    obtain ⟨s, t, hs, ht, hchains⟩ := CaptureQueue.compatible_eq_ok.mp hfits
    have hgrown := (hg.suits.of_fixtures hpointed).concat hmem
      (CaptureQueue.follows_of_setupOf hs ht hchains)
    intro _
    refine ⟨hrunning, g, n, hg.wanted, hg.accepts, hg.tuned, ?_⟩
    exact hgrown.of_fixtures (hfixtures.trans hpointed.symm)

/-! ## Interrupts -/

/-- A completion leaves the registers tuned to what is left of the chain, or to the new one that is
started. -/
lemma attuned_of_handleCompletion (h : c.handleCompletion now = .ok c')
    (hserves : c.Serves wanted) (hc : c.Attuned wanted) : c'.Attuned wanted := by
  obtain ⟨-, rfl⟩ | ⟨q, -, hcomplete, hcase⟩ := handleCompletion_cases h
  · exact hc
  · have hfixtures := (sameHoldings_of_completeHead hcomplete).fixtures
    have hretired : Attuned wanted { c with toCaptureQueue := q } := by
      refine hc.mono (Engine.undisturbed_refl _) hfixtures fun i hi => ?_
      obtain ⟨-, rfl⟩ | ⟨head, rest, setup, hactive, -, rfl⟩ :=
        CaptureQueue.completeHead_cases hcomplete
      · exact hi
      · rw [hactive]
        exact List.mem_cons_of_mem head hi
    obtain ⟨-, hpark⟩ | ⟨-, rfl⟩ := hcase
    · obtain ⟨hnil, -, rfl⟩ | ⟨-, hrestart⟩ := park_cases hpark
      · exact fun hne => absurd hnil hne
      · exact attuned_of_restart hrestart (hserves.of_fixtures hfixtures) hretired.suits
    · exact hretired

/-- Acting on interrupt status leaves the registers tuned to the chain, if there is one afterwards.
-/
lemma attuned_of_handleStatus {bits : UInt32} {mine : Bool} (hserves : c.Serves wanted)
    (hc : c.Attuned wanted) (h : c.handleStatus now bits = .ok (mine, c')) :
    c'.Attuned wanted := by
  have hacknowledged :
      Attuned wanted { c with regs := c.regs.write32 Register.interruptStatus Status.video } :=
    hc.mono (Engine.undisturbed_write32 _ (by decide) (by decide)) rfl fun _ hi => hi
  obtain ⟨-, -, rfl⟩ | ⟨-, -, ⟨-, rfl⟩ | ⟨-, -, hfail⟩ | ⟨-, -, hcompletion⟩⟩ :=
    handleStatus_cases h
  · exact hc
  · exact hacknowledged
  · obtain ⟨q, backlog, hq, rfl⟩ := failStop_cases hfail
    have hnil : q.active = [] := by rw [hq.rest]
    exact fun hne => absurd hnil hne
  · exact attuned_of_handleCompletion hcompletion hserves hacknowledged

/-! ## Operations -/

section Operations

variable [DmaBackend δ]

/-- Buffers are replaced only while there is no chain. -/
lemma attuned_of_requestBuffers {count capacity : Nat} {result : Except Error Nat}
    (h : c.requestBuffers count capacity = .ok (result, c')) (hsettled : c.Settled)
    (hc : c.Attuned wanted) : c'.Attuned wanted := by
  obtain ⟨-, -, rfl⟩ | ⟨hoff, _, _, -, -, rfl⟩ := requestBuffers_cases h
  · exact hc
  · exact fun hne => absurd (hsettled.off hoff).1 hne

/-- When capture has been stopped there is no chain. -/
lemma attuned_of_streamOff {result : Except Error Unit} (h : c.streamOff = .ok (result, c'))
    (hc : c.Attuned wanted) : c'.Attuned wanted := by
  obtain ⟨-, -, rfl⟩ | ⟨-, -, _, _, -, rfl⟩ := streamOff_cases h
  · exact hc
  · exact fun hne => absurd rfl hne

/-- A buffer that is prepared is not in the chain. -/
lemma attuned_of_prepare {i : Nat} {geometry : Geometry} {norm : Norm}
    {result : Except Error Unit} (h : c.prepare i geometry norm = .ok (result, c'))
    (hsettled : c.Settled) (hc : c.Attuned wanted) : c'.Attuned wanted := by
  obtain ⟨_, -, rfl⟩ | ⟨buffer, buffer', dma, hstream, -, -, -, rfl⟩ := prepare_cases h
  · exact hc
  · intro hactive
    obtain ⟨hrunning, g, n, hg⟩ := hc hactive
    refine ⟨hrunning, g, n, hg.wanted, hg.accepts, hg.tuned, fun j hj => ?_⟩
    -- the buffers of the chain are in the stream, so another one was prepared
    have hne : i ≠ j := by
      rintro rfl
      exact hstream (hsettled.mem_stream (.inl hj))
    obtain ⟨k, hk, hchains⟩ := hg.suits j hj
    refine ⟨k, ?_, hchains⟩
    rw [CaptureQueue.geometryOf, CaptureQueue.setupOf, List.getElem?_set_ne hne]
    exact hk

/-- **No operation puts a chain out of tune.**

**Proof sketch.** Only starting the engine tunes the registers anew. All else leaves them, and a
chain that grows or shrinks keeps suiting what it suited. -/
theorem responding_attuned : Responding fun _ _ (c c' : Channel δ) =>
    c.Settled → c.Serves wanted → c.Attuned wanted → c'.Attuned wanted where
  request h hsettled _ hc := attuned_of_requestBuffers h hsettled hc
  prepare h hsettled _ hc := attuned_of_prepare h hsettled hc
  enqueue h _ hserves hc := by
    obtain ⟨_, -, rfl⟩ | ⟨-, -, -, ⟨-, hplace⟩ | ⟨-, rfl⟩⟩ := enqueue_cases h
    · exact hc
    · exact attuned_of_place hplace hserves (hc.congr rfl rfl rfl)
    · exact hc.congr rfl rfl rfl
  dequeue h _ _ hc := by
    obtain ⟨_, -, rfl⟩ | ⟨_, _, _, _, -, -, -, -, -, rfl⟩ := dequeue_cases h
    · exact hc
    · exact hc.congr rfl rfl rfl
  streamOn h _ hserves hc := by
    obtain ⟨-, -, -, rfl⟩ | ⟨-, -, -, hrestart⟩ | ⟨-, -, hplace⟩ := streamOn_cases h
    · exact hc
    · exact attuned_of_restart hrestart hserves hc.suits
    · have hall := placeAll_keeps (P := fun c => c.Serves wanted ∧ c.Attuned wanted)
        (fun _ _ _ hc hone => ⟨hc.1.of_fixtures (sameHoldings_of_place hone).fixtures,
          attuned_of_place hone hc.1 hc.2⟩) hplace ⟨hserves, ?_⟩
      · exact hall.2
      · exact hc.congr rfl rfl rfl
  streamOff h _ _ hc := attuned_of_streamOff h hc
  status h _ hserves hc := attuned_of_handleStatus hserves hc h
  timeout h _ hserves hc := by
    obtain ⟨-, rfl, -⟩ | ⟨-, hnil, rfl⟩ | ⟨-, -, q, hq, hrestart⟩ := checkTimeout_cases h
    · exact hc
    · exact fun hne => absurd hnil hne
    · have hnil : q.active = [] := by rw [hq.rest]
      exact attuned_of_restart hrestart (hserves.of_fixtures hq.fixtures_eq)
        fun hne => absurd hnil hne
  maskAll _ _ hc :=
    hc.mono (Engine.undisturbed_write32 _ (by decide) (by decide)) rfl fun _ hi => hi
  report _ _ _ _ hc := hc.congr rfl rfl rfl
  shutdown h hsettled _ hc := by
    obtain ⟨c₁, ⟨-, rfl⟩ | ⟨-, _, hoff⟩, _, hrequest⟩ := shutdown_cases h
    · exact attuned_of_requestBuffers hrequest hsettled hc
    · exact attuned_of_requestBuffers hrequest (settled_of_streamOff hsettled hoff)
        (attuned_of_streamOff hoff hc)

/-! ## Sessions -/

/-- Which buffers of a chain the registers are tuned to, if they are tuned to a geometry under a
norm: all that take the same of them, and no others. -/
structure Shares (c : Channel δ) (g : Geometry) (n : Norm) (setup : Setup) : Prop where
  /-- The buffer has the size and the format code of the geometry. -/
  chains : g.chains setup.geometry = true
  /-- The registers are tuned to the buffer if it takes the same of them. -/
  tuned_iff : c.regs.Tuned setup.geometry setup.norm ↔ g.TunesLike n setup.geometry setup.norm
  /-- Among what the decoder knows, that depends on the timing and on whether both fields are
  held. -/
  known_iff : g.Known n → setup.geometry.Known setup.norm →
    (c.regs.Tuned setup.geometry setup.norm ↔
      n.SameTiming setup.norm ∧ g.field.hasBoth = setup.geometry.field.hasBoth)

variable {regs : RegisterFile} {dma dma' : δ} {config : Config} {c₀ : Channel δ}
  {events : List Event}

/-- In a whole session the engine stays in tune with its chain. -/
lemma attuned_of_session (hcreate : create regs dma config = (.ok c₀, dma'))
    (h : c₀.Session (fun _ operation => operation.PreparesFor wanted) Engine.Undisturbed events c) :
    c.Serves wanted ∧ c.Attuned wanted := by
  refine h.keeps (P := fun c => c.Serves wanted ∧ c.Attuned wanted) ?_ ?_ ?_
  · obtain ⟨stopper, -, rfl⟩ := create_eq_ok hcreate
    exact ⟨CaptureQueue.serves_of_empty nofun, fun hne => absurd rfl hne⟩
  · intro c₁ _ _ _ hbefore hwanted ⟨hserves, hattuned⟩ hperform
    have hsettled := settled_of_reaches hcreate hbefore
    exact ⟨responding_serves.of_perform hperform hwanted hserves,
      responding_attuned.of_perform hperform hsettled hserves hattuned⟩
  · intro _ _ hdrift ⟨hserves, hattuned⟩
    exact ⟨hserves, hattuned.mono hdrift rfl fun _ hi => hi⟩

/-- **All buffers of a chain are captured with the registers tuned to one geometry under one norm**,
and so as they ask exactly if that takes the same of the registers. -/
theorem shares_of_session (hcreate : create regs dma config = (.ok c₀, dma'))
    (h : c₀.Session (fun _ operation => operation.PreparesFor wanted) Engine.Undisturbed events c)
    (hactive : c.active ≠ []) :
    Engine.running c.regs = true ∧ ∃ g n, wanted g n ∧ c.regs.Tuned g n ∧
      ∀ i ∈ c.active, ∃ setup, c.setupOf i = some setup ∧ wanted setup.geometry setup.norm ∧
        c.Shares g n setup := by
  obtain ⟨hserves, hattuned⟩ := attuned_of_session hcreate h
  obtain ⟨hrunning, g, n, hg⟩ := hattuned hactive
  refine ⟨hrunning, g, n, hg.wanted, hg.tuned, fun i hi => ?_⟩
  obtain ⟨geometry, hgeometry, hchains⟩ := hg.suits i hi
  obtain ⟨setup, hsetup, rfl⟩ := Option.map_eq_some_iff.mp hgeometry
  refine ⟨setup, hsetup, (hserves i setup hsetup).1, hchains, hg.tuned.tuned_iff,
    fun hknown hknown' => ?_⟩
  exact hg.tuned.tuned_iff.trans
    (Geometry.tunesLike_iff hknown hknown' hg.accepts hchains)

/-- A whole frame and a single field of the same size make one chain, and the registers are not
tuned to the field. -/
theorem shares_of_session_mixed :
    ∃ c₀ dma events c, create {} HostDma.create {} = (.ok c₀, dma) ∧
      c₀.Session (fun _ operation => operation.PreparesFor Geometry.Known) Engine.Undisturbed
        events c ∧
      c.active = [0, 1] ∧
      (∃ setup, c.setupOf 1 = some setup ∧ ¬c.regs.Tuned setup.geometry setup.norm) ∧
      ∃ g n, g.Known n ∧ c.regs.Tuned g n ∧
        ∀ i ∈ c.active, ∃ setup, c.setupOf i = some setup ∧ setup.geometry.Known setup.norm ∧
          c.Shares g n setup := by
  let single : Geometry := { width := 48, height := 32, format := .initial, field := .bottom }
  let both : Geometry := { single with field := .interlaced }
  obtain ⟨c₀, dma, events, c, hcreate, hsession, hview⟩ :=
    exists_session_of_hostedRecord Engine.Undisturbed
      (show hostedRecord (fun _ operation => operation.PreparesFor Geometry.Known)
        [.request 2 8192, .prepare 0 both .initial, .prepare 1 single .initial, .enqueue 0 0,
          .enqueue 0 1, .streamOn 0]
        (fun _ c => (c.active, (c.setupOf 1).map fun setup =>
          decide (c.regs.Tuned setup.geometry setup.norm))) = some ([0, 1], some false) by
      decide +kernel)
  obtain ⟨hactive, htuned⟩ := Prod.mk.inj hview
  obtain ⟨setup, hsetup, hnot⟩ := Option.map_eq_some_iff.mp htuned
  have hne : c.active ≠ [] := by
    rw [hactive]
    exact nofun
  exact ⟨c₀, dma, events, c, hcreate, hsession, hactive,
    ⟨setup, hsetup, of_decide_eq_false hnot⟩, (shares_of_session hcreate hsession hne).2⟩

end Operations

end Channel

end VideoCapture
