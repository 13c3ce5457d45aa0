import VideoCapture.Proofs.Queue.Order
import VideoCapture.Proofs.Queue.Steps
import Mathlib.Data.List.Chain

/-!
# Links of the chain

The chain exists twice: as a list of buffers, and as jumps in the memory of their programs. The tail
of each program jumps to the next one's start, the last jumps to the stopper, and so do the tails of
those that wait, so that they can become the last of a chain at any time.

Links are written in two places only: a buffer that finds its place has its tail pointed at the
stopper, and the last buffer of the chain has its tail pointed at a buffer that is appended to it.
So the chain only ever grows at its end and loses its head.

## Main definitions

* `VideoCapture.CaptureQueue.tailOf`, `VideoCapture.CaptureQueue.addressOf`,
  `VideoCapture.CaptureQueue.geometryOf` — views of a buffer's program.
* `VideoCapture.CaptureQueue.Linked` — the tails of a chain and of those that wait for it.
* `VideoCapture.CaptureQueue.Chained` — the links and positions of a queue's chain.

## Main results

* `VideoCapture.CaptureQueue.Linked.extend` — the chain grows at its end.
* `VideoCapture.CaptureQueue.linked_of_promote` — waiting buffers are linked when they are let in.
* `VideoCapture.CaptureQueue.Chained.splice` — a buffer is spliced onto the chain.
-/

set_option autoImplicit false

namespace VideoCapture

namespace Geometry

/-- Frames of one geometry can follow each other. -/
lemma chains_refl (g : Geometry) : g.chains g = true := by
  simp [chains]

/-- If one frame can follow another, the other can follow it. -/
lemma chains_symm {g h : Geometry} (hgh : g.chains h = true) : h.chains g = true := by
  simp only [chains, Bool.and_eq_true, beq_iff_eq] at hgh ⊢
  exact ⟨⟨hgh.1.1.symm, hgh.1.2.symm⟩, hgh.2.symm⟩

/-- What can follow a frame can follow what it follows. -/
lemma chains_trans {g h k : Geometry} (hgh : g.chains h = true) (hhk : h.chains k = true) :
    g.chains k = true := by
  simp only [chains, Bool.and_eq_true, beq_iff_eq] at hgh hhk ⊢
  exact ⟨⟨hgh.1.1.trans hhk.1.1, hgh.1.2.trans hhk.1.2⟩, hgh.2.trans hhk.2⟩

end Geometry

namespace CaptureQueue

/-! ## Views of programs -/

/-- What stands at the tail of a buffer's program. -/
def tailOf (q : CaptureQueue) (i : Nat) : Option Instruction :=
  (q.setupOf i).bind fun setup => setup.program.tailInstruction

/-- Where a buffer's program begins. -/
def addressOf (q : CaptureQueue) (i : Nat) : Option UInt32 :=
  (q.setupOf i).map fun setup => setup.program.address

/-- The geometry that a buffer is prepared for. -/
def geometryOf (q : CaptureQueue) (i : Nat) : Option Geometry :=
  (q.setupOf i).map Setup.geometry

/-- The tail of a buffer's program jumps to the program of another, with an interrupt. -/
def Points (q : CaptureQueue) (i j : Nat) : Prop :=
  ∃ address, q.addressOf j = some address ∧ q.tailOf i = some (.jumpTo address true)

/-- The tail of a buffer's program jumps to the stopper, with an interrupt. -/
def Ends (q : CaptureQueue) (i : Nat) : Prop :=
  q.tailOf i = some (.jumpTo q.stopper.address true)

/-- A buffer can be captured right after another. -/
def Follows (q : CaptureQueue) (i j : Nat) : Prop :=
  ∃ g h, q.geometryOf i = some g ∧ q.geometryOf j = some h ∧ g.chains h = true

/-- The tails of the chain lead from buffer to buffer and then to the stopper, those of the waiting
buffers to the stopper, and the buffers of the chain can all be captured after each other. -/
structure Linked (q : CaptureQueue) (chain waiting : List Nat) : Prop where
  /-- Each program of the chain jumps to the next. -/
  points : chain.IsChain q.Points
  /-- The last jumps to the stopper. -/
  last : ∀ i ∈ chain.getLast?, q.Ends i
  /-- So do those that wait. -/
  waiting : ∀ i ∈ waiting, q.Ends i
  /-- Any two of the chain can be captured after each other. -/
  follows : chain.Pairwise q.Follows

/-- The positions of the chain count up to the one before the queue's next. -/
def Counted (q : CaptureQueue) : Prop :=
  ∃ first, q.active.map q.positionOf = (List.range' first q.active.length).map some ∧
    first + q.active.length = q.count

/-- The links and the positions of a queue's chain. -/
structure Chained (q : CaptureQueue) : Prop where
  /-- The tails lead through the chain. -/
  linked : q.Linked q.active q.queued
  /-- The positions count up. -/
  counted : q.Counted

/-! ## What leaves links alone -/

variable {q q' : CaptureQueue} {chain waiting : List Nat} {i j : Nat}

/-- Links depend on the setups of the buffers concerned and on the stopper. -/
lemma Linked.congr (h : q.Linked chain waiting)
    (hsetup : ∀ i, i ∈ chain ∨ i ∈ waiting → q'.setupOf i = q.setupOf i)
    (hstopper : q'.stopper = q.stopper) : q'.Linked chain waiting := by
  have htail : ∀ i, i ∈ chain ∨ i ∈ waiting → q'.tailOf i = q.tailOf i := fun i hi => by
    rw [tailOf, hsetup i hi, tailOf]
  refine ⟨h.points.imp_of_mem_imp fun i j hi hj hpoints => ?_, fun i hi => ?_, fun i hi => ?_,
    h.follows.imp_of_mem fun {i j} hi hj hfollows => ?_⟩
  · rw [Points, htail i (.inl hi), addressOf, hsetup j (.inl hj)]
    exact hpoints
  · rw [Ends, htail i (.inl (List.mem_of_getLast? hi)), hstopper]
    exact h.last i hi
  · rw [Ends, htail i (.inr hi), hstopper]
    exact h.waiting i hi
  · rw [Follows, geometryOf, geometryOf, hsetup i (.inl hi), hsetup j (.inl hj)]
    exact hfollows

/-- Without a chain only those that wait are linked. -/
lemma Linked.forget (h : q.Linked chain waiting) : q.Linked [] waiting :=
  ⟨.nil, by simp, h.waiting, .nil⟩

/-- The chain loses its head. -/
lemma Linked.tail (h : q.Linked (i :: chain) waiting) : q.Linked chain waiting := by
  refine ⟨h.points.tail, fun j hj => h.last j ?_, h.waiting, (List.pairwise_cons.mp h.follows).2⟩
  cases chain with
  | nil => cases hj
  | cons k chain => exact hj

/-- A buffer that waits may be the whole chain. -/
lemma Linked.start (h : q.Linked [] (i :: waiting)) : q.Linked [i] waiting := by
  refine ⟨.singleton i, fun j hj => ?_, fun j hj => h.waiting j (List.mem_cons_of_mem i hj),
    List.pairwise_singleton _ i⟩
  obtain rfl : i = j := by simpa using hj
  exact h.waiting i List.mem_cons_self

/-! ## Pointing tails -/

/-- Programs stay where they are, wherever a tail is pointed. -/
lemma addressOf_pointTail (target : UInt32) :
    (q.pointTail i target).addressOf j = q.addressOf j := by
  rw [addressOf, setupOf_pointTail, Option.map_map, addressOf]
  congr 1
  funext setup
  dsimp only [Function.comp]
  split <;> rfl

/-- Programs keep their geometries, wherever a tail is pointed. -/
lemma geometryOf_pointTail (target : UInt32) :
    (q.pointTail i target).geometryOf j = q.geometryOf j := by
  rw [geometryOf, setupOf_pointTail, Option.map_map, geometryOf]
  congr 1
  funext setup
  dsimp only [Function.comp]
  split <;> rfl

/-- The other tails stay where they point. -/
lemma tailOf_pointTail_ne (h : i ≠ j) (target : UInt32) :
    (q.pointTail i target).tailOf j = q.tailOf j := by
  rw [tailOf, setupOf_pointTail]
  simp only [if_neg h, Option.map_id', tailOf]

/-- A tail jumps where it is pointed. -/
lemma tailOf_pointTail_self {setup : Setup} (hsetup : q.setupOf i = some setup)
    (htail : setup.program.HasTail) (target : UInt32) :
    (q.pointTail i target).tailOf i = some (.jumpTo target true) := by
  rw [tailOf, setupOf_pointTail, hsetup]
  simp only [if_true, Option.map_some, Option.bind_some]
  exact Program.tailInstruction_retarget htail target true

/-- Whether a buffer can be captured right after another shows in the two setups. -/
lemma follows_of_setupOf {s t : Setup} (hs : q.setupOf i = some s) (ht : q.setupOf j = some t)
    (hchains : s.geometry.chains t.geometry = true) : q.Follows i j :=
  ⟨s.geometry, t.geometry, by rw [geometryOf, hs]; rfl, by rw [geometryOf, ht]; rfl, hchains⟩

/-- Being captured after another goes on through a third. -/
lemma Follows.trans {k : Nat} (h : q.Follows i j) (h' : q.Follows j k) : q.Follows i k := by
  obtain ⟨gi, gj, hi, hj, hij⟩ := h
  obtain ⟨gj', gk, hj', hk, hjk⟩ := h'
  obtain rfl := Option.some.inj (hj.symm.trans hj')
  exact ⟨gi, gk, hi, hk, Geometry.chains_trans hij hjk⟩

/-- **The chain grows at its end.** When the tail of the last buffer is pointed at a buffer whose
own tail jumps to the stopper, and that can be captured after it, that buffer is the new last.

**Proof sketch.** Only the tail of the last buffer changes. Links in front of it stay, it is linked
to the new last, whose tail jumps to the stopper, and those that wait are other buffers. -/
theorem Linked.extend {setup target : Setup} (h : q.Linked (chain ++ [j]) waiting)
    (hnodup : (chain ++ [j]).Nodup) (hi : i ∉ chain ++ [j]) (hwaiting : j ∉ waiting)
    (hsetup : q.setupOf j = some setup) (htail : setup.program.HasTail)
    (htarget : q.setupOf i = some target) (hends : q.Ends i) (hfollows : q.Follows j i) :
    (q.pointTail j target.program.address).Linked (chain ++ [j, i]) waiting := by
  have hij : j ≠ i := fun heq => hi (by simp [heq])
  have hj : ∀ k ∈ chain, j ≠ k := by
    intro k hk heq
    have hdisjoint := (List.nodup_append.mp hnodup).2.2 k hk j List.mem_cons_self
    exact hdisjoint heq.symm
  -- the tails in front of the last stay, and so do all addresses and geometries
  have hpoints : ∀ k l, k ∈ chain → q.Points k l →
      (q.pointTail j target.program.address).Points k l := by
    intro k l hk ⟨address, haddress, htailk⟩
    refine ⟨address, ?_, ?_⟩
    · rw [addressOf_pointTail, haddress]
    · rw [tailOf_pointTail_ne (hj k hk), htailk]
  have hlink : (q.pointTail j target.program.address).Points j i := by
    refine ⟨target.program.address, ?_, tailOf_pointTail_self hsetup htail _⟩
    rw [addressOf_pointTail, addressOf, htarget, Option.map_some]
  refine ⟨?_, fun k hk => ?_, fun k hk => ?_, ?_⟩
  · rw [List.isChain_append_cons_cons]
    refine ⟨?_, hlink, .singleton i⟩
    obtain ⟨hfront, -, hborder⟩ := List.isChain_append.mp h.points
    refine List.isChain_append.mpr ⟨?_, .singleton j, fun k hk l hl => ?_⟩
    · exact hfront.imp_of_mem_imp fun k l hk _ => hpoints k l hk
    · exact hpoints k l (List.mem_of_getLast? hk) (hborder k hk l hl)
  · obtain rfl : i = k := by simpa using hk
    rw [Ends, tailOf_pointTail_ne hij]
    exact hends
  · rw [Ends, tailOf_pointTail_ne fun heq : j = k => hwaiting (heq ▸ hk)]
    exact h.waiting k hk
  · have hall : (chain ++ [j, i]).Pairwise q.Follows := by
      rw [show chain ++ [j, i] = (chain ++ [j]) ++ [i] by simp]
      refine List.pairwise_append.mpr ⟨h.follows, List.pairwise_singleton _ i, fun k hk l hl => ?_⟩
      obtain rfl := List.mem_singleton.mp hl
      obtain hk | hk := List.mem_append.mp hk
      · exact ((List.pairwise_append.mp h.follows).2.2 k hk j List.mem_cons_self).trans hfollows
      · obtain rfl := List.mem_singleton.mp hk
        exact hfollows
    refine hall.imp fun {k l} hkl => ?_
    rw [Follows, geometryOf_pointTail, geometryOf_pointTail]
    exact hkl

/-! ## Steps of the scheduler -/

/-- Numbering a chain leaves the setups alone. -/
lemma Numbered.setupOf_eq {position : Nat} (h : q.Numbered position chain q') (i : Nat) :
    q'.setupOf i = q.setupOf i := by
  by_cases hi : i ∈ chain
  · obtain ⟨buffer, p, hbuffer, hbuffer'⟩ := h.changed i hi
    rw [setupOf, hbuffer', setupOf, hbuffer]
    rfl
  · rw [setupOf, h.others i hi, setupOf]

/-- Giving buffers up leaves the setups alone. -/
lemma Failed.setupOf_eq (h : q.Failed chain q') (i : Nat) : q'.setupOf i = q.setupOf i := by
  by_cases hi : i ∈ chain
  · obtain ⟨buffer, hbuffer, hbuffer'⟩ := h.changed i hi
    rw [setupOf, hbuffer', setupOf, hbuffer]
    rfl
  · rw [setupOf, h.others i hi, setupOf]

/-- Links that are written keep every program's tail in its memory. -/
lemma hasTail_pointTail (htails : ∀ i setup, q.setupOf i = some setup → setup.program.HasTail)
    (target : UInt32) :
    ∀ j setup, (q.pointTail i target).setupOf j = some setup → setup.program.HasTail := by
  intro j setup hsetup
  rw [setupOf_pointTail] at hsetup
  obtain ⟨before, hbefore, rfl⟩ := Option.map_eq_some_iff.mp hsetup
  have htail := htails j before hbefore
  split
  · exact Program.hasTail_retarget.mpr htail
  · exact htail

/-- **Letting waiting buffers into the chain links them.**

**Proof sketch.** Induction on those that wait. The first of them may be the whole chain; any other
is appended to it, which is the step that `Linked.extend` covers. -/
theorem linked_of_promote (h : q.promote waiting = .ok q') (hlinked : q.Linked q.active waiting)
    (hnodup : (q.active ++ waiting).Nodup)
    (htails : ∀ i setup, q.setupOf i = some setup → setup.program.HasTail) :
    q'.Linked q'.active q'.queued := by
  induction waiting generalizing q with
  | nil =>
    obtain rfl : { q with queued := [] } = q' := pure_eq_ok.mp h
    exact hlinked.congr (fun _ _ => rfl) rfl
  | cons i waiting ih =>
    obtain ⟨hactive, hrest⟩ | ⟨j, s, t, hlast, hs, ht, ⟨hchains, hrest⟩ | ⟨-, rfl⟩⟩ :=
      promote_cases h
    · rw [hactive] at hlinked hnodup
      exact ih hrest (hlinked.start.congr (fun _ _ => rfl) rfl) hnodup htails
    · obtain ⟨front, hactive⟩ := List.getLast?_eq_some_iff.mp hlast
      rw [hactive] at hlinked hnodup
      obtain ⟨hchain, hwait, hapart⟩ := List.nodup_append.mp hnodup
      have hi : i ∉ front ++ [j] := fun hmem => hapart i hmem i List.mem_cons_self rfl
      have hj : j ∉ waiting := fun hmem =>
        hapart j (by simp) j (List.mem_cons_of_mem i hmem) rfl
      have hbefore : q.Linked (front ++ [j]) waiting :=
        ⟨hlinked.points, hlinked.last, fun k hk => hlinked.waiting k (List.mem_cons_of_mem i hk),
          hlinked.follows⟩
      have hextend := hbefore.extend hchain hi hj hs (htails j s hs) ht
        (hlinked.waiting i List.mem_cons_self) (follows_of_setupOf hs ht hchains)
      have hgrown : q.active ++ [i] = front ++ [j, i] := by rw [hactive, List.append_assoc]; rfl
      refine ih hrest ?_ ?_ (hasTail_pointTail htails _)
      · show CaptureQueue.Linked _ (q.active ++ [i]) waiting
        rw [hgrown]
        exact hextend.congr (fun _ _ => rfl) rfl
      · show (q.active ++ [i] ++ waiting).Nodup
        rw [hactive, List.append_assoc]
        exact hnodup
    · exact hlinked.congr (fun _ _ => rfl) rfl

/-- What runs and what waits are different buffers. -/
lemma Placed.nodup_inFlight {f r w p : List Nat} (h : q.Placed f r w p) : (r ++ w).Nodup := by
  have hnodup := h.nodup
  rw [h.stream] at hnodup
  grind

/-- What runs or waits is in the stream. -/
lemma Settled.mem_stream (h : q.Settled) (hi : i ∈ q.active ∨ i ∈ q.queued) : i ∈ q.stream := by
  by_cases hon : q.streaming = true
  · obtain ⟨f, hf⟩ := h.on hon
    rw [hf.stream]
    simp only [List.mem_append]
    tauto
  · obtain ⟨hactive, hqueued, -⟩ := h.off (eq_false_of_ne_true hon)
    rw [hactive, hqueued] at hi
    simp at hi

/-! ## Links and positions together -/

/-- Links and positions depend on the setups and positions of the buffers concerned, the lists and
the next position. -/
lemma Chained.congr (h : q.Chained)
    (hsetup : ∀ i, i ∈ q.active ∨ i ∈ q.queued → q'.setupOf i = q.setupOf i)
    (hposition : ∀ i ∈ q.active, q'.positionOf i = q.positionOf i)
    (hstopper : q'.stopper = q.stopper) (hactive : q'.active = q.active)
    (hqueued : q'.queued = q.queued) (hcount : q'.count = q.count) : q'.Chained where
  linked := by
    rw [hactive, hqueued]
    exact h.linked.congr hsetup hstopper
  counted := by
    rw [Counted, hactive, hcount, List.map_congr_left hposition]
    exact h.counted

/-- Empty lists have nothing to link. -/
lemma chained_nil (hactive : q.active = []) (hqueued : q.queued = []) : q.Chained := by
  refine ⟨?_, q.count, ?_⟩
  · rw [hactive, hqueued]
    exact ⟨.nil, by simp, by simp, .nil⟩
  · rw [hactive]
    exact ⟨rfl, rfl⟩

/-- The tail of a buffer that is neither in the chain nor waits may be pointed anywhere. -/
lemma Chained.pointTail (h : q.Chained) (hactive : i ∉ q.active) (hqueued : i ∉ q.queued)
    (target : UInt32) : (q.pointTail i target).Chained where
  linked := by
    refine h.linked.congr (fun j hj => ?_) rfl
    have hne : i ≠ j := by
      rintro rfl
      exact hj.elim hactive hqueued
    rw [setupOf_pointTail]
    simp only [if_neg hne, Option.map_id']
  counted := by
    obtain ⟨first, hpositions, hcount⟩ := h.counted
    exact ⟨first, Eq.trans (List.map_congr_left fun j _ => positionOf_pointTail q i j target)
      hpositions, hcount⟩

/-- A buffer whose tail jumps to the stopper may wait. -/
lemma Chained.wait (h : q.Chained) (hends : q.Ends i) : (q.wait i).Chained where
  linked := by
    have hwaits : q.Linked q.active (q.queued ++ [i]) := by
      refine ⟨h.linked.points, h.linked.last, fun j hj => ?_, h.linked.follows⟩
      obtain hj | hj := List.mem_append.mp hj
      · exact h.linked.waiting j hj
      · obtain rfl := List.mem_singleton.mp hj
        exact hends
    exact hwaits.congr (fun j _ => setupOf_modify q i j _ fun _ => rfl) rfl
  counted := by
    obtain ⟨first, hpositions, hcount⟩ := h.counted
    refine ⟨first, Eq.trans (List.map_congr_left fun j _ => ?_) hpositions, hcount⟩
    exact positionOf_modify q i j _ fun _ => rfl

/-- A buffer whose tail jumps to the stopper may be spliced onto a chain that it can follow.

**Proof sketch.** The links are those of the chain grown at its end. The positions go on by one, as
the new buffer takes the number that comes next. -/
lemma Chained.splice (h : q.Chained) (hsplice : q.splice j i = .ok q') (hqueued : q.queued = [])
    (hlast : q.active.getLast? = some j) (hnodup : q.active.Nodup) (hi : i ∉ q.active)
    (htails : ∀ i setup, q.setupOf i = some setup → setup.program.HasTail) (hends : q.Ends i)
    (hfollows : q.Follows j i) : q'.Chained := by
  obtain ⟨-, hlength, target, htarget, ⟨setup, hsetup⟩, rfl⟩ := splice_eq_ok.mp hsplice
  obtain ⟨front, hfront⟩ := List.getLast?_eq_some_iff.mp hlast
  have hgrown : q.active ++ [i] = front ++ [j, i] := by
    rw [hfront, List.append_assoc]
    rfl
  obtain ⟨first, hpositions, hcount⟩ := h.counted
  refine ⟨?_, first, ?_, ?_⟩
  · show Linked _ (q.active ++ [i]) q.queued
    have hlinked := h.linked
    rw [hfront] at hlinked hnodup hi
    have hextend := hlinked.extend hnodup hi (by simp [hqueued]) hsetup (htails j setup hsetup)
      htarget hends hfollows
    rw [hgrown]
    -- becoming active shows in the stage and the position of the buffer, not in its setup
    refine hextend.congr (fun k _ => ?_) rfl
    refine (setupOf_pointTail _ j k _).trans (Eq.trans ?_ (setupOf_pointTail q j k _).symm)
    exact congrArg (Option.map _) (setupOf_modify q i k _ fun _ => rfl)
  · show (q.active ++ [i]).map _ = (List.range' first (q.active ++ [i]).length).map some
    rw [List.length_append, List.length_singleton, List.range'_concat, List.map_append,
      List.map_append, ← hpositions]
    congr 1
    · refine List.map_congr_left fun k hk => ?_
      have hne : i ≠ k := by
        rintro rfl
        exact hi hk
      exact (positionOf_pointTail _ j k _).trans (positionOf_modify_ne q i k _ hne)
    · have hposition : ((q.modify i fun buffer =>
          { buffer with state := .active, position := q.count }).pointTail j
            target.program.address).positionOf i = some q.count := by
        rw [positionOf_pointTail, positionOf, getElem?_modify, if_pos rfl,
          List.getElem?_eq_getElem hlength]
        rfl
      rw [Nat.one_mul, hcount]
      exact congrArg (fun x => [x]) hposition
  · show first + (q.active ++ [i]).length = q.count + 1
    rw [List.length_append, ← hcount]
    rfl

end CaptureQueue

end VideoCapture
