import VideoCapture.Dma.Window
import Mathlib.Tactic.Lemma

/-!
# A window accounts for its ranges

The ranges that a window has handed out and those that were given back tile the part of it that is
used up: laid in some order one behind the other they fill it without gap and without overlap.
Taking and giving back only move a range from one of the two kinds to the other, or add a tile at
the end.

## Main definitions

* `VideoCapture.BusRange` — a range of bus addresses, and when two are apart.
* `VideoCapture.Tiles` — ranges that fill a stretch of addresses.
* `VideoCapture.BusWindow.Accounts` — the ranges taken from a window and those given back tile it.
* `VideoCapture.BusWindow.Bookkeeping` — what taking and giving back a range keep up.

## Main results

* `VideoCapture.BusWindow.Accounts.take`, `VideoCapture.BusWindow.Accounts.give` — a range is taken
  and given back.
* `VideoCapture.BusWindow.Bookkeeping.takeMany` — several are taken, or none.
* `VideoCapture.BusWindow.Accounts.pairwise_apart` — no two ranges share an address.
-/

set_option autoImplicit false

namespace VideoCapture

/-- A range of bus addresses, whether it is handed out or not. -/
abbrev BusRange := FreeRange

/-- Two ranges share no address. -/
def FreeRange.Apart (a b : BusRange) : Prop :=
  a.address + a.size ≤ b.address ∨ b.address + b.size ≤ a.address

/-- Which of two ranges comes first does not matter. -/
lemma FreeRange.Apart.symm {a b : BusRange} (h : a.Apart b) : b.Apart a :=
  Or.symm h

/-! ## Tiles -/

/-- Ranges that fill the addresses from `start` to `stop`, one behind the other. -/
def Tiles (start : Nat) : List BusRange → (stop : Nat) → Prop
  | [], stop => start = stop
  | range :: rest, stop => range.address = start ∧ Tiles (start + range.size) rest stop

/-- Tiles can be laid on behind others. -/
lemma Tiles.append {start middle stop : Nat} {l m : List BusRange} (hl : Tiles start l middle)
    (hm : Tiles middle m stop) : Tiles start (l ++ m) stop := by
  induction l generalizing start with
  | nil =>
    obtain rfl : start = middle := hl
    exact hm
  | cons range rest ih => exact ⟨hl.1, ih hl.2⟩

/-- Tiles lie in the stretch that they fill.

**Proof sketch.** Along the tiles. The first begins at the start and the others at its end, and by
hypothesis these lie between its end and the stop. -/
lemma Tiles.bounds {start stop : Nat} {l : List BusRange} (h : Tiles start l stop) :
    start ≤ stop ∧ ∀ range ∈ l, start ≤ range.address ∧ range.address + range.size ≤ stop := by
  induction l generalizing start with
  | nil =>
    obtain rfl : start = stop := h
    exact ⟨Nat.le_refl _, by simp⟩
  | cons range rest ih =>
    obtain ⟨hstop, hrest⟩ := ih h.2
    have haddress := h.1
    refine ⟨by omega, fun r hr => ?_⟩
    obtain rfl | hr := List.mem_cons.mp hr
    · omega
    · have := hrest r hr
      omega

/-- Tiles lie apart.

**Proof sketch.** Along the tiles. All that follow the first lie behind its end (`Tiles.bounds`). -/
lemma Tiles.pairwise_apart {start stop : Nat} {l : List BusRange} (h : Tiles start l stop) :
    l.Pairwise FreeRange.Apart := by
  induction l generalizing start with
  | nil => exact List.Pairwise.nil
  | cons range rest ih =>
    refine List.pairwise_cons.mpr ⟨fun r hr => .inl ?_, ih h.2⟩
    have hr := (h.2.bounds.2 r hr).1
    have haddress := h.1
    omega

namespace BusWindow

/-! ## Accounts -/

/-- The ranges taken from a window and those given back to it tile what is used up of it. -/
structure Accounts (window : BusWindow) (taken : List BusRange) : Prop where
  /-- The window lies in reach of the bus. -/
  inReach : window.base + window.size ≤ 0x100000000
  /-- No more of it is used up than there is. -/
  bounded : window.next ≤ window.size
  /-- Ranges consist of whole pages. -/
  whole : ∀ range ∈ taken ++ window.free, pageSize ∣ range.size
  /-- The ranges are tiles. -/
  tiled : ∃ tiles, tiles.Perm (taken ++ window.free) ∧
    Tiles window.base tiles (window.base + window.next)

variable {window window' : BusWindow} {taken taken' : List BusRange}

/-- The order in which ranges are accounted for does not matter. -/
lemma Accounts.perm (h : window.Accounts taken) (hperm : taken.Perm taken') :
    window.Accounts taken' := by
  obtain ⟨tiles, htiles, htile⟩ := h.tiled
  refine ⟨h.inReach, h.bounded, fun range hr => h.whole range ?_, tiles,
    htiles.trans (hperm.append_right _), htile⟩
  exact (hperm.append_right window.free).mem_iff.mpr hr

/-- **Taking a range** accounts for it.

**Proof sketch.** A range that was given back is moved from the ranges that are free to those that
are taken, so the tiles stay as they are up to their order. Otherwise the range is the next part of
the window, and a tile is laid on behind the others (`Tiles.append`). -/
theorem Accounts.take {size address : Nat} (h : window.Accounts taken)
    (htake : window.take? size = some (address, window')) :
    window'.Accounts (⟨wholePages size, address⟩ :: taken) := by
  obtain ⟨tiles, htiles, htile⟩ := h.tiled
  simp only [take?] at htake
  split at htake
  · -- the range was given back before
    next range hfind =>
    obtain ⟨rfl, rfl⟩ := Prod.mk.inj (Option.some.inj htake)
    have hsize : range.size = wholePages size := by simpa using List.find?_some hfind
    have hrange : (⟨wholePages size, range.address⟩ : BusRange) = range := by rw [← hsize]
    have hmem : range ∈ window.free := List.mem_of_find?_eq_some hfind
    have hperm : (taken ++ window.free).Perm (range :: taken ++ window.free.erase range) :=
      ((List.perm_cons_erase hmem).append_left taken).trans List.perm_middle
    rw [hrange]
    exact ⟨h.inReach, h.bounded, fun r hr => h.whole r (hperm.mem_iff.mpr hr), tiles,
      htiles.trans hperm, htile⟩
  · -- the range is the next part of the window
    split at htake
    · cases htake
    · next hroom =>
      obtain ⟨rfl, rfl⟩ := Prod.mk.inj (Option.some.inj htake)
      refine ⟨h.inReach, ?_, fun r hr => ?_,
        tiles ++ [⟨wholePages size, window.base + window.next⟩], ?_, ?_⟩
      · show window.next + wholePages size ≤ window.size
        omega
      · obtain rfl | hr := List.mem_cons.mp hr
        · exact pageSize_dvd_wholePages size
        · exact h.whole r hr
      · exact (List.perm_append_singleton _ _).trans (htiles.cons _)
      · exact htile.append ⟨rfl, Nat.add_assoc _ _ _⟩

/-- **Giving a range back** settles it. -/
theorem Accounts.give {size address : Nat}
    (h : window.Accounts (⟨wholePages size, address⟩ :: taken)) :
    (window.give size address).Accounts taken := by
  obtain ⟨tiles, htiles, htile⟩ := h.tiled
  have hperm : ((⟨wholePages size, address⟩ : BusRange) :: taken ++ window.free).Perm
      (taken ++ (window.give size address).free) := List.perm_middle.symm
  exact ⟨h.inReach, h.bounded, fun r hr => h.whole r (hperm.mem_iff.mpr hr), tiles,
    htiles.trans hperm, htile⟩

/-! ## Bookkeeping -/

/-- The ranges of `size` bytes, in whole pages, at the given addresses. -/
def rangesAt (size : Nat) (addresses : List Nat) : List BusRange :=
  addresses.map fun address => ⟨wholePages size, address⟩

/-- What can be said of a window and of the ranges taken from it, whichever range is taken or given
back next. -/
structure Bookkeeping (Books : BusWindow → List BusRange → Prop) : Prop where
  /-- The order in which ranges are booked does not matter. -/
  perm {window : BusWindow} {taken taken' : List BusRange} :
    Books window taken → taken.Perm taken' → Books window taken'
  /-- A range that is taken is booked. -/
  take {window window' : BusWindow} {taken : List BusRange} {size address : Nat} :
    Books window taken → window.take? size = some (address, window') →
      Books window' (⟨wholePages size, address⟩ :: taken)
  /-- A range that is given back is struck off. -/
  give {window : BusWindow} {taken : List BusRange} {size address : Nat} :
    Books window (⟨wholePages size, address⟩ :: taken) → Books (window.give size address) taken

/-- Accounts are books. -/
lemma bookkeeping_accounts : Bookkeeping Accounts :=
  ⟨Accounts.perm, Accounts.take, Accounts.give⟩

namespace Bookkeeping

variable {Books : BusWindow → List BusRange → Prop}

/-- Giving several ranges back strikes them off. -/
lemma giveMany (keeping : Bookkeeping Books) {size : Nat} {addresses : List Nat}
    (h : Books window (rangesAt size addresses ++ taken)) :
    Books (window.giveMany size addresses) taken := by
  induction addresses generalizing window with
  | nil => exact h
  | cons address rest ih => exact ih (keeping.give h)

/-- Taking ranges one after the other books those taken.

**Proof sketch.** On the number of ranges that are still wanted. One that is taken is booked by
`Bookkeeping.take`; when there is none the loop ends with what it has. -/
lemma takeUpTo (keeping : Bookkeeping Books) {size count : Nat} {got got' : List Nat}
    (h : Books window (rangesAt size got ++ taken))
    (htake : takeUpTo size count window got = (got', window')) :
    Books window' (rangesAt size got' ++ taken) := by
  induction count generalizing window got with
  | zero =>
    obtain ⟨rfl, rfl⟩ := Prod.mk.inj htake
    exact h
  | succ count ih =>
    unfold BusWindow.takeUpTo at htake
    split at htake
    · next address window₁ hone =>
      have htaken : Books window₁ (rangesAt size (address :: got) ++ taken) :=
        keeping.take h hone
      exact ih htaken htake
    · obtain ⟨rfl, rfl⟩ := Prod.mk.inj htake
      exact h

/-- **Taking several ranges** books all of them, or nothing has been taken. -/
theorem takeMany (keeping : Bookkeeping Books) {size count : Nat} {result : Option (List Nat)}
    (h : Books window taken) (htake : window.takeMany size count = (result, window')) :
    Books window' (rangesAt size (result.getD []) ++ taken) := by
  unfold BusWindow.takeMany at htake
  have hnone : Books window (rangesAt size [] ++ taken) := h
  rcases hgot : BusWindow.takeUpTo size count window [] with ⟨got, window₁⟩
  have hall : Books window₁ (rangesAt size got ++ taken) := keeping.takeUpTo hnone hgot
  have hreverse : (rangesAt size got ++ taken).Perm (rangesAt size got.reverse ++ taken) :=
    ((List.reverse_perm got).symm.map _).append_right taken
  simp only [hgot] at htake
  split at htake <;> obtain ⟨rfl, rfl⟩ := Prod.mk.inj htake
  · exact keeping.perm hall hreverse
  · exact keeping.giveMany (keeping.perm hall hreverse)

end Bookkeeping

/-- **No two ranges share an address**, be they handed out or not. -/
theorem Accounts.pairwise_apart (h : window.Accounts taken) :
    (taken ++ window.free).Pairwise FreeRange.Apart := by
  obtain ⟨tiles, htiles, htile⟩ := h.tiled
  exact (htiles.pairwise_iff FreeRange.Apart.symm).mp htile.pairwise_apart

/-- Ranges lie in the window. -/
lemma Accounts.mem_bounds (h : window.Accounts taken) {range : BusRange} (hr : range ∈ taken) :
    window.base ≤ range.address ∧ range.address + range.size ≤ window.base + window.size := by
  obtain ⟨tiles, htiles, htile⟩ := h.tiled
  have hmem : range ∈ tiles := htiles.mem_iff.mpr (List.mem_append_left _ hr)
  have hbounds := htile.bounds.2 range hmem
  have hbounded := h.bounded
  omega

end BusWindow

end VideoCapture
