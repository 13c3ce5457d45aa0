import VideoCapture.Proofs.Machine.Rights

/-!
# References to chips are counted rightly

A reference that is taken is looked for by its place, and one that is returned by the number of its
chip. Both find the same entry of the registry, because no two entries have a place or a number in
common. An entry lasts from the first reference to the last, and numbers are given in order, so a
number that has gone out of use never comes back.

## Main definitions

* `VideoCapture.Registry.Counts` — the entries are the chips with references out, and each counts
  its own.
* `VideoCapture.Registry.Continues` — numbers go on, and those given before stay with their places.

## Main results

* `VideoCapture.Registry.Counts.take`, `VideoCapture.Registry.Counts.giveBack` — a reference more
  and a reference less.
* `VideoCapture.Registry.Counts.release_setReferences`,
  `VideoCapture.Registry.Counts.release_enter` — a reference that is returned at once leaves the
  entries as they were.
-/

set_option autoImplicit false

namespace VideoCapture.Registry

/-! ## Changing one entry -/

section Entries

variable {test : Registration → Bool} {change : Registration → Registration}
  {entries : List Registration} {entry : Registration}

/-- No two entries satisfy a test. -/
def Single (test : Registration → Bool) (entries : List Registration) : Prop :=
  entries.Pairwise fun a b => test a = true → test b = false

/-- Entries that differ in a property do not both have a given value of it. -/
lemma single_of_nodup {α : Type} [BEq α] [LawfulBEq α] {f : Registration → α} (value : α)
    (h : (entries.map f).Nodup) : Single (fun entry => f entry == value) entries := by
  refine (List.pairwise_map.mp h).imp fun hne ha => ?_
  exact beq_eq_false_iff_ne.mpr fun hb => hne ((beq_iff_eq.mp ha).trans hb.symm)

/-- Changing the first entry that satisfies a test changes every one, if there is one at most.

**Proof sketch.** Along the entries. Behind the first that satisfies the test none does, so mapping
leaves the rest as it is. -/
lemma updateFirst_eq_map (h : Single test entries) :
    updateFirst test change entries =
      entries.map fun entry => if test entry then change entry else entry := by
  induction entries with
  | nil => rfl
  | cons first rest ih =>
    obtain ⟨hfirst, hrest⟩ := List.pairwise_cons.mp h
    unfold updateFirst
    rw [List.map_cons, ← ih hrest]
    cases htest : test first with
    | true =>
      have hkept : updateFirst test change rest = rest := by
        rw [ih hrest]
        refine (List.map_congr_left fun other hother => ?_).trans (List.map_id rest)
        simp [hfirst other hother htest]
      rw [if_pos rfl, if_pos rfl, hkept]
    | false => rw [if_neg Bool.false_ne_true, if_neg Bool.false_ne_true]

/-- Erasing the first entry that satisfies a test leaves those that do not, if there is one at
most.

**Proof sketch.** Along the entries. Behind the first that satisfies the test none does, so
filtering keeps the rest. -/
lemma eraseP_eq_filter (h : Single test entries) :
    entries.eraseP test = entries.filter fun entry => !test entry := by
  induction entries with
  | nil => rfl
  | cons first rest ih =>
    obtain ⟨hfirst, hrest⟩ := List.pairwise_cons.mp h
    cases htest : test first with
    | true =>
      rw [List.eraseP_cons_of_pos htest, List.filter_cons_of_neg (by simp [htest])]
      exact (List.filter_eq_self.mpr fun other hother => by simp [hfirst other hother htest]).symm
    | false =>
      rw [List.eraseP_cons_of_neg (by simp [htest]), List.filter_cons_of_pos (by simp [htest]),
        ih hrest]

/-- Two entries that satisfy the test are the same.

**Proof sketch.** Along the entries. If one of the two is the first, the other satisfies the test as
well and cannot come later. -/
lemma Single.eq {other : Registration} (h : Single test entries) (hentry : entry ∈ entries)
    (hother : other ∈ entries) (htest : test entry = true) (htest' : test other = true) :
    entry = other := by
  induction entries with
  | nil => cases hentry
  | cons first rest ih =>
    obtain ⟨hfirst, hrest⟩ := List.pairwise_cons.mp h
    obtain rfl | hrest₁ := List.mem_cons.mp hentry <;>
      obtain rfl | hrest₂ := List.mem_cons.mp hother
    · rfl
    · exact absurd htest' (by simp [hfirst other hrest₂ htest])
    · exact absurd htest (by simp [hfirst entry hrest₁ htest'])
    · exact ih hrest hrest₁ hrest₂

end Entries

/-! ## Counting -/

/-- The entries of a registry are the chips with references out, `out` of them to the chip of each
number. No two have a number or a place in common, and there are no more than there may be. -/
structure Counts (registry : Registry) (out : Nat → Nat) : Prop where
  /-- A chip has an entry exactly as long as references to it are out. -/
  registered : ∀ k, (∃ entry ∈ registry.entries, entry.number = k) ↔ 0 < out k
  /-- The entry counts them. -/
  references : ∀ entry ∈ registry.entries, entry.references = out entry.number
  /-- No two entries have a number in common. -/
  numbers : (registry.entries.map Registration.number).Nodup
  /-- No two have a place in common. -/
  places : (registry.entries.map fun entry => (entry.bus, entry.slot)).Nodup
  /-- There are no more than there may be. -/
  room : registry.entries.length ≤ capacity
  /-- Their numbers have been given before. -/
  issued : ∀ entry ∈ registry.entries, entry.number < registry.count

/-- Numbers go on, and an entry with a number given before was there before, at the same place. -/
structure Continues (registry registry' : Registry) : Prop where
  /-- Numbers go on. -/
  count : registry.count ≤ registry'.count
  /-- An entry with a number given before was there before. -/
  lasting : ∀ entry ∈ registry'.entries, entry.number < registry.count →
    ∃ before ∈ registry.entries, before.number = entry.number ∧ before.bus = entry.bus ∧
      before.slot = entry.slot

/-- The registry once the references to the chip of a number are so many. -/
def setReferences (registry : Registry) (number references : Nat) : Registry :=
  { registry with
    entries := registry.entries.map fun entry =>
      if entry.number = number then { entry with references } else entry }

/-- The registry once the chip of a number has no more references. -/
def strike (registry : Registry) (number : Nat) : Registry :=
  { registry with entries := registry.entries.filter fun entry => !(entry.number == number) }

/-- The registry once there is a first reference to the chip at a location. -/
def enter (registry : Registry) (location : Location) : Registry :=
  { entries := registry.entries ++
      [{ number := registry.count, bus := location.bus, slot := location.slot, references := 1 }]
    count := registry.count + 1 }

variable {registry registry' registry'' : Registry} {out : Nat → Nat} {location : Location}
  {entry : Registration} {k : Nat}

/-- A registry continues itself. -/
lemma Continues.refl (registry : Registry) : registry.Continues registry :=
  ⟨Nat.le_refl _, fun entry hentry _ => ⟨entry, hentry, rfl, rfl, rfl⟩⟩

/-- What continues a continuation continues the registry before. -/
lemma Continues.trans (h : registry.Continues registry') (h' : registry'.Continues registry'') :
    registry.Continues registry'' := by
  refine ⟨h.count.trans h'.count, fun entry hentry hnumber => ?_⟩
  obtain ⟨between, hbetween, hsame, hbus, hslot⟩ :=
    h'.lasting entry hentry (hnumber.trans_le h.count)
  obtain ⟨before, hbefore, hsame', hbus', hslot'⟩ := h.lasting between hbetween (hsame ▸ hnumber)
  exact ⟨before, hbefore, hsame'.trans hsame, hbus'.trans hbus, hslot'.trans hslot⟩

/-! ### Changes of the entries -/

/-- How many references there are does not matter to what an entry is for. -/
lemma map_setReferences {α : Type} {f : Registration → α} (registry : Registry)
    (number references : Nat) (h : ∀ entry references, f { entry with references } = f entry) :
    (registry.setReferences number references).entries.map f = registry.entries.map f := by
  rw [setReferences, List.map_map]
  refine List.map_congr_left fun entry _ => ?_
  dsimp only [Function.comp]
  split
  · exact h entry references
  · rfl

/-- The references to a chip change, as long as some are out.

**Proof sketch.** No entry comes or goes and no number or place changes, so that only the counts of
the one entry have to be compared. -/
lemma Counts.setReferences (h : registry.Counts out) (hentry : entry ∈ registry.entries)
    {references : Nat} (hpos : 0 < references) :
    (registry.setReferences entry.number references).Counts
      (Function.update out entry.number references) where
  registered j := by
    have hnumbers : (∃ e ∈ (registry.setReferences entry.number references).entries,
        e.number = j) ↔ ∃ e ∈ registry.entries, e.number = j := by
      rw [← List.mem_map, ← List.mem_map, map_setReferences _ _ _ fun _ _ => rfl]
    rw [hnumbers]
    by_cases hj : j = entry.number
    · rw [hj, Function.update_self]
      exact iff_of_true ⟨entry, hentry, rfl⟩ hpos
    · rw [Function.update_of_ne hj]
      exact h.registered j
  references e he := by
    obtain ⟨before, hbefore, rfl⟩ := List.mem_map.mp he
    split
    · next hsame =>
      dsimp only
      rw [hsame, Function.update_self]
    · next hne => rw [Function.update_of_ne hne, h.references before hbefore]
  numbers := by
    rw [map_setReferences _ _ _ fun _ _ => rfl]
    exact h.numbers
  places := by
    rw [map_setReferences _ _ _ fun _ _ => rfl]
    exact h.places
  room := by
    rw [Registry.setReferences, List.length_map]
    exact h.room
  issued e he := by
    obtain ⟨before, hbefore, rfl⟩ := List.mem_map.mp he
    split <;> exact h.issued before hbefore

/-- The chips in use stay in use. -/
lemma continues_setReferences (registry : Registry) (number references : Nat) :
    registry.Continues (registry.setReferences number references) := by
  refine ⟨Nat.le_refl _, fun entry hentry _ => ?_⟩
  obtain ⟨before, hbefore, rfl⟩ := List.mem_map.mp hentry
  refine ⟨before, hbefore, ?_⟩
  split <;> exact ⟨rfl, rfl, rfl⟩

/-- A chip goes out of use.

**Proof sketch.** The entries that stay are some of those before, in the same order, and the one
with the number is gone. -/
lemma Counts.strike (h : registry.Counts out) (k : Nat) :
    (registry.strike k).Counts (Function.update out k 0) where
  registered j := by
    by_cases hj : j = k
    · rw [hj, Function.update_self]
      refine iff_of_false ?_ (Nat.lt_irrefl 0)
      rintro ⟨e, he, hk⟩
      have hkept := (List.mem_filter.mp he).2
      simp [hk] at hkept
    · rw [Function.update_of_ne hj, ← h.registered j]
      constructor
      · rintro ⟨e, he, rfl⟩
        exact ⟨e, List.mem_of_mem_filter he, rfl⟩
      · rintro ⟨e, he, rfl⟩
        exact ⟨e, List.mem_filter.mpr ⟨he, by simpa using hj⟩, rfl⟩
  references e he := by
    obtain ⟨hbefore, hkept⟩ := List.mem_filter.mp he
    rw [Function.update_of_ne (by simpa using hkept), h.references e hbefore]
  numbers := h.numbers.sublist (List.filter_sublist.map _)
  places := h.places.sublist (List.filter_sublist.map _)
  room := (List.length_filter_le _ _).trans h.room
  issued e he := h.issued e (List.mem_of_mem_filter he)

/-- The others stay in use. -/
lemma continues_strike (registry : Registry) (k : Nat) : registry.Continues (registry.strike k) :=
  ⟨Nat.le_refl _, fun entry hentry _ => ⟨entry, List.mem_of_mem_filter hentry, rfl, rfl, rfl⟩⟩

/-- A chip comes into use. It has a number that no other has had.

**Proof sketch.** The new entry comes last. Its number is above all that were given, and no entry is
at its place. -/
lemma Counts.enter (h : registry.Counts out)
    (hfree : ∀ entry ∈ registry.entries, isAt entry location = false)
    (hroom : registry.entries.length < capacity) :
    (registry.enter location).Counts (Function.update out registry.count 1) where
  registered j := by
    simp only [Registry.enter, List.mem_append, List.mem_singleton]
    by_cases hj : j = registry.count
    · rw [hj, Function.update_self]
      exact iff_of_true ⟨_, .inr rfl, rfl⟩ Nat.one_pos
    · rw [Function.update_of_ne hj, ← h.registered j]
      constructor
      · rintro ⟨e, he | rfl, hnumber⟩
        · exact ⟨e, he, hnumber⟩
        · exact absurd hnumber.symm hj
      · rintro ⟨e, he, hnumber⟩
        exact ⟨e, .inl he, hnumber⟩
  references e he := by
    obtain he | he := List.mem_append.mp he
    · rw [Function.update_of_ne (Nat.ne_of_lt (h.issued e he)), h.references e he]
    · obtain rfl := List.mem_singleton.mp he
      exact (Function.update_self registry.count 1 out).symm
  numbers := by
    rw [Registry.enter, List.map_append, List.map_singleton, ← List.concat_eq_append]
    refine h.numbers.concat fun hmem => ?_
    obtain ⟨e, he, hnumber⟩ := List.mem_map.mp hmem
    exact absurd (h.issued e he) (hnumber ▸ Nat.lt_irrefl _)
  places := by
    rw [Registry.enter, List.map_append, List.map_singleton, ← List.concat_eq_append]
    refine h.places.concat fun hmem => ?_
    obtain ⟨e, he, hplace⟩ := List.mem_map.mp hmem
    obtain ⟨hbus, hslot⟩ := Prod.mk.inj hplace
    exact absurd (hfree e he) (by simp [isAt, hbus, hslot])
  room := by
    rw [Registry.enter, List.length_append]
    exact hroom
  issued e he := by
    obtain he | he := List.mem_append.mp he
    · exact Nat.lt_succ_of_lt (h.issued e he)
    · obtain rfl := List.mem_singleton.mp he
      exact Nat.lt_succ_self _

/-- The others stay in use then too. -/
lemma continues_enter (registry : Registry) (location : Location) :
    registry.Continues (registry.enter location) := by
  refine ⟨Nat.le_succ _, fun entry hentry hnumber => ?_⟩
  obtain hbefore | hnew := List.mem_append.mp hentry
  · exact ⟨entry, hbefore, rfl, rfl, rfl⟩
  · obtain rfl := List.mem_singleton.mp hnew
    exact absurd hnumber (Nat.lt_irrefl _)

/-- There are no references to the next chip yet. -/
lemma Counts.next (h : registry.Counts out) : out registry.count = 0 := by
  refine Nat.eq_zero_of_not_pos fun hpos => ?_
  obtain ⟨entry, hentry, hnumber⟩ := (h.registered _).mpr hpos
  exact absurd (h.issued entry hentry) (hnumber ▸ Nat.lt_irrefl _)

/-! ### Taking and returning -/

/-- Entries at one location are the same. -/
lemma Counts.single_isAt (h : registry.Counts out) (location : Location) :
    Single (fun entry => isAt entry location) registry.entries :=
  single_of_nodup (location.bus, location.slot) h.places

/-- Entries of one number are the same. -/
lemma Counts.single_number (h : registry.Counts out) (k : Nat) :
    Single (fun entry => entry.number == k) registry.entries :=
  single_of_nodup k h.numbers

/-- **A reference that is taken** is one more to the chip in use at the location. Without such a
chip it is the first to the next one, if there is room.

**Proof sketch.** The search finds the one entry at the location, if there is one. As numbers and
places are distinct, changing the first such entry is changing the one of its number. -/
theorem Counts.take (h : registry.Counts out) (location : Location) :
    (∃ entry ∈ registry.entries, isAt entry location = true ∧
      registry.take location = .ok (.shared entry.number,
        registry.setReferences entry.number (out entry.number + 1))) ∨
    ((∀ entry ∈ registry.entries, isAt entry location = false) ∧
      (capacity ≤ registry.entries.length ∧ registry.take location = .error .noDevice ∨
        registry.entries.length < capacity ∧
          registry.take location = .ok (.first registry.count, registry.enter location))) := by
  unfold Registry.take
  dsimp only
  split
  · next entry hfind =>
    have hentry := List.mem_of_find?_eq_some hfind
    have hat := List.find?_some (p := fun entry => isAt entry location) hfind
    refine .inl ⟨entry, hentry, hat, ?_⟩
    -- the entry at the location is the one of its number
    have hsame : ∀ e ∈ registry.entries, isAt e location = true ↔ e.number = entry.number := by
      intro e he
      constructor
      · intro hto
        rw [(h.single_isAt location).eq he hentry hto hat]
      · intro hnumber
        rw [(h.single_number entry.number).eq he hentry (by simpa using hnumber) (by simp)]
        exact hat
    rw [updateFirst_eq_map (h.single_isAt location), Registry.setReferences]
    refine congrArg (fun entries => Except.ok (Grant.shared entry.number,
      ({ registry with entries } : Registry))) (List.map_congr_left fun e he => ?_)
    by_cases hnumber : e.number = entry.number
    · rw [if_pos ((hsame e he).mpr hnumber), if_pos hnumber, h.references e he, hnumber]
    · rw [if_neg (mt (hsame e he).mp hnumber), if_neg hnumber]
  · next hfind =>
    refine .inr ⟨fun entry hentry => by simpa using List.find?_eq_none.mp hfind entry hentry, ?_⟩
    split
    · next hfull => exact .inl ⟨hfull, rfl⟩
    · next hroom => exact .inr ⟨Nat.lt_of_not_le hroom, rfl⟩

/-- The registry once one of so many references to the chip of a number is returned. -/
def release (registry : Registry) (number references : Nat) : Registry :=
  if references = 1 then registry.strike number
  else registry.setReferences number (references - 1)

/-- One reference less is counted. -/
lemma Counts.release (h : registry.Counts out) (hk : 0 < out k) :
    (registry.release k (out k)).Counts (Function.update out k (out k - 1)) := by
  obtain ⟨entry, hentry, rfl⟩ := (h.registered k).mpr hk
  unfold Registry.release
  split
  · next hlast =>
    rw [hlast]
    exact h.strike entry.number
  · next hmore => exact h.setReferences hentry (by omega)

/-- The other chips in use stay in use. -/
lemma continues_release (registry : Registry) (k references : Nat) :
    registry.Continues (registry.release k references) := by
  unfold release
  split
  · exact continues_strike registry k
  · exact continues_setReferences registry k _

/-- **A reference that is returned** is the last exactly if it is the only one.

**Proof sketch.** References are out, so the search finds the one entry of the number. It is struck
if the reference was the last, and otherwise it has one less. -/
theorem Counts.giveBack (h : registry.Counts out) (hk : 0 < out k) :
    registry.giveBack k = .ok (decide (out k = 1), registry.release k (out k)) := by
  obtain ⟨entry, hentry, rfl⟩ := (h.registered k).mpr hk
  have hreferences := h.references entry hentry
  unfold Registry.giveBack Registry.release
  dsimp only
  split
  · next hfind => exact absurd (List.find?_eq_none.mp hfind entry hentry) (by simp)
  · next found hfind =>
    obtain rfl := (h.single_number entry.number).eq (List.mem_of_find?_eq_some hfind) hentry
      (List.find?_some (p := fun e : Registration => e.number == entry.number) hfind) (by simp)
    by_cases hlast : out found.number = 1
    · rw [if_pos (by omega), if_pos hlast, decide_eq_true hlast, Registry.strike,
        eraseP_eq_filter (h.single_number found.number)]
    · rw [if_neg (by omega), if_neg hlast, decide_eq_false hlast, Registry.setReferences,
        updateFirst_eq_map (h.single_number found.number)]
      refine congrArg (fun entries => Except.ok (false, ({ registry with entries } : Registry)))
        (List.map_congr_left fun e he => ?_)
      by_cases hnumber : e.number = found.number
      · rw [if_pos (by simpa using hnumber), if_pos hnumber, h.references e he, hnumber]
      · rw [if_neg (by simpa using hnumber), if_neg hnumber]

/-- A reference that is shared and returned at once leaves the entries as they were. -/
lemma Counts.release_setReferences (h : registry.Counts out) (hk : 0 < out k) :
    (registry.setReferences k (out k + 1)).release k (out k + 1) = registry := by
  rw [Registry.release, if_neg (by omega), Nat.add_sub_cancel, Registry.setReferences,
    Registry.setReferences]
  dsimp only
  rw [List.map_map]
  refine congrArg (fun entries => ({ registry with entries } : Registry))
    ((List.map_congr_left fun e he => ?_).trans (List.map_id _))
  have hreferences := h.references e he
  dsimp only [Function.comp]
  by_cases hnumber : e.number = k
  · subst hnumber
    simp [← hreferences]
  · simp [hnumber]

/-- So does the first one to a chip. -/
lemma Counts.release_enter (h : registry.Counts out) (location : Location) :
    (registry.enter location).release registry.count 1 =
      { registry with count := registry.count + 1 } := by
  have hkept : registry.entries.filter (fun e => !(e.number == registry.count)) =
      registry.entries :=
    List.filter_eq_self.mpr fun e he => by simpa using Nat.ne_of_lt (h.issued e he)
  rw [Registry.release, if_pos rfl, Registry.strike, Registry.enter]
  dsimp only
  rw [List.filter_append, hkept]
  simp

end VideoCapture.Registry
