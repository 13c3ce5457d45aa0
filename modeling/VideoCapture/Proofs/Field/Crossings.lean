import VideoCapture.Proofs.Field.Paging
import VideoCapture.Proofs.Field.Position

/-!
# How often lines are split

A line takes one instruction, and one more for each chunk that it goes on into. A chunk that is gone
on into is behind the one where the lines began, and begins in front of the last line's end. Between
the two there are whole chunks only. If those are as large as a page, there are no more of them than
pages in the bytes of the field, wherever in its chunk the field begins and however the emission
ends. The first and the last chunk of a buffer may be smaller, even empty.

## Main definitions

* `VideoCapture.ScatterList.Coarse` — every chunk but the first and the last is a page at least.
* `VideoCapture.Field.Spends` — instructions number no more than lines and chunks gone on into.
* `VideoCapture.Field.Advances` — an emission spends as much, and where it gets.
* `VideoCapture.Field.TooWide` — what can break lines off in a buffer that is long enough.

## Main results

* `VideoCapture.ScatterList.Coarse.le_crossings` — how many chunks begin in a run of bytes.
* `VideoCapture.Field.advances_line`, `VideoCapture.Field.frugal_lines` — what lines take.
* `VideoCapture.FieldLayout.length_emission_le` — a field takes the instructions allowed for it.
* `VideoCapture.FieldLayout.tooWide_of_emission` — in a buffer that is long enough it breaks off
  only at an address out of reach or at padding that overflows.
-/

set_option autoImplicit false

namespace VideoCapture

/-! ## Coarse lists -/

namespace ScatterList

variable {chunks : ScatterList} {first last position span : Nat}

/-- Every chunk but the first and the last is a page at least. -/
def Coarse (chunks : ScatterList) : Prop :=
  ∀ chunk ∈ chunks.tail.dropLast, pageSize ≤ chunk.length

instance (chunks : ScatterList) : Decidable chunks.Coarse :=
  inferInstanceAs (Decidable (∀ chunk ∈ _, _))

/-- A chunk in the middle of a coarse list begins a page at least before the next. -/
lemma Coarse.start_add_pageSize_le (h : chunks.Coarse) {k : Nat} (hpos : 0 < k)
    (hless : k + 1 < chunks.length) : start chunks k + pageSize ≤ start chunks (k + 1) := by
  have hk : k < chunks.length := Nat.lt_of_succ_lt hless
  rw [start_add_one (List.drop_eq_getElem_cons hk)]
  refine Nat.add_le_add_left (h _ ?_) _
  have hmiddle : k - 1 < chunks.tail.dropLast.length := by
    rw [List.length_dropLast, List.length_tail]
    omega
  have hget : chunks.tail.dropLast[k - 1] = chunks[k] := by
    rw [List.getElem_dropLast, List.getElem_tail]
    congr 1
    omega
  exact hget ▸ List.getElem_mem hmiddle

/-- So many chunks in the middle of a coarse list have as many pages.

**Proof sketch.** On the number of chunks. Neither the first chunk of the list nor the last is among
them, so each has a page at least (`Coarse.start_add_pageSize_le`). -/
lemma Coarse.start_add_mul_le (h : chunks.Coarse) (first count : Nat)
    (hless : first + 1 + count < chunks.length) :
    start chunks (first + 1) + count * pageSize ≤ start chunks (first + 1 + count) := by
  induction count with
  | zero => simp
  | succ count ih =>
    have hbefore := ih (Nat.lt_of_succ_lt hless)
    have hstep := h.start_add_pageSize_le (Nat.add_pos_left (Nat.succ_pos first) count) hless
    rw [Nat.succ_mul, ← Nat.add_assoc]
    exact Nat.le_trans (Nat.add_le_add_right hbefore pageSize) hstep

/-- **How many chunks begin in a run of bytes:** if the run begins in chunk number `first` or in
front of it, and chunk number `last` begins in the run, there are as many chunks from the one to the
other as the run has pages, rounded up, or fewer. -/
theorem Coarse.le_crossings (h : chunks.Coarse) (hless : first < last)
    (hlast : last < chunks.length) (hposition : position ≤ start chunks (first + 1))
    (hstart : start chunks last < position + span) :
    last - first ≤ (span + (pageSize - 1)) / pageSize := by
  have hbetween := h.start_add_mul_le first (last - first - 1) (by omega)
  rw [show first + 1 + (last - first - 1) = last by omega] at hbetween
  have hspan : (last - first - 1) * pageSize < span := by omega
  rw [Nat.le_div_iff_mul_le (by decide)]
  simp only [pageSize] at hspan ⊢
  omega

end ScatterList

/-! ## Lines -/

/-- Only an address out of reach has no bus address. -/
lemma Chunk.tooWide_of_busAddress {chunk : Chunk} {offset : Nat} {fault : Fault}
    (h : chunk.busAddress offset = .error fault) : ∃ address, fault = .addressTooWide address := by
  unfold busAddress at h
  split at h
  · cases h
  · exact ⟨_, (Except.error.inj h).symm⟩

namespace Field

open Emission FieldLayout

/-- From byte `position` of a buffer up to byte `stop`, instructions number at most `count`, and one
more for each chunk behind chunk number `first` up to chunk number `last`. -/
structure Spends (chunks : ScatterList) (count position stop first last : Nat)
    (l : List Instruction) : Prop where
  /-- The chunks are in order. -/
  le : first ≤ last
  /-- They are chunks of the buffer. -/
  lt : last < chunks.length
  /-- Each chunk that is gone on into takes an instruction. -/
  length_le : l.length ≤ count + (last - first)
  /-- The bytes begin in the first chunk, or in front of it. -/
  position_le : position ≤ ScatterList.start chunks (first + 1)
  /-- The last chunk begins in front of the bytes' end. -/
  start_lt : ScatterList.start chunks last < stop

/-- A line-like emission spends as much, and leaves its cursor in the last chunk and behind the last
byte, if it is not broken off. In a buffer that is long enough, only an address out of reach breaks
it off. -/
structure Advances (chunks : ScatterList) (count position stop first last : Nat)
    (m : Emission Cursor) : Prop where
  /-- What it takes. -/
  spends : Spends chunks count position stop first last m.instructions
  /-- Where it gets. -/
  next : ∀ next, m.outcome = .ok next → next.Stands chunks stop ∧ next.index = last
  /-- What can go wrong. -/
  tooWide : ∀ fault, m.outcome = .error fault → stop ≤ ScatterList.size chunks →
    ∃ address, fault = .addressTooWide address

variable {chunks left : ScatterList} {chunk : Chunk} {cursor : Cursor} {layout : FieldLayout}
  {count count' position position' stop stop' first first' last last' done todo bytes n : Nat}
  {l l' : List Instruction} {m : Emission Cursor}

/-- What is spent at first and what is spent from there on is spent on the way. -/
lemma Spends.append (h : Spends chunks count position stop first last l)
    (h' : Spends chunks count' position' stop' first' last' l') (hfirst : last ≤ first') :
    Spends chunks (count + count') position stop' first last' (l ++ l') where
  le := Nat.le_trans h.le (Nat.le_trans hfirst h'.le)
  lt := h'.lt
  length_le := by
    have hle := h.le
    have hle' := h'.le
    have hlength := h.length_le
    have hlength' := h'.length_le
    rw [List.length_append]
    omega
  position_le := h.position_le
  start_lt := h'.start_lt

/-- More can be allowed. -/
lemma Spends.mono (h : Spends chunks count position stop first last l)
    (hlength : l'.length + count ≤ l.length + count') (hstop : stop ≤ stop') :
    Spends chunks count' position stop' first last l' where
  le := h.le
  lt := h.lt
  length_le := by
    have hbefore := h.length_le
    omega
  position_le := h.position_le
  start_lt := Nat.lt_of_lt_of_le h.start_lt hstop

/-- Where an address is out of reach nothing is written. -/
lemma advances_error {fault : Fault} (h : Spends chunks count position stop first last [])
    (hwide : ∃ address, fault = .addressTooWide address) :
    Advances chunks count position stop first last ⟨[], .error fault⟩ where
  spends := h
  next _ hnext := by cases hnext
  tooWide _ hfault _ := by
    obtain rfl := Except.error.inj hfault
    exact hwide

/-- Where a line ends there is nothing left to do. -/
lemma advances_pure (h : Spends chunks count position stop first last [])
    (hstands : cursor.Stands chunks stop) (hindex : cursor.index = last) :
    Advances chunks count position stop first last (pure cursor) where
  spends := h
  next _ hnext := by
    obtain rfl := Except.ok.inj hnext
    exact ⟨hstands, hindex⟩
  tooWide _ hfault := by cases hfault

/-- An instruction may come first, if it is allowed, or if the chunk gone on into takes it. -/
lemma Advances.emit (h : Advances chunks count position stop first last m) (i : Instruction)
    (hfirst : first' ≤ first) (hcount : count < count' + (first - first'))
    (hposition : position' ≤ ScatterList.start chunks (first' + 1)) :
    Advances chunks count' position' stop first' last ⟨i :: m.instructions, m.outcome⟩ where
  spends :=
    { le := Nat.le_trans hfirst h.spends.le
      lt := h.spends.lt
      length_le := by
        have hle := h.spends.le
        have hlength := h.spends.length_le
        rw [List.length_cons]
        omega
      position_le := hposition
      start_lt := h.spends.start_lt }
  next := h.next
  tooWide := h.tooWide

/-- **The rest of a split line takes an instruction for each chunk** that it goes on into.

**Proof sketch.** Induction on the chunks. -/
theorem advances_continueLine
    (h : (⟨first + 1, left, 0⟩ : Cursor).Stands chunks position) (done : Nat) (htodo : 0 < todo) :
    ∃ last, Advances chunks 0 position (position + todo) first last
      (continueLine (first + 1) done todo left) := by
  have hposition : ScatterList.start chunks (first + 1) + 0 = position := h.position_eq
  -- as long as nothing is written the last chunk is the one that the line comes from
  have hnothing : Spends chunks 0 position (position + todo) first first [] := by
    have hstart := ScatterList.start_add_one (List.drop_eq_getElem_cons h.index_le)
    exact ⟨Nat.le_refl _, h.index_le, Nat.zero_le _, Nat.le_of_eq hposition.symm, by omega⟩
  induction left generalizing first done todo position with
  | nil =>
    have hsize : position + 0 = ScatterList.size chunks + 0 := h.size_eq
    refine ⟨first, hnothing, fun next hnext => ?_, fun fault _ hlong => ?_⟩
    · cases hnext
    · omega
  | cons chunk rest ih =>
    have hbehind : ScatterList.start chunks (first + 1 + 1) + 0 = position + chunk.length := by
      have hstart := ScatterList.start_add_one h.chunks_eq.symm
      simp only at hstart
      omega
    unfold continueLine
    cases haddress : chunk.busAddress 0 with
    | error fault =>
      have hwide := Chunk.tooWide_of_busAddress haddress
      refine ⟨first, ?_⟩
      split <;> exact advances_error hnothing hwide
    | ok address =>
      have hhere : Spends chunks 0 (position + chunk.length) (position + todo) (first + 1)
          (first + 1) [] :=
        ⟨Nat.le_refl _, h.index_lt, Nat.zero_le _, by omega, by omega⟩
      split
      · next hshort =>
        have hnext := h.behind (Nat.zero_le _)
        have hsum : position + chunk.length + (todo - chunk.length) = position + todo := by omega
        rw [Nat.sub_zero] at hnext
        obtain ⟨last, hrest⟩ := ih hnext (done + chunk.length) (Nat.sub_pos_of_lt hshort) hbehind
          (by rwa [hsum])
        rw [hsum] at hrest
        exact ⟨last, hrest.emit _ (Nat.le_succ _) (by omega) (by omega)⟩
      · have hstands := h.skip todo
        rw [Cursor.skip, Nat.zero_add] at hstands
        have hdone : Advances chunks 0 (position + chunk.length) (position + todo) (first + 1)
            (first + 1) (pure ⟨first + 1, chunk :: rest, todo⟩) :=
          advances_pure hhere hstands rfl
        exact ⟨first + 1, hdone.emit _ (Nat.le_succ _) (by omega) (by omega)⟩

/-- **A line takes an instruction, and one for each chunk that it goes on into**, or breaks off at
once.

**Proof sketch.** Seeking finds the chunk in which the line begins, or none. The line is one
instruction if it fits into that chunk. Otherwise it spends one on the rest of the chunk and goes on
into the next. -/
theorem advances_line (h : cursor.Stands chunks position) (hbytes : 0 < bytes) (mode : LineOffset) :
    (∃ fault, line bytes mode cursor = ⟨[], .error fault⟩ ∧
      (position + bytes ≤ ScatterList.size chunks → ∃ address, fault = .addressTooWide address)) ∨
    ∃ first last, cursor.index ≤ first ∧
      Advances chunks 1 position (position + bytes) first last (line bytes mode cursor) := by
  unfold line
  obtain ⟨⟨first, chunk, rest, offset⟩, hseek, hindex, hoffset, hplace⟩ | ⟨hseek, hend⟩ :=
    h.seek_cases
  · rw [hseek]
    dsimp only at hindex hoffset hplace
    cases haddress : chunk.busAddress offset with
    | error fault =>
      refine .inl ⟨fault, ?_, fun _ => Chunk.tooWide_of_busAddress haddress⟩
      simp only [take, ok_bind, haddress]
      rfl
    | ok address =>
      have hinside : offset ≤ chunk.length := by omega
      have hstart := ScatterList.start_add_one hplace.chunks_eq.symm
      have hposition : ScatterList.start chunks first + offset = position := hplace.position_eq
      refine .inr ⟨first, ?_⟩
      simp only [take, ok_bind, haddress]
      dsimp only at hstart
      split
      · have hstands := hplace.skip bytes
        have hhere : Spends chunks 0 position (position + bytes) first first [] :=
          ⟨Nat.le_refl _, hplace.index_lt, Nat.zero_le _, by omega, by omega⟩
        have hdone : Advances chunks 0 position (position + bytes) first first
            (pure ⟨first, chunk :: rest, offset + bytes⟩) :=
          advances_pure hhere hstands rfl
        exact ⟨first, hindex, hdone.emit _ (Nat.le_refl _) (by omega) (by omega)⟩
      · next hsplit =>
        have hsum : position + (chunk.length - offset) + (bytes - (chunk.length - offset)) =
            position + bytes := by omega
        obtain ⟨last, hrest⟩ := advances_continueLine (hplace.behind hinside)
          (chunk.length - offset) (show 0 < bytes - (chunk.length - offset) by omega)
        rw [hsum] at hrest
        exact ⟨last, hindex, hrest.emit _ (Nat.le_refl _) (by omega) (by omega)⟩
  · rw [hseek]
    exact .inl ⟨_, rfl, fun hlong => by omega⟩

/-- Whether a line ends with an interrupt does not show in how much it takes. -/
lemma advances_numberedLine (h : cursor.Stands chunks position) (hbytes : 0 < layout.lineBytes)
    (mode : LineOffset) (number : Nat) :
    (∃ fault, numberedLine layout mode number cursor = ⟨[], .error fault⟩ ∧
      (position + layout.lineBytes ≤ ScatterList.size chunks →
        ∃ address, fault = .addressTooWide address)) ∨
    ∃ first last, cursor.index ≤ first ∧
      Advances chunks 1 position (position + layout.lineBytes) first last
        (numberedLine layout mode number cursor) := by
  unfold numberedLine
  split
  · refine (advances_line h hbytes mode).imp ?_ ?_
    · rintro ⟨fault, hline, hwide⟩
      exact ⟨fault, by rw [hline]; rfl, hwide⟩
    · rintro ⟨first, last, hindex, hspends, hnext, hwide⟩
      refine ⟨first, last, hindex, hspends.mono ?_ (Nat.le_refl _), hnext, hwide⟩
      exact Nat.le_of_eq (congrArg (· + 1) (length_flagLastOf _))
  · exact advances_line h hbytes mode

/-- Instructions for `count` lines are no more than the lines, or spend no more than an instruction
for each chunk gone on into, the first of which is behind chunk number `index`. -/
def Frugal (chunks : ScatterList) (count position stop index : Nat) (l : List Instruction) : Prop :=
  l.length ≤ count ∨
    ∃ first last, index ≤ first ∧ Spends chunks count position stop first last l

/-- What can break lines off in a buffer that is long enough for them: an address out of reach, or
the padding behind one of them. -/
def TooWide (layout : FieldLayout) (chunks : ScatterList) (n count : Nat) (fault : Fault) : Prop :=
  (∃ address, fault = .addressTooWide address) ∨
    fault = .numberTooWide ∧ ∃ k < count, layout.Overflows chunks (n + k)

/-- A line in front of frugal ones is frugal with them. -/
lemma Frugal.after {index : Nat} (hrest : Frugal chunks count position' stop' last l')
    (h : Spends chunks 1 position stop first last l) (hstop : stop ≤ stop')
    (hindex : index ≤ first) : Frugal chunks (count + 1) position stop' index (l ++ l') := by
  right
  obtain hfew | ⟨first', last', hindex', hrest⟩ := hrest
  · refine ⟨first, last, hindex, h.mono ?_ hstop⟩
    rw [List.length_append]
    omega
  · have hall := h.append hrest hindex'
    rw [Nat.add_comm 1 count] at hall
    exact ⟨first, last', hindex, hall⟩

/-- What breaks off the lines behind the first breaks off all of them. -/
lemma TooWide.succ {fault : Fault} (h : TooWide layout chunks (n + 1) count fault) :
    TooWide layout chunks n (count + 1) fault := by
  refine h.imp_right ?_
  rintro ⟨rfl, k, hk, hoverflows⟩
  rw [Nat.add_right_comm n 1 k] at hoverflows
  exact ⟨rfl, k + 1, Nat.succ_lt_succ hk, hoverflows⟩

/-- **Lines are frugal**, however they end. In a buffer that is long enough for all of them, only an
address out of reach breaks them off, or padding that overflows.

**Proof sketch.** Induction on the number of lines. What the first line spends and what the others
spend adds up, because they begin in the chunk where the first one ended, or behind it. -/
theorem frugal_lines (h : cursor.Stands chunks (layout.position n)) (hbytes : 0 < layout.lineBytes)
    (mode : LineOffset) (count : Nat) :
    Frugal chunks count (layout.position n) (layout.position (n + count)) cursor.index
        (lines layout mode count n cursor).instructions ∧
      ∀ fault, (lines layout mode count n cursor).outcome = .error fault →
        (∀ k < count, layout.position (n + k) + layout.lineBytes ≤ ScatterList.size chunks) →
        TooWide layout chunks n count fault := by
  induction count generalizing n cursor with
  | zero => exact ⟨.inl (Nat.zero_le _), nofun⟩
  | succ count ih =>
    have hstop : layout.position n + layout.lineBytes ≤ layout.position (n + 1 + count) := by
      have hafter := layout.position_mono (Nat.le_add_right (n + 1) count)
      rw [position_add_one] at hafter
      omega
    rw [lines, show n + (count + 1) = n + 1 + count by omega]
    obtain ⟨fault, hline, hwide⟩ | ⟨first, last, hindex, hline⟩ :=
      advances_numberedLine h hbytes mode n
    · rw [hline, error_bind]
      refine ⟨.inl (Nat.zero_le _), fun fault' hfault' hlong => ?_⟩
      cases hfault'
      exact .inl (hwide (hlong 0 (Nat.succ_pos _)))
    · generalize hm : numberedLine layout mode n cursor = m at hline
      obtain ⟨l, fault | next⟩ := m
      · rw [error_bind]
        refine ⟨.inr ⟨first, last, hindex, hline.spends.mono ?_ hstop⟩,
          fun fault' hfault' hlong => ?_⟩
        · dsimp only
          omega
        · cases hfault'
          exact .inl (hline.tooWide fault rfl (hlong 0 (Nat.succ_pos _)))
      · obtain ⟨hnext, hlast⟩ := hline.next next rfl
        rw [ok_bind]
        obtain hpad | ⟨hpad, hoverflows⟩ :=
          pad_cases hnext (ends_of_numberedLine hbytes (congrArg Emission.outcome hm))
        · have hskip := hnext.skip layout.padding
          rw [← position_add_one] at hskip
          obtain ⟨hfrugal, hwide⟩ := ih hskip
          rw [hpad, take_ok_bind]
          refine ⟨(hlast ▸ hfrugal).after hline.spends hstop hindex, fun fault hfault hlong => ?_⟩
          refine (hwide fault hfault fun k hk => ?_).succ
          rw [Nat.add_right_comm n 1 k]
          exact hlong (k + 1) (Nat.succ_lt_succ hk)
        · rw [hpad, take_error_bind]
          refine ⟨.inr ⟨first, last, hindex, hline.spends.mono ?_ hstop⟩,
            fun fault hfault _ => .inr ?_⟩
          · simp [fail]
          · cases hfault
            exact ⟨rfl, 0, Nat.succ_pos _, hoverflows⟩

end Field

namespace FieldLayout

open Emission VideoCapture.Field

variable {layout : FieldLayout} {chunks : ScatterList}

/-- **A field takes the instructions allowed for it**, wherever in its chunk it begins and however
it ends, if the chunks in the middle are as large as a page.

**Proof sketch.** The lines take one instruction each and one more for each chunk that is left
behind in the midst of a line. All chunks but the first and the last are as large as a page, so that
there are no more of these than pages in the span of the lines. -/
theorem length_emission_le (hcoarse : chunks.Coarse) (hpos : 0 < layout.lineBytes)
    (hless : layout.lineBytes < pageSize) (mode : LineOffset) :
    (layout.emission chunks mode).instructions.length ≤ layout.allowance := by
  obtain ⟨l, hpreamble, hlength⟩ := exists_preamble hpos hless
  rw [emission, emissionOf, hpreamble, ok_bind, List.length_append, allowance]
  have hspan : layout.position (0 + layout.lines) =
      layout.position 0 + (layout.lineBytes + layout.padding) * layout.lines := by
    rw [position, position, Nat.zero_add, Nat.zero_mul, Nat.mul_comm]
    rfl
  obtain ⟨hfew | ⟨first, last, -, hspends⟩, -⟩ :=
    frugal_lines (layout.stands_position_zero chunks) hpos mode layout.lines
  · generalize _ / pageSize = crossings
    omega
  · have hlines := hspends.length_le
    have hstart := hspends.start_lt
    rw [hspan] at hstart
    have hcrossings : last - first ≤
        ((layout.lineBytes + layout.padding) * layout.lines + (pageSize - 1)) / pageSize := by
      rcases Nat.lt_or_ge first last with hmore | hsame
      · exact hcoarse.le_crossings hmore hspends.lt hspends.position_le hstart
      · rw [Nat.sub_eq_zero_of_le hsame]
        exact Nat.zero_le _
    generalize _ / pageSize = crossings at hcrossings ⊢
    omega

/-- In a buffer that is long enough, **only an address out of reach breaks a field off**, or padding
that overflows. -/
theorem tooWide_of_emission (hpos : 0 < layout.lineBytes) (hless : layout.lineBytes < pageSize)
    (hspans : layout.Spans (ScatterList.size chunks)) {mode : LineOffset} {fault : Fault}
    (h : (layout.emission chunks mode).outcome = .error fault) :
    (∃ address, fault = .addressTooWide address) ∨
      fault = .numberTooWide ∧ ∃ n < layout.lines, layout.Overflows chunks n := by
  obtain ⟨l, hpreamble, -⟩ := exists_preamble hpos hless
  rw [emission, emissionOf, hpreamble, ok_bind] at h
  have hwide := (frugal_lines (layout.stands_position_zero chunks) hpos mode layout.lines).2 fault h
  simp only [TooWide, Nat.zero_add] at hwide
  exact hwide (spans_iff.mp hspans)

end FieldLayout

end VideoCapture
