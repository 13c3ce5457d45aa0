import VideoCapture.Proofs.Field.Pieces

/-!
# The chunks that a field meets

A line takes an instruction for each chunk that the cursor comes upon while it writes the line.
Those are the chunks that have a byte of the line, and besides them empty ones: a cursor stops at an
empty chunk where a line begins, and goes on through empty chunks in the midst of a line. Empty or
not, a chunk has to begin at an address that the bus can carry, and this is where an empty chunk
differs: with nothing in it, it can lie in reach and yet begin behind the last address. So the
number of instructions of a field, and whether a field is written at all, can be told from a list of
chunks of any kind, without walking through it.

## Main definitions

* `VideoCapture.ScatterList.met` — the chunks that a run of bytes meets, empty ones among them.
* `VideoCapture.ScatterList.Passed` — the chunks in front of an index are not met any more.
* `VideoCapture.Chunk.Near` — a chunk begins at an address that the bus can carry.
* `VideoCapture.FieldLayout.met`, `VideoCapture.FieldLayout.demand` — what a field meets, and the
  instructions that it takes.

## Main results

* `VideoCapture.Field.meets_line`, `VideoCapture.Field.meets_lines` — lines take an instruction for
  each chunk met.
* `VideoCapture.FieldLayout.emission_cases` — how the emission of a field ends, and with how many
  instructions.
-/

set_option autoImplicit false

namespace VideoCapture

/-! ## Meetings -/

/-- A chunk begins at an address that the bus can carry. -/
def Chunk.Near (chunk : Chunk) : Prop :=
  chunk.address < 0x100000000

instance (chunk : Chunk) : Decidable chunk.Near :=
  inferInstanceAs (Decidable (_ < _))

namespace ScatterList

/-- The bytes from `first` up to `last` meet a chunk that begins at byte `base`. An empty chunk is
met as if it had a byte. -/
def Meets (first last : Nat) : Nat × Chunk → Prop
  | (base, chunk) => base < last ∧ first < base + max chunk.length 1

instance (first last : Nat) : DecidablePred (Meets first last) :=
  fun (_, _) => inferInstanceAs (Decidable (_ ∧ _))

/-- The chunks of a list that begins at byte `base` which the bytes from `first` up to `last`
meet. -/
def met (base : Nat) (chunks : ScatterList) (first last : Nat) : ScatterList :=
  ((located base chunks).filter (Meets first last)).map Prod.snd

/-- The chunks in front of chunk number `index` are met by nothing from byte `position` on. -/
def Passed (chunks : ScatterList) (index position : Nat) : Prop :=
  ∀ place ∈ located 0 (chunks.take index), place.1 + max place.2.length 1 ≤ position

variable {chunks rest : ScatterList} {chunk : Chunk} {base first last index position : Nat}

/-- A chunk that is met is the first of those that are met from it on. -/
lemma met_cons_of_meets (h : Meets first last (base, chunk)) :
    met base (chunk :: rest) first last = chunk :: met (base + chunk.length) rest first last := by
  have hfilter := List.filter_cons_of_pos (p := fun place => decide (Meets first last place))
    (l := located (base + chunk.length) rest) (decide_eq_true h)
  rw [met, located, hfilter, List.map_cons]
  rfl

/-- Nothing is met behind the bytes. -/
lemma met_eq_nil (h : last ≤ base) : met base chunks first last = [] := by
  rw [met, List.map_eq_nil_iff, List.filter_eq_nil_iff]
  rintro ⟨base', chunk⟩ hplace hmeets
  obtain ⟨-, hbase, -⟩ := mem_located hplace
  have hless : base' < last := (of_decide_eq_true hmeets).1
  dsimp only at hbase
  omega

/-- A chunk that is passed is not met. -/
lemma Passed.met_drop (h : chunks.Passed index first) (last : Nat) :
    met 0 chunks first last = met (start chunks index) (chunks.drop index) first last := by
  have hbefore : (located 0 (chunks.take index)).filter (Meets first last) = [] := by
    rw [List.filter_eq_nil_iff]
    rintro ⟨base, chunk⟩ hplace hmeets
    have hmore : first < base + max chunk.length 1 := (of_decide_eq_true hmeets).2
    have hpassed := h _ hplace
    dsimp only at hpassed
    omega
  conv_lhs => rw [met, ← List.take_append_drop index chunks, located_append, Nat.zero_add,
    List.filter_append, hbefore, List.nil_append]
  rfl

/-- No chunk is in front of the first one. -/
lemma passed_zero (chunks : ScatterList) (position : Nat) : chunks.Passed 0 position := by
  intro place hplace
  rw [List.take_zero] at hplace
  cases hplace

/-- What is passed at one byte is passed at all later ones. -/
lemma Passed.mono (h : chunks.Passed index first) (hle : first ≤ last) : chunks.Passed index last :=
  fun place hplace => Nat.le_trans (h place hplace) hle

/-- One more chunk is passed by what neither begins in front of its end nor at its beginning. -/
lemma Passed.add_one (h : chunks.Passed index position) (hchunk : chunks.drop index = chunk :: rest)
    (hless : start chunks index < position)
    (hbehind : start chunks index + chunk.length ≤ position) :
    chunks.Passed (index + 1) position := by
  have htake : chunks.take (index + 1) = chunks.take index ++ [chunk] := by
    have hget : chunks[index]? = some chunk := by
      rw [← List.head?_drop, hchunk, List.head?_cons]
    rw [List.take_add_one, hget, Option.toList_some]
  intro place hplace
  rw [htake, located_append, Nat.zero_add, List.mem_append] at hplace
  obtain hbefore | hlast := hplace
  · exact h place hbefore
  · obtain rfl : place = (start chunks index, chunk) := List.mem_singleton.mp hlast
    dsimp only
    omega

end ScatterList

/-! ## Cursors -/

/-- A cursor stands at byte `position` of a buffer, and nothing that is written from there on meets
a chunk in front of the cursor's. -/
structure Cursor.Arrives (chunks : ScatterList) (position : Nat) (cursor : Cursor) : Prop
    extends cursor.Stands chunks position where
  /-- The chunks in front of it are passed. -/
  passed : chunks.Passed cursor.index position

namespace Cursor.Arrives

variable {chunks : ScatterList} {cursor : Cursor} {place : Place} {position : Nat}

/-- Moving on over bytes passes no less. -/
lemma skip (h : cursor.Arrives chunks position) (n : Nat) :
    (cursor.skip n).Arrives chunks (position + n) :=
  ⟨h.toStands.skip n, h.passed.mono (Nat.le_add_right _ _)⟩

/-- **Seeking passes the chunks that it leaves behind.**

**Proof sketch.** Induction on the chunks left. A chunk is left behind only if the cursor has moved
on from its start and is not in front of its end. -/
lemma seek (h : cursor.Arrives chunks position) (hseek : cursor.seek = .ok place) :
    chunks.Passed place.index position := by
  obtain ⟨index, left, offset⟩ := cursor
  induction left generalizing index offset with
  | nil => cases hseek
  | cons chunk rest ih =>
    by_cases hbehind : 0 < offset ∧ chunk.length ≤ offset
    · have hposition : ScatterList.start chunks index + offset = position := h.position_eq
      have hbefore : chunks.Passed index position := h.passed
      have hpassed := hbefore.add_one h.chunks_eq.symm (by omega) (by omega)
      refine ih _ _ ⟨h.toStands.next hbehind.2, hpassed⟩ ?_
      rwa [Cursor.seek, seekFrom, if_pos hbehind] at hseek
    · rw [Cursor.seek, seekFrom, if_neg hbehind] at hseek
      obtain rfl := Except.ok.inj hseek
      exact h.passed

end Cursor.Arrives

/-! ## Lines -/

namespace Field

open Emission

/-- A line-like emission that meets the chunks `met` takes an instruction for each of them and
leaves its cursor at byte `position`. If one of them is not near it breaks off. -/
inductive Meets (chunks met : ScatterList) (position : Nat) : Emission Cursor → Prop
  | complete {l : List Instruction} {next : Cursor} (hnear : ∀ chunk ∈ met, chunk.Near)
      (hlength : l.length = met.length) (hnext : next.Arrives chunks position) :
      Meets chunks met position ⟨l, .ok next⟩
  | tooWide {l : List Instruction} {address : Nat} (hfar : ¬∀ chunk ∈ met, chunk.Near) :
      Meets chunks met position ⟨l, .error (.addressTooWide address)⟩

variable {chunks left met met' : ScatterList} {chunk : Chunk} {cursor : Cursor}
  {layout : FieldLayout} {m : Emission Cursor}
  {index offset position first last bytes done todo n : Nat}

/-- A chunk that is met first takes an instruction, or breaks the emission off. -/
lemma Meets.cons (h : Meets chunks met position m) (hreach : chunk.limit ≤ 0x100000000)
    (hoffset : 0 < offset → offset < chunk.length) (i : UInt32 → Instruction) :
    Meets chunks (chunk :: met) position
      (take (chunk.busAddress offset) >>= fun address => emit (i address) >>= fun _ => m) := by
  rw [Chunk.limit] at hreach
  unfold Chunk.busAddress
  split
  · next hless =>
    have hnear : chunk.Near := Nat.lt_of_le_of_lt (Nat.le_add_right _ _) hless
    cases h with
    | complete hall hlength hnext =>
      exact .complete (List.forall_mem_cons.mpr ⟨hnear, hall⟩) (congrArg (· + 1) hlength) hnext
    | tooWide hfar => exact .tooWide fun hall => hfar (List.forall_mem_cons.mp hall).2
  · next hwide =>
    -- an offset in front of the chunk's end is an address in front of its limit
    refine .tooWide fun hall => hwide ?_
    have hnear : chunk.address < 0x100000000 := (List.forall_mem_cons.mp hall).1
    omega

/-- **The rest of a split line takes an instruction for each chunk that it meets.**

**Proof sketch.** Induction on the chunks. All of them are met until the line ends. -/
theorem meets_continueLine (hreach : chunks.InReach)
    (h : (⟨index, left, 0⟩ : Cursor).Stands chunks position)
    (hpassed : chunks.Passed index last) (hfirst : first ≤ position) (done : Nat)
    (htodo : 0 < todo) (hlast : position + todo = last) (hsize : last ≤ chunks.size) :
    Meets chunks (ScatterList.met position left first last) last
      (continueLine index done todo left) := by
  induction left generalizing index done todo position with
  | nil =>
    have hend : position + 0 = ScatterList.size chunks + 0 := h.size_eq
    omega
  | cons chunk rest ih =>
    have hlimit := hreach chunk (h.subset List.mem_cons_self)
    have hposition : ScatterList.start chunks index + 0 = position := h.position_eq
    rw [ScatterList.met_cons_of_meets ⟨by omega, by omega⟩]
    unfold continueLine
    split
    · next hshort =>
      have hnext := h.behind (Nat.zero_le _)
      rw [Nat.sub_zero] at hnext
      have hrest := ih hnext (hpassed.add_one h.chunks_eq.symm (by omega) (by omega)) (by omega)
        (done + chunk.length) (Nat.sub_pos_of_lt hshort) (by omega)
      exact hrest.cons hlimit (fun hpos => absurd hpos (Nat.lt_irrefl 0)) _
    · next hlong =>
      have hstands := h.skip todo
      rw [Cursor.skip, Nat.zero_add, hlast] at hstands
      have hdone : Meets chunks [] last (pure ⟨index, chunk :: rest, todo⟩) :=
        .complete (List.forall_mem_nil _) rfl ⟨hstands, hpassed⟩
      rw [ScatterList.met_eq_nil (by omega)]
      exact hdone.cons hlimit (fun hpos => absurd hpos (Nat.lt_irrefl 0)) _

/-- **A line takes an instruction for each chunk that it meets.**

**Proof sketch.** The chunk that is found is the first that the line meets, as the line arrives
there. If the line ends in it no other is met; otherwise the line goes on at the start of the next
chunk, where the rest of what it meets begins. -/
theorem meets_line (hreach : chunks.InReach) (h : cursor.Arrives chunks position)
    (hbytes : 0 < bytes) (hsize : position + bytes ≤ chunks.size) (mode : LineOffset) :
    Meets chunks (ScatterList.met 0 chunks position (position + bytes)) (position + bytes)
      (line bytes mode cursor) := by
  obtain ⟨⟨index, chunk, rest, offset⟩, hseek, -, hoffset, hplace⟩ | ⟨-, hend⟩ :=
    h.toStands.seek_cases
  · have hpassed : chunks.Passed index position := h.seek hseek
    dsimp only at hoffset hplace
    have hlimit := hreach chunk (hplace.subset List.mem_cons_self)
    have hstart : ScatterList.start chunks index + offset = position := hplace.position_eq
    have hbehind : position ≤ ScatterList.start chunks index + chunk.length ∨ offset = 0 := by omega
    rw [hpassed.met_drop, ← hplace.chunks_eq,
      ScatterList.met_cons_of_meets ⟨by omega, by omega⟩]
    rw [line, hseek, show ∀ place : Place, take (.ok place) = pure place from fun _ => rfl,
      Emission.pure_bind]
    dsimp only
    by_cases hfits : bytes ≤ chunk.length - offset
    · have hdone : Meets chunks [] (position + bytes)
          (pure ⟨index, chunk :: rest, offset + bytes⟩) :=
        .complete (List.forall_mem_nil _) rfl
          ⟨hplace.skip bytes, hpassed.mono (Nat.le_add_right _ _)⟩
      have hline := hdone.cons hlimit hoffset fun address =>
        { opcode := .lineStart, start := startField mode offset, count := UInt16.ofNat bytes,
          address }
      rw [ScatterList.met_eq_nil (by omega)]
      simpa only [if_pos hfits] using hline
    · have hrest := meets_continueLine hreach (hplace.behind (by omega))
        ((hpassed.mono (Nat.le_add_right _ bytes)).add_one hplace.chunks_eq.symm (by omega)
          (by omega)) (Nat.le_add_right _ _) (chunk.length - offset)
        (Nat.sub_pos_of_lt (Nat.lt_of_not_le hfits)) (by omega) hsize
      rw [show position + (chunk.length - offset) = ScatterList.start chunks index + chunk.length
        by omega] at hrest
      have hline := hrest.cons hlimit hoffset fun address =>
        { opcode := .lineStart, dataType := 7, count := UInt16.ofNat (chunk.length - offset),
          address }
      simpa only [if_neg hfits] using hline
  · omega

/-- Whether a line ends with an interrupt does not show in how much it takes. -/
lemma meets_numberedLine (hreach : chunks.InReach) (h : cursor.Arrives chunks position)
    (hbytes : 0 < layout.lineBytes) (hsize : position + layout.lineBytes ≤ chunks.size)
    (mode : LineOffset) (number : Nat) :
    Meets chunks (ScatterList.met 0 chunks position (position + layout.lineBytes))
      (position + layout.lineBytes) (numberedLine layout mode number cursor) := by
  have hline := meets_line hreach h hbytes hsize mode
  unfold numberedLine
  split
  · generalize line layout.lineBytes mode cursor = m at hline
    cases hline with
    | complete hnear hlength hnext =>
      exact .complete hnear ((length_flagLastOf _).trans hlength) hnext
    | tooWide hfar => exact .tooWide hfar
  · exact hline

end Field

/-! ## Fields -/

namespace FieldLayout

open Emission VideoCapture.Field

/-- The chunks that line number `n` meets. -/
def lineMet (layout : FieldLayout) (chunks : ScatterList) (n : Nat) : ScatterList :=
  ScatterList.met 0 chunks (layout.position n) (layout.position n + layout.lineBytes)

/-- The chunks that the lines of a field meet, line by line. -/
def met (layout : FieldLayout) (chunks : ScatterList) : ScatterList :=
  (List.range layout.lines).flatMap (layout.lineMet chunks)

/-- The instructions of a field: one to wait for it, if it is to be waited for, and one for each
chunk that a line of it meets. -/
def demand (layout : FieldLayout) (chunks : ScatterList) : Nat :=
  layout.sync.toList.length + (layout.met chunks).length

variable {layout : FieldLayout} {chunks : ScatterList} {cursor : Cursor} {n : Nat}

/-- **Lines take an instruction for each chunk that they meet**, if the bytes of the buffer up to
the end of them can be counted in 32 bits.

**Proof sketch.** Induction on the number of lines. A line leaves the cursor where nothing of the
next meets what is in front of it. -/
theorem meets_lines (hreach : chunks.InReach) (h : cursor.Arrives chunks (layout.position n))
    (hbytes : 0 < layout.lineBytes) (mode : LineOffset) (count : Nat)
    (hsize : ∀ k ∈ List.range' n count, layout.position k + layout.lineBytes ≤ chunks.size)
    (hnarrow : layout.position (n + count) < bound32) :
    Meets chunks ((List.range' n count).flatMap (layout.lineMet chunks))
      (layout.position (n + count)) (Field.lines layout mode count n cursor) := by
  induction count generalizing n cursor with
  | zero => exact .complete (List.forall_mem_nil _) rfl h
  | succ count ih =>
    rw [List.range'_succ] at hsize ⊢
    obtain ⟨hhere, hbehind⟩ := List.forall_mem_cons.mp hsize
    have hfirst := meets_numberedLine hreach h hbytes hhere mode n
    rw [← lineMet] at hfirst
    rw [Field.lines, List.flatMap_cons]
    generalize numberedLine layout mode n cursor = m at hfirst
    cases hfirst with
    | complete hnear hlength hnext =>
      have hskip := hnext.skip layout.padding
      have hstop := layout.position_mono (Nat.le_add_right (n + 1) count)
      rw [show n + (count + 1) = n + 1 + count by omega] at hnarrow ⊢
      have hpad := hnext.toStands.pad_eq_ok (n := layout.padding)
        (by rw [← position_add_one]; exact Nat.lt_of_le_of_lt hstop hnarrow)
      rw [← position_add_one] at hskip
      have hrest := ih hskip hbehind hnarrow
      rw [ok_bind, hpad, take_ok_bind]
      generalize Field.lines layout mode count (n + 1) _ = m at hrest
      cases hrest with
      | complete hnear' hlength' hnext' =>
        refine .complete (List.forall_mem_append.mpr ⟨hnear, hnear'⟩) ?_ hnext'
        rw [List.length_append, List.length_append, hlength, hlength']
      | tooWide hfar => exact .tooWide fun hall => hfar (List.forall_mem_append.mp hall).2
    | tooWide hfar => exact .tooWide fun hall => hfar (List.forall_mem_append.mp hall).1

/-- **How the emission of a field ends** in a buffer that is long enough: with the instructions it
demands, or at a chunk that begins at no address of the bus.

**Proof sketch.** The first instruction waits for the field, if that is asked for. Then the lines
take one for each chunk that they meet, or break off at one without an address. -/
theorem emission_cases (hreach : chunks.InReach) (h : layout.Inside chunks.size)
    (mode : LineOffset) :
    ((∀ chunk ∈ layout.met chunks, chunk.Near) ∧ ∃ l next,
      layout.emission chunks mode = ⟨l, .ok next⟩ ∧ l.length = layout.demand chunks) ∨
    (¬∀ chunk ∈ layout.met chunks, chunk.Near) ∧ ∃ l address,
      layout.emission chunks mode = ⟨l, .error (.addressTooWide address)⟩ := by
  have hstart : (⟨0, chunks, layout.offset⟩ : Cursor).Arrives chunks (layout.position 0) :=
    ⟨layout.stands_position_zero chunks, ScatterList.passed_zero _ _⟩
  have hnarrow : layout.position (0 + layout.lines) < bound32 := by
    rw [Nat.zero_add]
    exact h.narrow
  have hlines := meets_lines hreach hstart h.pos mode layout.lines
    (fun k hk => h.inside k (by simpa using hk)) hnarrow
  rw [← List.range_eq_range', ← met] at hlines
  have hencodable : ¬(layout.lineBytes = 0 ∨ Instruction.maxCount < layout.lineBytes) := by
    have hpos := h.pos
    have hless := h.less
    simp only [Instruction.maxCount, pageSize] at *
    omega
  obtain ⟨l, hpreamble, hlength⟩ : ∃ l, layout.preamble = ⟨l, .ok ()⟩ ∧
      l.length = layout.sync.toList.length := by
    rw [preamble, if_neg hencodable]
    cases layout.sync <;> exact ⟨_, rfl, rfl⟩
  rw [emission, emissionOf, hpreamble, ok_bind]
  generalize Field.lines layout mode layout.lines 0 _ = m at hlines
  cases hlines with
  | complete hnear hmet hnext =>
    refine .inl ⟨hnear, _, _, rfl, ?_⟩
    rw [List.length_append, demand, hlength, hmet]
  | tooWide hfar => exact .inr ⟨hfar, _, _, rfl⟩

end FieldLayout

end VideoCapture
