import VideoCapture.Proofs.Field.Confinement
import VideoCapture.Proofs.Field.Paging
import VideoCapture.Proofs.Field.Position
import Mathlib.Algebra.GroupWithZero.Nat

/-!
# A field piece by piece

The chunks of a buffer cut each line of a field into pieces, one for every chunk that has a byte of
the line. Which instructions a field consists of can be told from the pieces alone, without walking
through the list: each piece is one instruction, the first of a line a `LINE_START` and the others
`INLINE`s that tell how much of the line is in front of them. A cursor walks through the list once
for all lines, skips what lies between them, and finds the same pieces, because it always stands at
the byte that comes next. If the buffer ends too early, the walk breaks off after the last piece.

## Main definitions

* `VideoCapture.Piece` — the part of a line that lies in one chunk.
* `VideoCapture.ScatterList.pieces` — the pieces of a run of bytes.
* `VideoCapture.Piece.instruction` — the instruction that transfers a piece.
* `VideoCapture.FieldLayout.instructions` — the instructions of a field, told from the pieces.
* `VideoCapture.Field.Covers` — what an emission writes, and how it ends.

## Main results

* `VideoCapture.ScatterList.before_of_pieces` — a piece has those before it in front of it.
* `VideoCapture.Field.covers_line`, `VideoCapture.Field.covers_lines` — lines are transferred piece
  by piece.
* `VideoCapture.FieldLayout.covers_emission` — so is a field.
* `VideoCapture.Region.field_eq_pieces` — what is written to memory for a field.
-/

set_option autoImplicit false

namespace VideoCapture

/-! ## Pieces -/

/-- The part of a line that lies in one chunk. -/
structure Piece where
  /-- The chunk. -/
  chunk : Chunk
  /-- Offset in the chunk of the first byte. -/
  offset : Nat
  /-- Number of bytes. -/
  length : Nat
  /-- Bytes of the line in front of the piece. -/
  before : Nat
  deriving DecidableEq

namespace Piece

/-- What the bytes of a buffer from `first` up to `last` share with the chunk that begins at byte
`base`, if anything. -/
def common? (first last : Nat) : Nat × Chunk → Option Piece
  | (base, chunk) =>
    let low := max first base
    let high := min last (base + chunk.length)
    if low < high then some ⟨chunk, low - base, high - low, low - first⟩ else none

/-- The address of the first byte. -/
def address (piece : Piece) : Nat :=
  piece.chunk.address + piece.offset

/-- The instruction that transfers a piece of a line of `bytes` bytes. -/
def instruction (bytes : Nat) (mode : LineOffset) (piece : Piece) : Instruction :=
  let count := UInt16.ofNat piece.length
  let address := UInt32.ofNat piece.address
  if 0 < piece.before then
    { opcode := .inline, start := UInt16.ofNat piece.before, count, address }
  else if piece.length < bytes then
    { opcode := .lineStart, dataType := 7, count, address }
  else
    { opcode := .lineStart, start := Field.startField mode piece.offset, count, address }

variable {bytes : Nat} {mode : LineOffset} {piece : Piece}

/-- The instruction for a piece transfers as many bytes as the piece has. -/
@[simp] lemma count_instruction :
    (piece.instruction bytes mode).count = UInt16.ofNat piece.length := by
  unfold instruction
  split
  · rfl
  · split <;> rfl

/-- The instruction for a piece transfers to where the piece begins. -/
@[simp] lemma address_instruction :
    (piece.instruction bytes mode).address = UInt32.ofNat piece.address := by
  unfold instruction
  split
  · rfl
  · split <;> rfl

/-- The first piece of a line is a `LINE_START`, and the others are `INLINE`s. -/
lemma opcode_instruction :
    (piece.instruction bytes mode).opcode = if 0 < piece.before then .inline else .lineStart := by
  unfold instruction
  split
  · rfl
  · split <;> rfl

/-- No piece raises an interrupt by itself. -/
lemma irq_instruction : (piece.instruction bytes mode).irq = false := by
  unfold instruction
  split
  · rfl
  · split <;> rfl

/-- The instruction for a piece within a line starts behind the bytes of the line before it. -/
lemma start_instruction (h : 0 < piece.before) :
    (piece.instruction bytes mode).start = UInt16.ofNat piece.before := by
  rw [instruction, if_pos h]

end Piece

namespace ScatterList

/-- The chunks of a list that begins at byte `base`, each with the byte that it begins at. -/
def located (base : Nat) : ScatterList → List (Nat × Chunk)
  | [] => []
  | chunk :: rest => (base, chunk) :: located (base + chunk.length) rest

/-- The pieces into which the chunks of a list that begins at byte `base` cut the bytes from `first`
up to `last`. -/
def pieces (base : Nat) (chunks : ScatterList) (first last : Nat) : List Piece :=
  (located base chunks).filterMap (Piece.common? first last)

variable {chunks rest : ScatterList} {chunk : Chunk} {base first last : Nat} {piece : Piece}

/-- Chunks behind others are located behind all their bytes. -/
lemma located_append (base : Nat) (l₁ l₂ : ScatterList) :
    located base (l₁ ++ l₂) = located base l₁ ++ located (base + size l₁) l₂ := by
  induction l₁ generalizing base with
  | nil => rfl
  | cons chunk l₁ ih =>
    rw [List.cons_append, located, located, ih, size_cons, Nat.add_assoc, List.cons_append]

/-- The chunks of a list lie within it.

**Proof sketch.** Along the chunks, each of which is located behind the bytes of those before it. -/
lemma mem_located {place : Nat × Chunk} (h : place ∈ located base chunks) :
    place.2 ∈ chunks ∧ base ≤ place.1 ∧ place.1 + place.2.length ≤ base + size chunks := by
  induction chunks generalizing base with
  | nil => cases h
  | cons chunk rest ih =>
    rw [size_cons]
    obtain rfl | hrest := List.mem_cons.mp h
    · exact ⟨List.mem_cons_self, Nat.le_refl _, by simp only; omega⟩
    · obtain ⟨hmem, hbase, hend⟩ := ih hrest
      exact ⟨List.mem_cons_of_mem _ hmem, by omega, by omega⟩

/-- A chunk that shares nothing with the bytes makes no piece. -/
lemma pieces_cons_of_none (h : Piece.common? first last (base, chunk) = none) :
    pieces base (chunk :: rest) first last = pieces (base + chunk.length) rest first last :=
  List.filterMap_cons_none h

/-- A chunk that has bytes in common with a range contributes the first of its pieces. -/
lemma pieces_cons_of_some (h : Piece.common? first last (base, chunk) = some piece) :
    pieces base (chunk :: rest) first last =
      piece :: pieces (base + chunk.length) rest first last :=
  List.filterMap_cons_some h

/-- Bytes before a list or behind it have no piece in it. -/
lemma pieces_eq_nil (h : base + size chunks ≤ first ∨ last ≤ base) :
    pieces base chunks first last = [] := by
  refine List.filterMap_eq_nil_iff.mpr fun place hplace => ?_
  obtain ⟨-, hbase, hend⟩ := mem_located hplace
  exact if_neg (by omega)

/-- Bytes of which the first is in the list have a piece in it.

**Proof sketch.** Along the chunks. If the first byte lies in the first chunk there is a piece in
that; if not, the chunk has no piece and the byte lies in the others. -/
lemma pieces_ne_nil (hbase : base ≤ first) (hfirst : first < base + size chunks)
    (hless : first < last) : pieces base chunks first last ≠ [] := by
  induction chunks generalizing base with
  | nil => exact absurd hfirst (Nat.not_lt_of_le hbase)
  | cons chunk rest ih =>
    rw [size_cons] at hfirst
    by_cases hhere : first < base + chunk.length
    · have hpiece : Piece.common? first last (base, chunk) = some _ := if_pos (by omega)
      rw [pieces_cons_of_some hpiece]
      exact List.cons_ne_nil _ _
    · have hnone : Piece.common? first last (base, chunk) = none := if_neg (by omega)
      rw [pieces_cons_of_none hnone]
      exact ih (by omega) (by omega)

/-- Chunks that lie before the bytes make no piece of them. -/
lemma pieces_drop (k : Nat) (h : start chunks k ≤ first) :
    pieces 0 chunks first last = pieces (start chunks k) (chunks.drop k) first last := by
  have hbefore : pieces 0 (chunks.take k) first last = [] :=
    pieces_eq_nil (.inl (by rw [Nat.zero_add]; exact h))
  rw [pieces] at hbefore
  conv_lhs => rw [pieces, ← List.take_append_drop k chunks, located_append, Nat.zero_add,
    List.filterMap_append, hbefore, List.nil_append]
  rfl

/-- A piece has bytes, which lie in its chunk and among the bytes that are cut. -/
lemma mem_pieces (h : piece ∈ pieces base chunks first last) :
    piece.chunk ∈ chunks ∧ 0 < piece.length ∧ piece.offset + piece.length ≤ piece.chunk.length ∧
      first + piece.before + piece.length ≤ last := by
  obtain ⟨⟨base', chunk⟩, hplace, hpiece⟩ := List.mem_filterMap.mp h
  obtain ⟨hmem, -⟩ := mem_located hplace
  simp only [Piece.common?, Option.ite_none_right_eq_some, Option.some.injEq] at hpiece
  obtain ⟨hless, rfl⟩ := hpiece
  refine ⟨hmem, ?_, ?_, ?_⟩ <;> dsimp only <;> omega

/-- Bytes that have a piece in a list are not all before it. -/
lemma base_lt_of_mem_pieces (h : piece ∈ pieces base chunks first last) : base < last := by
  refine Nat.lt_of_not_le fun hle => ?_
  rw [pieces_eq_nil (.inr hle)] at h
  cases h

/-- **In front of a piece are the pieces before it**, if the bytes that are cut begin in the list.

**Proof sketch.** Induction on the chunks, with the bytes allowed to begin before the list. -/
theorem before_of_pieces {l₁ l₂ : List Piece} (hfirst : base ≤ first)
    (h : pieces base chunks first last = l₁ ++ piece :: l₂) :
    piece.before = (l₁.map Piece.length).sum := by
  suffices hgeneral : piece.before = max first base - first + (l₁.map Piece.length).sum by
    rwa [Nat.max_eq_left hfirst, Nat.sub_self, Nat.zero_add] at hgeneral
  clear hfirst
  induction chunks generalizing base l₁ with
  | nil => simp [pieces, located] at h
  | cons chunk rest ih =>
    cases hcommon : Piece.common? first last (base, chunk) with
    | none =>
      rw [pieces_cons_of_none hcommon] at h
      have hlast := base_lt_of_mem_pieces (h ▸ List.mem_append_right l₁ List.mem_cons_self)
      rw [ih h]
      -- the bytes begin behind the chunk, or it is empty
      simp only [Piece.common?, ite_eq_right_iff, reduceCtorEq, imp_false] at hcommon
      omega
    | some head =>
      rw [pieces_cons_of_some hcommon] at h
      simp only [Piece.common?, Option.ite_none_right_eq_some, Option.some.injEq] at hcommon
      obtain ⟨hless, hhead⟩ := hcommon
      cases l₁ with
      | nil =>
        obtain ⟨rfl, -⟩ := List.cons.inj h
        rw [← hhead]
        simp
      | cons head' l₁ =>
        rw [List.cons_append] at h
        obtain ⟨rfl, hrest⟩ := List.cons.inj h
        have hlast := base_lt_of_mem_pieces
          (hrest ▸ List.mem_append_right l₁ List.mem_cons_self)
        rw [ih hrest, List.map_cons, List.sum_cons, ← hhead]
        dsimp only
        omega

end ScatterList

/-! ## Lines -/

namespace Field

open Emission

/-- An emission writes the instructions `l` for chunks of a buffer. If there is `enough` of the
buffer it leaves a cursor at byte `position`, and otherwise it breaks off at the end of the list. A
chunk out of reach of the bus may break it off before, and so may padding, if some is `wide`. -/
inductive Covers (chunks : ScatterList) (l : List Instruction) (enough wide : Prop)
    (position : Nat) : Emission Cursor → Prop
  | complete {next : Cursor} (henough : enough) (hnext : next.Stands chunks position) :
      Covers chunks l enough wide position ⟨l, .ok next⟩
  | exhausted (hshort : ¬enough) :
      Covers chunks l enough wide position ⟨l, .error (.scatterExhausted chunks.length)⟩
  | outOfReach {written : List Instruction} {address : Nat}
      (hreach : ¬ScatterList.InReach chunks) :
      Covers chunks l enough wide position ⟨written, .error (.addressTooWide address)⟩
  | overflows {written : List Instruction} (hwide : wide) :
      Covers chunks l enough wide position ⟨written, .error .numberTooWide⟩

variable {chunks left : ScatterList} {chunk : Chunk} {l : List Instruction} {enough wide : Prop}
  {cursor : Cursor} {index offset position first last bytes done todo : Nat} {mode : LineOffset}
  {m : Emission Cursor} {layout : FieldLayout}

/-- Other instructions may come first. -/
lemma Covers.append (h : Covers chunks l enough wide position m) (before : List Instruction) :
    Covers chunks (before ++ l) enough wide position ⟨before ++ m.instructions, m.outcome⟩ := by
  cases h with
  | complete henough hnext => exact .complete henough hnext
  | exhausted hshort => exact .exhausted hshort
  | outOfReach hreach => exact .outOfReach hreach
  | overflows hwide => exact .overflows hwide

/-- A byte of a chunk has a bus address, unless the chunk is out of reach. -/
lemma covers_take {next : UInt32 → Emission Cursor} (hchunk : chunk ∈ chunks)
    (hoffset : offset < chunk.length)
    (h : Covers chunks l enough wide position (next (UInt32.ofNat (chunk.address + offset)))) :
    Covers chunks l enough wide position (take (chunk.busAddress offset) >>= next) := by
  unfold Chunk.busAddress
  split
  · exact h
  · next hwide =>
    refine .outOfReach fun hreach => hwide ?_
    have hlimit := hreach chunk hchunk
    rw [Chunk.limit] at hlimit
    omega

/-- **The rest of a split line is transferred piece by piece.**

**Proof sketch.** Induction on the chunks. A chunk that is too short is a piece as a whole, and the
bytes behind it begin at the next. -/
theorem covers_continueLine (bytes : Nat) (mode : LineOffset)
    (h : (⟨index, left, 0⟩ : Cursor).Stands chunks position)
    (hpos : ∀ chunk ∈ chunks, 0 < chunk.length) (hdone : 0 < done) (htodo : 0 < todo)
    (hfirst : first + done = position) (hlast : position + todo = last) :
    Covers chunks ((ScatterList.pieces position left first last).map (Piece.instruction bytes mode))
      (last ≤ ScatterList.size chunks) wide last (continueLine index done todo left) := by
  induction left generalizing index done todo position with
  | nil =>
    obtain rfl : index = chunks.length :=
      Nat.le_antisymm h.index_le (List.drop_eq_nil_iff.mp h.chunks_eq.symm)
    have hsize : position + 0 = ScatterList.size chunks + 0 := h.size_eq
    exact .exhausted (by omega)
  | cons chunk rest ih =>
    have hchunk : chunk ∈ chunks := h.subset List.mem_cons_self
    have hlength := hpos chunk hchunk
    have hsize := h.size_eq
    rw [ScatterList.size_cons] at hsize
    unfold continueLine
    split
    · next hshort =>
      have hpiece : Piece.common? first last (position, chunk) =
          some ⟨chunk, 0, chunk.length, done⟩ := by
        rw [Piece.common?, if_pos (by omega)]
        congr 2 <;> omega
      have hnext := h.behind (Nat.zero_le _)
      rw [Nat.sub_zero] at hnext
      have hmore : 0 < done + chunk.length := Nat.add_pos_left hdone _
      have hrest := ih hnext hmore (Nat.sub_pos_of_lt hshort) (by omega) (by omega)
      rw [ScatterList.pieces_cons_of_some hpiece, List.map_cons, Piece.instruction, if_pos hdone]
      exact covers_take hchunk hlength (hrest.append [_])
    · next hlong =>
      have hpiece : Piece.common? first last (position, chunk) = some ⟨chunk, 0, todo, done⟩ := by
        rw [Piece.common?, if_pos (by omega)]
        congr 2 <;> omega
      have hstands := h.skip todo
      rw [Cursor.skip, Nat.zero_add, hlast] at hstands
      rw [ScatterList.pieces_cons_of_some hpiece, ScatterList.pieces_eq_nil (.inr (by omega)),
        List.map_cons, Piece.instruction, if_pos hdone]
      refine covers_take hchunk hlength (Covers.append ?_ [_])
      exact .complete (by omega) hstands

/-- **A line is transferred piece by piece.**

**Proof sketch.** The chunk that is found is the first with bytes in common with the line. If the
line ends in it that is its only piece; otherwise the rest of the chunk is the first piece, and the
line goes on in the chunks behind. If none is found the line lies behind the end of the list. -/
theorem covers_line (h : cursor.Stands chunks position)
    (hpos : ∀ chunk ∈ chunks, 0 < chunk.length) (hbytes : 0 < bytes) (mode : LineOffset) :
    Covers chunks
      ((ScatterList.pieces 0 chunks position (position + bytes)).map (Piece.instruction bytes mode))
      (position + bytes ≤ ScatterList.size chunks) wide (position + bytes)
      (line bytes mode cursor) := by
  unfold line
  obtain ⟨⟨index, chunk, rest, offset⟩, hseek, -, hoffset, hplace⟩ | ⟨hseek, hend⟩ := h.seek_cases
  · rw [hseek]
    dsimp only at hoffset hplace
    have hchunk : chunk ∈ chunks := hplace.subset List.mem_cons_self
    have hless : offset < chunk.length := by
      have hlength := hpos chunk hchunk
      omega
    have hstart : ScatterList.start chunks index + offset = position := hplace.position_eq
    have hsize := hplace.size_eq
    rw [ScatterList.size_cons] at hsize
    rw [ScatterList.pieces_drop index (by omega), ← hplace.chunks_eq]
    refine covers_take hchunk hless ?_
    dsimp only
    split
    · next hfits =>
      have hpiece : Piece.common? position (position + bytes)
          (ScatterList.start chunks index, chunk) = some ⟨chunk, offset, bytes, 0⟩ := by
        rw [Piece.common?, if_pos (by omega)]
        congr 2 <;> omega
      rw [ScatterList.pieces_cons_of_some hpiece, ScatterList.pieces_eq_nil (.inr (by omega)),
        List.map_cons, Piece.instruction, if_neg (Nat.lt_irrefl 0), if_neg (Nat.lt_irrefl bytes)]
      refine Covers.append ?_ [_]
      exact .complete (by omega) (hplace.skip bytes)
    · next hsplit =>
      have hpiece : Piece.common? position (position + bytes)
          (ScatterList.start chunks index, chunk) =
          some ⟨chunk, offset, chunk.length - offset, 0⟩ := by
        rw [Piece.common?, if_pos (by omega)]
        congr 2 <;> omega
      have hbehind := hplace.behind (Nat.le_of_lt hless)
      have hrest : Covers chunks _ _ wide _ _ := covers_continueLine bytes mode hbehind hpos
        (Nat.sub_pos_of_lt hless) (Nat.sub_pos_of_lt (Nat.lt_of_not_le hsplit)) rfl
        (show _ = position + bytes by omega)
      rw [show position + (chunk.length - offset) = ScatterList.start chunks index + chunk.length
        by omega] at hrest
      rw [ScatterList.pieces_cons_of_some hpiece, List.map_cons, Piece.instruction,
        if_neg (Nat.lt_irrefl 0), if_pos (by dsimp only; omega)]
      exact hrest.append [_]
  · rw [hseek, ScatterList.pieces_eq_nil (.inl (by omega))]
    exact .exhausted (by omega)

/-- There is enough for the same reason, and padding can be too wide for more. -/
lemma Covers.congr {enough' wide' : Prop} (h : Covers chunks l enough wide position m)
    (henough : enough ↔ enough') (hmore : wide → wide') :
    Covers chunks l enough' wide' position m := by
  cases h with
  | complete hyes hnext => exact .complete (henough.mp hyes) hnext
  | exhausted hshort => exact .exhausted fun hyes => hshort (henough.mpr hyes)
  | outOfReach hreach => exact .outOfReach hreach
  | overflows hwide => exact .overflows (hmore hwide)

end Field

/-! ## Fields -/

namespace FieldLayout

open Emission VideoCapture.Field

variable {layout : FieldLayout} {chunks : ScatterList} {cursor : Cursor} {mode : LineOffset}
  {piece : Piece} {n : Nat}

/-- The pieces of line number `n`. -/
def pieces (layout : FieldLayout) (chunks : ScatterList) (n : Nat) : List Piece :=
  ScatterList.pieces 0 chunks (layout.position n) (layout.position n + layout.lineBytes)

/-- The instructions of line number `n`, one for each piece; the last is flagged if the line ends
with an interrupt. -/
def lineInstructions (layout : FieldLayout) (chunks : ScatterList) (mode : LineOffset) (n : Nat) :
    List Instruction :=
  let instructions := (layout.pieces chunks n).map (Piece.instruction layout.lineBytes mode)
  if interrupts layout n then flagLastOf instructions else instructions

/-- The instructions of a field: one to wait for it, if it is to be waited for, and those of its
lines. -/
def instructions (layout : FieldLayout) (chunks : ScatterList) (mode : LineOffset) :
    List Instruction :=
  (layout.sync.map fun parity => { opcode := parity.opcode : Instruction }).toList ++
    (List.range layout.lines).flatMap (layout.lineInstructions chunks mode)

/-- A line with its end marked is transferred piece by piece. -/
lemma covers_numberedLine (h : cursor.Stands chunks (layout.position n))
    (hpos : ∀ chunk ∈ chunks, 0 < chunk.length) (hbytes : 0 < layout.lineBytes)
    (mode : LineOffset) :
    Covers chunks (layout.lineInstructions chunks mode n)
      (layout.position n + layout.lineBytes ≤ ScatterList.size chunks) False
      (layout.position n + layout.lineBytes) (numberedLine layout mode n cursor) := by
  have hline : Covers chunks _ _ False _ _ := covers_line h hpos hbytes mode
  unfold numberedLine lineInstructions
  split
  · generalize line layout.lineBytes mode cursor = m at hline
    cases hline with
    | complete henough hnext => exact .complete henough hnext
    | exhausted hshort => exact .exhausted hshort
    | outOfReach hreach => exact .outOfReach hreach
    | overflows hnever => exact hnever.elim
  · exact hline

/-- Behind the end of a buffer lines have no instructions. -/
lemma lineInstructions_eq_nil (h : ScatterList.size chunks ≤ layout.position n) :
    layout.lineInstructions chunks mode n = [] := by
  have hnil : layout.pieces chunks n = [] :=
    ScatterList.pieces_eq_nil (.inl (by rw [Nat.zero_add]; exact h))
  rw [lineInstructions, hnil]
  exact ite_self []

/-- **Lines are transferred piece by piece.**

**Proof sketch.** Induction on the number of lines. A line leaves the cursor where the next begins,
once the padding is skipped. If the buffer ends within a line, nothing of the next is in it. -/
theorem covers_lines (h : cursor.Stands chunks (layout.position n))
    (hpos : ∀ chunk ∈ chunks, 0 < chunk.length) (hbytes : 0 < layout.lineBytes)
    (mode : LineOffset) (count : Nat) :
    Covers chunks ((List.range' n count).flatMap (layout.lineInstructions chunks mode))
      (∀ k ∈ List.range' n count, layout.position k + layout.lineBytes ≤ ScatterList.size chunks)
      (∃ k ∈ List.range' n count, layout.Overflows chunks k)
      (layout.position (n + count)) (Field.lines layout mode count n cursor) := by
  induction count generalizing n cursor with
  | zero => exact .complete (by simp) h
  | succ count ih =>
    have hfirst := covers_numberedLine h hpos hbytes mode
    rw [Field.lines, List.range'_succ, List.flatMap_cons]
    generalize hm : numberedLine layout mode n cursor = m at hfirst
    cases hfirst with
    | complete henough hnext =>
      obtain hpad | ⟨hpad, hover⟩ :=
        pad_cases hnext (ends_of_numberedLine hbytes (congrArg Emission.outcome hm))
      · have hskip := hnext.skip layout.padding
        rw [← position_add_one] at hskip
        have hrest := (ih hskip).append (layout.lineInstructions chunks mode n)
        rw [show n + 1 + count = n + (count + 1) by omega] at hrest
        rw [ok_bind, hpad, take_ok_bind]
        refine hrest.congr ?_ ?_
        · rw [List.forall_mem_cons]
          exact (and_iff_right henough).symm
        · rintro ⟨k, hk, hover⟩
          exact ⟨k, List.mem_cons_of_mem _ hk, hover⟩
      · rw [ok_bind, hpad, take_error_bind]
        exact .overflows ⟨n, List.mem_cons_self, hover⟩
    | exhausted hshort =>
      have hnothing : (List.range' (n + 1) count).flatMap (layout.lineInstructions chunks mode) =
          [] := by
        refine List.flatMap_eq_nil_iff.mpr fun k hk => lineInstructions_eq_nil ?_
        have hbehind := layout.position_mono (List.mem_range'_1.mp hk).1
        rw [position_add_one] at hbehind
        omega
      rw [hnothing, List.append_nil]
      exact .exhausted fun hall => hshort (hall n List.mem_cons_self)
    | outOfReach hreach => exact .outOfReach hreach
    | overflows hnever => exact hnever.elim

/-- **A field is transferred piece by piece.** -/
theorem covers_emission (hpos : ∀ chunk ∈ chunks, 0 < chunk.length)
    (hbytes : 0 < layout.lineBytes) (hmost : layout.lineBytes ≤ Instruction.maxCount)
    (mode : LineOffset) :
    Covers chunks (layout.instructions chunks mode) (layout.Spans (ScatterList.size chunks))
      (∃ n < layout.lines, layout.Overflows chunks n) (layout.position layout.lines)
      (layout.emission chunks mode) := by
  have hall : (∀ k ∈ List.range' 0 layout.lines, layout.position k + layout.lineBytes ≤
      ScatterList.size chunks) ↔ layout.Spans (ScatterList.size chunks) := by
    simp [spans_iff]
  have hover : (∃ k ∈ List.range' 0 layout.lines, layout.Overflows chunks k) →
      ∃ n < layout.lines, layout.Overflows chunks n := by
    rintro ⟨k, hk, hover⟩
    exact ⟨k, by simpa using hk, hover⟩
  have hlines := (covers_lines (layout.stands_position_zero chunks) hpos hbytes mode
    layout.lines).congr hall hover
  rw [Nat.zero_add, ← List.range_eq_range'] at hlines
  have hencodable : ¬(layout.lineBytes = 0 ∨ Instruction.maxCount < layout.lineBytes) := by omega
  rw [instructions, emission, emissionOf, preamble, if_neg hencodable]
  cases layout.sync with
  | none => exact hlines
  | some parity => exact hlines.append _

/-- The numbers that an instruction carries for a piece are those of the piece. -/
lemma carries_of_mem_pieces (hreach : ScatterList.InReach chunks)
    (hmost : layout.lineBytes ≤ Instruction.maxCount) (h : piece ∈ layout.pieces chunks n) :
    (UInt16.ofNat piece.length).toNat = piece.length ∧
      (UInt16.ofNat piece.before).toNat = piece.before ∧
      (UInt32.ofNat piece.address).toNat = piece.address := by
  obtain ⟨hchunk, hlength, hinside, hbytes⟩ := ScatterList.mem_pieces h
  have hlimit := hreach _ hchunk
  rw [Chunk.limit] at hlimit
  simp only [Instruction.maxCount] at hmost
  refine ⟨UInt16.toNat_ofNat_of_lt' ?_, UInt16.toNat_ofNat_of_lt' ?_,
    UInt32.toNat_ofNat_of_lt' ?_⟩
  · simp only [UInt16.size]; omega
  · simp only [UInt16.size]; omega
  · simp only [UInt32.size, Piece.address]; omega

/-- The instructions of a field keep to its chunks. -/
lemma within_instructions (hreach : ScatterList.InReach chunks)
    (hmost : layout.lineBytes ≤ Instruction.maxCount) (mode : LineOffset) :
    ∀ i ∈ layout.instructions chunks mode, i.Within chunks := by
  refine List.forall_mem_append.mpr ⟨fun i hi => ?_, List.forall_mem_flatMap.mpr fun n _ => ?_⟩
  · rcases hsync : layout.sync with _ | parity <;> simp [hsync] at hi
    subst hi
    rintro (h | h) <;> cases parity <;> cases h
  · have hline : ∀ i ∈ (layout.pieces chunks n).map (Piece.instruction layout.lineBytes mode),
        i.Within chunks := by
      refine List.forall_mem_map.mpr fun piece hpiece _ => ?_
      obtain ⟨hchunk, -, hinside, -⟩ := ScatterList.mem_pieces hpiece
      obtain ⟨hlength, -, haddress⟩ := carries_of_mem_pieces hreach hmost hpiece
      refine ⟨piece.chunk, hchunk, ?_⟩
      rw [Piece.count_instruction, Piece.address_instruction, hlength, haddress, Chunk.limit,
        Piece.address]
      omega
    unfold lineInstructions
    split
    · exact within_flagLastOf hline
    · exact hline

end FieldLayout

namespace Region

/-- **What is written to memory for a field**, if the padding behind none of its lines overflows. If
the last line ends within the buffer, the words written are those of the field's instructions: one
to wait for the field, if that is asked for, and for each line, in order, one for each of its
pieces. Otherwise the writing breaks off at the end of the list, and whatever was written before
that keeps to the chunks. Each piece has those of its line before it in front of it, and all its
numbers fit the instruction.

**Proof sketch.** The emission covers the pieces of all lines, or ends at one of three faults. Two
of these are excluded by hypothesis, and the third comes just if the last line ends behind the
buffer. -/
theorem field_eq_pieces (region : Region) (layout : FieldLayout) (chunks : ScatterList)
    (mode : LineOffset) (hpos : ∀ chunk ∈ chunks, 0 < chunk.length)
    (hreach : ScatterList.InReach chunks) (hbytes : 0 < layout.lineBytes)
    (hmost : layout.lineBytes ≤ Instruction.maxCount)
    (hnarrow : ∀ n < layout.lines, ¬layout.Overflows chunks n)
    (hroom : region.position + 2 * (layout.instructions chunks mode).length ≤ region.capacity) :
    (layout.Spans (ScatterList.size chunks) →
      region.field layout chunks mode = .ok { region with
        words := region.words ++ Instruction.encodeAll (layout.instructions chunks mode) } ∧
      Instruction.decodeAll (Instruction.encodeAll (layout.instructions chunks mode)) =
        layout.instructions chunks mode) ∧
    (¬layout.Spans (ScatterList.size chunks) →
      region.field layout chunks mode = .error (.scatterExhausted chunks.length) ∧
      ∀ i ∈ (layout.emission chunks mode).instructions, i.Within chunks) ∧
    ∀ n l₁ piece l₂, layout.pieces chunks n = l₁ ++ piece :: l₂ →
      piece.before = (l₁.map Piece.length).sum ∧
      (piece.instruction layout.lineBytes mode).count.toNat = piece.length ∧
      (piece.instruction layout.lineBytes mode).address.toNat = piece.address ∧
      (0 < piece.before →
        (piece.instruction layout.lineBytes mode).start.toNat = piece.before) := by
  have hfield := field_eq_append region layout chunks mode
  have hcovers := FieldLayout.covers_emission hpos hbytes hmost mode
  have hfits : ¬∃ n < layout.lines, layout.Overflows chunks n := by
    rintro ⟨n, hn, hover⟩
    exact hnarrow n hn hover
  have hwithin := FieldLayout.within_instructions hreach hmost mode
  rw [← Instruction.length_encodeAll] at hroom
  refine ⟨fun hspans => ?_, fun hshort => ?_, fun n l₁ piece l₂ hpieces => ?_⟩
  · generalize hemission : layout.emission chunks mode = m at hcovers hfield
    cases hcovers with
    | complete _ _ =>
      obtain ⟨-, -, hfits⟩ := FieldLayout.writes_of_emission hemission
      have hread := Instruction.decodeAll_encodeAll hfits []
      rw [List.append_nil, show Instruction.decodeAll [] = [] from rfl, List.append_nil] at hread
      exact ⟨hfield.trans (if_pos hroom), hread⟩
    | exhausted hshort => exact absurd hspans hshort
    | outOfReach hfar => exact absurd hreach hfar
    | overflows hover => exact absurd hover hfits
  · generalize layout.emission chunks mode = m at hcovers hfield ⊢
    cases hcovers with
    | complete hspans _ => exact absurd hspans hshort
    | exhausted _ => exact ⟨hfield.trans (if_pos hroom), hwithin⟩
    | outOfReach hfar => exact absurd hreach hfar
    | overflows hover => exact absurd hover hfits
  · have hpiece : piece ∈ layout.pieces chunks n :=
      hpieces ▸ List.mem_append_right _ List.mem_cons_self
    obtain ⟨hlength, hbefore, haddress⟩ :=
      FieldLayout.carries_of_mem_pieces hreach hmost hpiece
    refine ⟨ScatterList.before_of_pieces (Nat.zero_le _) hpieces, ?_, ?_, fun hlater => ?_⟩
    · rw [Piece.count_instruction, hlength]
    · rw [Piece.address_instruction, haddress]
    · rw [Piece.start_instruction hlater, hbefore]

/-- Five chunks, the longest of sixty bytes. -/
def scattered : ScatterList :=
  [⟨0x1000, 10⟩, ⟨0x5000, 8⟩, ⟨0x3000, 5⟩, ⟨0x9000, 60⟩, ⟨0x7ff0, 40⟩]

/-- Three lines of 24 bytes each, with 15 bytes skipped behind each and an interrupt for every
second. -/
def sparseField : FieldLayout where
  sync := some .even
  offset := 3
  lineBytes := 24
  padding := 15
  lines := 3
  linesPerInterrupt := 2

/-- The first line of a field lies in four chunks, the second in one, which is not the next, and
the third begins there too and ends in the last chunk, without which there is nothing to write it
to. -/
theorem field_eq_pieces_scattered :
    (∀ chunk ∈ scattered, 0 < chunk.length) ∧ ScatterList.InReach scattered ∧
      0 < sparseField.lineBytes ∧ sparseField.lineBytes ≤ Instruction.maxCount ∧
      (∀ n < sparseField.lines, ¬sparseField.Overflows scattered n) ∧
      sparseField.Spans (ScatterList.size scattered) ∧
      (blank 16).field sparseField scattered .encode =
        .ok ⟨16, Instruction.encodeAll (sparseField.instructions scattered .encode)⟩ ∧
      sparseField.instructions scattered .encode = [
        { opcode := .syncEven },
        { opcode := .lineStart, dataType := 7, count := 7, address := 0x1003 },
        { opcode := .inline, start := 7, count := 8, address := 0x5000 },
        { opcode := .inline, start := 15, count := 5, address := 0x3000 },
        { opcode := .inline, start := 20, count := 4, address := 0x9000 },
        { opcode := .lineStart, start := 19, count := 24, address := 0x9013 },
        { opcode := .lineStart, dataType := 7, count := 2, address := 0x903a },
        { opcode := .inline, irq := true, start := 2, count := 22, address := 0x7ff0 }] ∧
      (blank 16).field sparseField (scattered.take 4) .encode = .error (.scatterExhausted 4) := by
  have hpos : ∀ chunk ∈ scattered, 0 < chunk.length := by decide
  have hreach : ScatterList.InReach scattered := by unfold ScatterList.InReach; decide
  have hspans : sparseField.Spans (ScatterList.size scattered) := by decide
  have hbytes : 0 < sparseField.lineBytes ∧ sparseField.lineBytes ≤ Instruction.maxCount := by
    decide
  have hnarrow : ∀ n < sparseField.lines, ¬sparseField.Overflows scattered n := by decide
  have hfield := (field_eq_pieces (blank 16) sparseField scattered .encode hpos hreach hbytes.1
    hbytes.2 hnarrow (by decide)).1 hspans
  have hshort := (field_eq_pieces (blank 16) sparseField (scattered.take 4) .encode
    (fun chunk h => hpos chunk (List.mem_of_mem_take h))
    (fun chunk h => hreach chunk (List.mem_of_mem_take h)) hbytes.1 hbytes.2 (by decide)
    (by decide)).2.1 (by decide)
  exact ⟨hpos, hreach, hbytes.1, hbytes.2, hnarrow, hspans, hfield.1, by decide, hshort.1⟩

end Region

end VideoCapture
