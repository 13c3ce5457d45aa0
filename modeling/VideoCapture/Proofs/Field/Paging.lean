import VideoCapture.Proofs.Field.Transfer

/-!
# Fields over pages

A buffer is mapped page by page: its chunks are whole pages, up to the last, behind which nothing is
left. A line is shorter than a page, so that it is split once at most, at the end of the page it
begins in. A cursor over such chunks stands at a byte of the buffer, and its index is the number of
the page. So it can be told beforehand that a field is transferred, and with how many instructions
at most: one to wait for it, one for each of its lines, and one for each page that it goes on into.

## Main definitions

* `VideoCapture.ScatterList.Paged` — the chunks are whole pages up to the last.
* `VideoCapture.Cursor.At` — where in a paged buffer a cursor stands.
* `VideoCapture.FieldLayout.Inside` — a field lies inside of a buffer.
* `VideoCapture.FieldLayout.allowance` — the instructions allowed for a field.

## Main results

* `VideoCapture.Field.exists_line`, `VideoCapture.Field.exists_lines` — lines inside of a buffer are
  transferred, with an instruction for each line and for each page that is entered.
* `VideoCapture.FieldLayout.exists_emission` — a field inside of a buffer is transferred with the
  instructions allowed for it.
-/

set_option autoImplicit false

namespace VideoCapture

/-! ## Pages -/

/-- Chunks are whole pages up to the last, behind which nothing is left. -/
def ScatterList.Paged : ScatterList → Prop
  | [] => True
  | chunk :: rest =>
    (chunk.length = pageSize ∨ chunk.length ≤ pageSize ∧ ScatterList.size rest = 0) ∧ Paged rest

/-- Every chunk lies in reach of the bus. -/
def ScatterList.InReach (chunks : ScatterList) : Prop :=
  ∀ chunk ∈ chunks, chunk.limit ≤ 0x100000000

/-- A byte of a chunk in reach of the bus has a bus address. -/
lemma Chunk.exists_busAddress {chunk : Chunk} {offset : Nat} (h : chunk.limit ≤ 0x100000000)
    (hoffset : offset < chunk.length) : ∃ address, chunk.busAddress offset = .ok address := by
  have hless : chunk.address + offset < 0x100000000 := by
    unfold limit at h
    omega
  exact ⟨_, if_pos hless⟩

/-! ## Cursors -/

namespace Cursor

/-- A cursor stands at byte `position` of a paged buffer of `size` bytes. -/
structure At (size position : Nat) (cursor : Cursor) : Prop where
  /-- What is left of the buffer is paged. -/
  paged : ScatterList.Paged cursor.chunks
  /-- It lies in reach of the bus. -/
  inReach : ScatterList.InReach cursor.chunks
  /-- The chunks passed over are whole pages, and with those left they are the buffer. -/
  size_eq : pageSize * cursor.index + ScatterList.size cursor.chunks = size
  /-- The offset counts on from the chunks passed over. -/
  position_eq : pageSize * cursor.index + cursor.offset = position

variable {cursor : Cursor} {index offset size position : Nat} {chunk : Chunk} {rest : ScatterList}

/-- Moving on over bytes moves on by as many. -/
lemma At.skip (h : cursor.At size position) (n : Nat) : (cursor.skip n).At size (position + n) where
  paged := h.paged
  inReach := h.inReach
  size_eq := h.size_eq
  position_eq := by rw [← h.position_eq]; exact (Nat.add_assoc _ _ _).symm

/-- A chunk with anything behind it is a whole page. -/
lemma At.length_eq (h : (⟨index, chunk :: rest, offset⟩ : Cursor).At size position)
    (hmore : pageSize * index + chunk.length < size) : chunk.length = pageSize := by
  have hsize : pageSize * index + (chunk.length + ScatterList.size rest) = size := h.size_eq
  obtain hpage | ⟨-, hnothing⟩ := h.paged.1
  · exact hpage
  · omega

/-- A cursor behind such a chunk can be counted from the next. -/
lemma At.next (h : (⟨index, chunk :: rest, offset⟩ : Cursor).At size position)
    (hmore : pageSize * index + chunk.length < size) (hoffset : chunk.length ≤ offset) :
    (⟨index + 1, rest, offset - chunk.length⟩ : Cursor).At size position := by
  have hsize : pageSize * index + (chunk.length + ScatterList.size rest) = size := h.size_eq
  have hstands : pageSize * index + offset = position := h.position_eq
  have hpage := h.length_eq hmore
  refine ⟨h.paged.2, fun c hc => h.inReach c (List.mem_cons_of_mem _ hc), ?_, ?_⟩
  · show pageSize * (index + 1) + ScatterList.size rest = size
    rw [Nat.mul_succ]
    omega
  · show pageSize * (index + 1) + (offset - chunk.length) = position
    rw [Nat.mul_succ]
    omega

/-- **Every byte of a paged buffer can be sought**, and is found inside of a chunk.

**Proof sketch.** Induction on the chunks left. A chunk that is passed over has the byte behind it,
so it is a whole page. -/
theorem At.exists_place (h : cursor.At size position) (hposition : position < size) :
    ∃ place, cursor.seek = .ok place ∧ place.offset < place.chunk.length ∧
      (⟨place.index, place.chunk :: place.rest, place.offset⟩ : Cursor).At size position := by
  obtain ⟨index, chunks, offset⟩ := cursor
  induction chunks generalizing index offset with
  | nil =>
    have hsize : pageSize * index + 0 = size := h.size_eq
    have hstands : pageSize * index + offset = position := h.position_eq
    omega
  | cons chunk rest ih =>
    have hstands : pageSize * index + offset = position := h.position_eq
    by_cases hpast : 0 < offset ∧ chunk.length ≤ offset
    · obtain ⟨place, hseek, hplace⟩ := ih _ _ (h.next (by omega) hpast.2)
      refine ⟨place, ?_, hplace⟩
      rw [seek, seekFrom, if_pos hpast]
      exact hseek
    · refine ⟨⟨index, chunk, rest, offset⟩, ?_, ?_, h⟩
      · rw [seek, seekFrom, if_neg hpast]
      · -- a cursor at the start of a chunk has bytes left, and those are not behind an empty one
        have hsize : pageSize * index + (chunk.length + ScatterList.size rest) = size := h.size_eq
        show offset < chunk.length
        obtain hpage | ⟨-, hnothing⟩ := h.paged.1
        · simp only [pageSize] at hpage
          omega
        · omega

/-- The index of a cursor inside of its chunk is the number of the page. -/
lemma At.div_pageSize (h : (⟨index, chunk :: rest, offset⟩ : Cursor).At size position)
    (hoffset : offset < chunk.length) : position / pageSize = index := by
  have hstands : pageSize * index + offset = position := h.position_eq
  have hlength : chunk.length ≤ pageSize := by
    obtain hpage | ⟨hpart, -⟩ := h.paged.1
    · exact Nat.le_of_eq hpage
    · exact hpart
  simp only [pageSize] at *
  omega

end Cursor

/-! ## Lines -/

namespace Field

open Emission

variable {cursor : Cursor} {size position bytes : Nat} {layout : FieldLayout}

/-- What is left of a line that was split is transferred at once, to the start of the next page. -/
lemma exists_continueLine {chunks : ScatterList} {todo : Nat} (hpaged : ScatterList.Paged chunks)
    (hreach : ScatterList.InReach chunks) (hpos : 0 < todo) (hless : todo < pageSize)
    (henough : todo ≤ ScatterList.size chunks) (index done : Nat) :
    ∃ i, continueLine index done todo chunks = ⟨[i], .ok ⟨index, chunks, todo⟩⟩ := by
  cases chunks with
  | nil => exact absurd (Nat.lt_of_lt_of_le hpos henough) (Nat.lt_irrefl 0)
  | cons chunk rest =>
    have hroom : todo ≤ chunk.length := by
      obtain hpage | ⟨-, hnothing⟩ := hpaged.1
      · omega
      · have hsum : todo ≤ chunk.length + ScatterList.size rest := henough
        omega
    obtain ⟨address, haddress⟩ := Chunk.exists_busAddress (hreach chunk List.mem_cons_self)
      (Nat.lt_of_lt_of_le hpos hroom)
    rw [continueLine, if_neg (Nat.not_lt.mpr hroom), haddress]
    exact ⟨_, rfl⟩

/-- **A line inside of a buffer is transferred**, with one instruction, and one more if it goes on
into the next page.

**Proof sketch.** The line begins in the page of its position. If it fits there it is one
instruction. Otherwise that page is a whole one, as more of the buffer lies behind it, and since a
line is shorter than a page it ends in the next. -/
theorem exists_line (h : cursor.At size position) (hpos : 0 < bytes) (hless : bytes < pageSize)
    (hinside : position + bytes ≤ size) (mode : LineOffset) :
    ∃ l next, line bytes mode cursor = ⟨l, .ok next⟩ ∧ next.At size (position + bytes) ∧
      l.length + position / pageSize ≤ 1 + (position + bytes) / pageSize := by
  obtain ⟨⟨index, chunk, rest, offset⟩, hseek, hoffset, hplace⟩ := h.exists_place (by omega)
  dsimp only at hoffset hplace
  obtain ⟨address, haddress⟩ := Chunk.exists_busAddress
    (hplace.inReach chunk List.mem_cons_self) hoffset
  have hend : (⟨index, chunk :: rest, offset + bytes⟩ : Cursor).At size (position + bytes) :=
    hplace.skip bytes
  rw [line, hseek]
  by_cases hfits : bytes ≤ chunk.length - offset
  · refine ⟨[{ opcode := .lineStart, start := startField mode offset,
               count := UInt16.ofNat bytes, address }], _, ?_, hend, ?_⟩
    · simp only [take, ok_bind, haddress, if_pos hfits, emit]
      rfl
    · exact Nat.add_le_add_left (Nat.div_le_div_right (Nat.le_add_right _ _)) 1
  · -- the line ends behind the chunk, so that this is a whole page
    have hroom : chunk.length - offset < bytes := Nat.lt_of_not_le hfits
    have hstands : pageSize * index + offset = position := hplace.position_eq
    have hmore : pageSize * index + chunk.length < size := by omega
    have hpage := hend.length_eq hmore
    have hnext := hend.next hmore (by omega)
    have hleft : pageSize * (index + 1) + ScatterList.size rest = size := hnext.size_eq
    rw [Nat.mul_succ] at hleft
    have henough : bytes - (chunk.length - offset) ≤ ScatterList.size rest := by omega
    obtain ⟨i, hrest⟩ := exists_continueLine hnext.paged hnext.inReach (Nat.sub_pos_of_lt hroom)
      (by omega) henough (index + 1) (chunk.length - offset)
    refine ⟨[{ opcode := .lineStart, dataType := 7, count := UInt16.ofNat (chunk.length - offset),
               address }, i], ⟨index + 1, rest, offset + bytes - chunk.length⟩, ?_, hnext, ?_⟩
    · simp only [take, ok_bind, haddress, if_neg hfits, emit, hrest]
      rw [show bytes - (chunk.length - offset) = offset + bytes - chunk.length by omega]
      rfl
    · have hbefore : position / pageSize = index := hplace.div_pageSize hoffset
      have hbehind : index + 1 ≤ (position + bytes) / pageSize := by
        rw [Nat.le_div_iff_mul_le (by decide), Nat.mul_comm, Nat.mul_succ]
        omega
      rw [hbefore]
      show 2 + index ≤ _
      omega

/-- Whether a line ends with an interrupt does not show in how much it takes. -/
lemma exists_numberedLine (h : cursor.At size position) (hpos : 0 < layout.lineBytes)
    (hless : layout.lineBytes < pageSize) (hinside : position + layout.lineBytes ≤ size)
    (mode : LineOffset) (number : Nat) :
    ∃ l next, numberedLine layout mode number cursor = ⟨l, .ok next⟩ ∧
      next.At size (position + layout.lineBytes) ∧
      l.length + position / pageSize ≤ 1 + (position + layout.lineBytes) / pageSize := by
  obtain ⟨l, next, hline, hat, hlength⟩ := exists_line h hpos hless hinside mode
  unfold numberedLine
  rw [hline]
  split
  · exact ⟨_, _, rfl, hat, by rwa [length_flagLastOf]⟩
  · exact ⟨l, next, rfl, hat, hlength⟩

/-- **Lines inside of a buffer are transferred**, with one instruction for each, and one for each
page that is entered on the way, if the bytes of the buffer up to the end of them can be counted in
32 bits.

**Proof sketch.** Induction on the number of lines. The pages entered add up, because each line
begins on the page where the one before has left the cursor, or behind it. -/
theorem exists_lines {count : Nat} (h : cursor.At size position) (hpos : 0 < layout.lineBytes)
    (hless : layout.lineBytes < pageSize)
    (hinside : ∀ k < count,
      position + k * (layout.lineBytes + layout.padding) + layout.lineBytes ≤ size)
    (hnarrow : position + count * (layout.lineBytes + layout.padding) < bound32)
    (mode : LineOffset) (number : Nat) :
    ∃ l next, lines layout mode count number cursor = ⟨l, .ok next⟩ ∧
      l.length + position / pageSize ≤
        count + (position + count * (layout.lineBytes + layout.padding)) / pageSize := by
  induction count generalizing number cursor position with
  | zero => exact ⟨[], cursor, rfl, by simp⟩
  | succ count ih =>
    obtain ⟨l₁, middle, hfirst, hmiddle, hlength₁⟩ := exists_numberedLine h hpos hless
      (by simpa using hinside 0 (Nat.succ_pos _)) mode number
    have hbehind : ∀ k < count, position + layout.lineBytes + layout.padding +
        k * (layout.lineBytes + layout.padding) + layout.lineBytes ≤ size := by
      intro k hk
      have hline := hinside (k + 1) (Nat.succ_lt_succ hk)
      rw [Nat.succ_mul] at hline
      omega
    rw [Nat.succ_mul] at hnarrow
    obtain ⟨l₂, next, hrest, hlength₂⟩ :=
      ih (hmiddle.skip layout.padding) hbehind (by omega) (number + 1)
    -- the offset counts from a chunk of the buffer on, so it is no more than the position
    have hoffset := hmiddle.position_eq
    have hpad : middle.pad layout.padding = .ok (middle.skip layout.padding) :=
      Cursor.pad_of_lt (by omega)
    refine ⟨l₁ ++ l₂, next, ?_, ?_⟩
    · rw [lines, hfirst, ok_bind, hpad, take_ok_bind, hrest]
    · rw [List.length_append, Nat.succ_mul]
      have hskipped : (position + layout.lineBytes) / pageSize ≤
          (position + layout.lineBytes + layout.padding) / pageSize :=
        Nat.div_le_div_right (Nat.le_add_right _ _)
      have hend : position + layout.lineBytes + layout.padding +
          count * (layout.lineBytes + layout.padding) =
          position + (count * (layout.lineBytes + layout.padding) +
            (layout.lineBytes + layout.padding)) := by omega
      rw [hend] at hlength₂
      omega

end Field

namespace FieldLayout

open Emission

variable {layout : FieldLayout} {chunks : ScatterList} {size : Nat}

/-- The lines of a field can be encoded, and lie inside of a buffer of `size` bytes. -/
structure Inside (layout : FieldLayout) (size : Nat) : Prop where
  /-- A line has bytes. -/
  pos : 0 < layout.lineBytes
  /-- It has fewer than a page. -/
  less : layout.lineBytes < pageSize
  /-- Every line ends inside of the buffer. -/
  inside : ∀ k < layout.lines,
    layout.offset + k * (layout.lineBytes + layout.padding) + layout.lineBytes ≤ size
  /-- Bytes up to the end of the field and the padding there can be counted in 32 bits. -/
  narrow : layout.offset + layout.lines * (layout.lineBytes + layout.padding) < bound32

/-- What lies inside of a buffer lies inside of a larger one. -/
lemma Inside.mono {more : Nat} (h : layout.Inside size) (hmore : size ≤ more) :
    layout.Inside more :=
  ⟨h.pos, h.less, fun k hk => Nat.le_trans (h.inside k hk) hmore, h.narrow⟩

/-- The instructions allowed for a field: one to wait for it, one for each page of its bytes, and
one for each line. -/
def allowance (layout : FieldLayout) : Nat :=
  1 + ((layout.lineBytes + layout.padding) * layout.lines + (pageSize - 1)) / pageSize +
    layout.lines

/-- What comes before the lines is one instruction at most, if lines can be encoded. -/
lemma exists_preamble (hpos : 0 < layout.lineBytes) (hless : layout.lineBytes < pageSize) :
    ∃ l, layout.preamble = ⟨l, .ok ()⟩ ∧ l.length ≤ 1 := by
  have hencodable : ¬(layout.lineBytes = 0 ∨ Instruction.maxCount < layout.lineBytes) := by
    simp only [Instruction.maxCount, pageSize] at *
    omega
  rw [preamble, if_neg hencodable]
  cases layout.sync with
  | none => exact ⟨[], rfl, Nat.zero_le 1⟩
  | some parity => exact ⟨_, rfl, Nat.le_refl 1⟩

/-- **A field inside of a paged buffer is transferred with the instructions allowed for it.** -/
theorem exists_emission (hpaged : ScatterList.Paged chunks) (hreach : ScatterList.InReach chunks)
    (h : layout.Inside (ScatterList.size chunks)) (mode : LineOffset) :
    ∃ l next, layout.emission chunks mode = ⟨l, .ok next⟩ ∧ l.length ≤ layout.allowance := by
  have hstart : (⟨0, chunks, layout.offset⟩ : Cursor).At (ScatterList.size chunks) layout.offset :=
    ⟨hpaged, hreach, Nat.zero_add _, Nat.zero_add _⟩
  obtain ⟨l₁, hpreamble, hlength₁⟩ := exists_preamble h.pos h.less
  obtain ⟨l₂, next, hlines, hlength₂⟩ :=
    Field.exists_lines hstart h.pos h.less h.inside h.narrow mode 0
  refine ⟨l₁ ++ l₂, next, ?_, ?_⟩
  · rw [emission, emissionOf, hpreamble, ok_bind, hlines]
  · -- the offset may lie anywhere in its page, which is why the pages are rounded up
    rw [List.length_append, allowance]
    rw [Nat.mul_comm] at hlength₂
    simp only [pageSize] at hlength₂ ⊢
    omega

end FieldLayout

end VideoCapture
