import Mathlib.Tactic.Lemma
import VideoCapture.Field.Lines

/-!
# Where a cursor stands

A cursor counts from the start of the first chunk that it has left and no longer knows the chunks
before that one. Together with the whole list its index still tells where it stands: the chunks
passed over are the first ones of the list, and their bytes are those in front of the cursor's
chunk. So moving a cursor on, chunk by chunk or over bytes, is counting bytes of the buffer. A line
leaves its cursor in the chunk that has the line's last byte, and from the start of that chunk the
padding is counted. So whether it leads beyond 32 bits can be told from the buffer as well.

## Main definitions

* `VideoCapture.ScatterList.start` — the byte of a buffer at which a chunk begins.
* `VideoCapture.Cursor.Stands` — the byte of a buffer that a cursor stands at.
* `VideoCapture.Cursor.Ends` — a cursor stands behind a byte of its chunk.
* `VideoCapture.FieldLayout.position` — the byte at which a line begins.
* `VideoCapture.FieldLayout.Spans` — the last line of a field ends in time.
* `VideoCapture.FieldLayout.Overflows` — the padding behind a line leads beyond 32 bits.

## Main results

* `VideoCapture.ScatterList.start_add_one` — a chunk begins where the one before it ends.
* `VideoCapture.Cursor.Stands.seek_cases` — seeking stays at the same byte and finds a chunk, unless
  the buffer ends before it.
* `VideoCapture.Field.ends_of_line` — where a line leaves its cursor.
* `VideoCapture.FieldLayout.pad_cases` — the padding behind a line is passed over unless it
  overflows.
-/

set_option autoImplicit false

namespace VideoCapture

/-! ## Chunks of a list -/

namespace ScatterList

variable {chunks rest : ScatterList} {chunk : Chunk} {k : Nat}

/-- The byte of a buffer at which its chunk number `k` begins. -/
def start (chunks : ScatterList) (k : Nat) : Nat :=
  size (chunks.take k)

/-- A chunk in front of others adds its length. -/
@[simp] lemma size_cons (chunk : Chunk) (rest : ScatterList) :
    size (chunk :: rest) = chunk.length + size rest := rfl

/-- Two lists of chunks have the bytes of both. -/
lemma size_append (first second : ScatterList) :
    size (first ++ second) = size first + size second := by
  induction first with
  | nil => exact (Nat.zero_add _).symm
  | cons chunk first ih => rw [List.cons_append, size_cons, size_cons, ih, Nat.add_assoc]

/-- What comes before a chunk and what comes from it on is the buffer. -/
lemma start_add_size_drop (chunks : ScatterList) (k : Nat) :
    start chunks k + size (chunks.drop k) = size chunks := by
  rw [start, ← size_append, List.take_append_drop]

/-- **A chunk begins where the one before it ends.** -/
lemma start_add_one (h : chunks.drop k = chunk :: rest) :
    start chunks (k + 1) = start chunks k + chunk.length := by
  have hnext : chunks.drop (k + 1) = rest := by
    rw [← List.drop_drop, h]
    rfl
  have hhere := start_add_size_drop chunks k
  have hbehind := start_add_size_drop chunks (k + 1)
  rw [h, size_cons] at hhere
  rw [hnext] at hbehind
  omega

end ScatterList

/-! ## Cursors -/

namespace Cursor

/-- A cursor stands at byte `position` of the buffer that consists of some chunks. -/
structure Stands (chunks : ScatterList) (position : Nat) (cursor : Cursor) : Prop where
  /-- The index is one of a chunk, or the number of chunks. -/
  index_le : cursor.index ≤ chunks.length
  /-- The chunks left are those from the index on. -/
  chunks_eq : cursor.chunks = chunks.drop cursor.index
  /-- The offset counts on from the start of the first chunk left. -/
  position_eq : ScatterList.start chunks cursor.index + cursor.offset = position

variable {chunks rest : ScatterList} {chunk : Chunk} {cursor : Cursor}
  {index offset position : Nat}

/-- From the first chunk on bytes are counted as they are in the buffer. -/
lemma stands_zero (chunks : ScatterList) (offset : Nat) :
    (⟨0, chunks, offset⟩ : Cursor).Stands chunks offset :=
  ⟨Nat.zero_le _, rfl, Nat.zero_add _⟩

namespace Stands

/-- Moving on over bytes moves on by as many. -/
lemma skip (h : cursor.Stands chunks position) (n : Nat) :
    (cursor.skip n).Stands chunks (position + n) where
  index_le := h.index_le
  chunks_eq := h.chunks_eq
  position_eq := by rw [← h.position_eq]; exact (Nat.add_assoc _ _ _).symm

/-- The offset of a cursor fits where its byte of the buffer does. -/
lemma pad_eq_ok {n : Nat} (h : cursor.Stands chunks position) (hn : position + n < bound32) :
    cursor.pad n = .ok (cursor.skip n) := by
  have hposition := h.position_eq
  exact pad_of_lt (by omega)

/-- A cursor with a chunk left has not used up the list. -/
lemma index_lt (h : (⟨index, chunk :: rest, offset⟩ : Cursor).Stands chunks position) :
    index < chunks.length := by
  refine Nat.lt_of_not_le fun hle => ?_
  have hnil : chunk :: rest = chunks.drop index := h.chunks_eq
  rw [List.drop_eq_nil_of_le hle] at hnil
  cases hnil

/-- The chunks left are chunks of the buffer. -/
lemma subset (h : cursor.Stands chunks position) : cursor.chunks ⊆ chunks :=
  h.chunks_eq ▸ List.drop_subset _ _

/-- The bytes before a cursor and those left make up the buffer. -/
lemma size_eq (h : (⟨index, rest, offset⟩ : Cursor).Stands chunks position) :
    position + ScatterList.size rest = ScatterList.size chunks + offset := by
  have hsize := ScatterList.start_add_size_drop chunks index
  have hposition : ScatterList.start chunks index + offset = position := h.position_eq
  rw [← show rest = chunks.drop index from h.chunks_eq] at hsize
  omega

/-- **A cursor at the end of its chunk or behind it can be counted from the next.** -/
lemma next (h : (⟨index, chunk :: rest, offset⟩ : Cursor).Stands chunks position)
    (hoffset : chunk.length ≤ offset) :
    (⟨index + 1, rest, offset - chunk.length⟩ : Cursor).Stands chunks position where
  index_le := h.index_lt
  chunks_eq := by
    rw [← List.drop_drop, ← show chunk :: rest = chunks.drop index from h.chunks_eq]
    rfl
  position_eq := by
    have hposition : ScatterList.start chunks index + offset = position := h.position_eq
    show ScatterList.start chunks (index + 1) + (offset - chunk.length) = position
    have hstart := ScatterList.start_add_one h.chunks_eq.symm
    simp only at hstart
    omega

/-- Behind the last byte of a cursor's chunk comes the first of the next. -/
lemma behind (h : (⟨index, chunk :: rest, offset⟩ : Cursor).Stands chunks position)
    (hoffset : offset ≤ chunk.length) :
    (⟨index + 1, rest, 0⟩ : Cursor).Stands chunks (position + (chunk.length - offset)) := by
  have hend : (⟨index, chunk :: rest, chunk.length⟩ : Cursor).Stands chunks
      (position + (chunk.length - offset)) := by
    have hskip := h.skip (chunk.length - offset)
    rwa [Cursor.skip, Nat.add_sub_of_le hoffset] at hskip
  have hnext := hend.next (Nat.le_refl _)
  rwa [Nat.sub_self] at hnext

/-- **Seeking stays at the same byte and finds a chunk**, unless the buffer ends before it. The
place found lies in front of the chunk's end, or at the start of it.

**Proof sketch.** Induction on the chunks left, each of which is passed over or found. -/
theorem seek_cases (h : cursor.Stands chunks position) :
    (∃ place, cursor.seek = .ok place ∧ cursor.index ≤ place.index ∧
      (0 < place.offset → place.offset < place.chunk.length) ∧
      (⟨place.index, place.chunk :: place.rest, place.offset⟩ : Cursor).Stands chunks position) ∨
    cursor.seek = .error (.scatterExhausted chunks.length) ∧
      ScatterList.size chunks ≤ position := by
  obtain ⟨index, left, offset⟩ := cursor
  induction left generalizing index offset with
  | nil =>
    have hall : chunks.length ≤ index := List.drop_eq_nil_iff.mp h.chunks_eq.symm
    obtain rfl : index = chunks.length := Nat.le_antisymm h.index_le hall
    have hsize : position + 0 = ScatterList.size chunks + offset := h.size_eq
    exact .inr ⟨rfl, by omega⟩
  | cons chunk rest ih =>
    by_cases hpast : 0 < offset ∧ chunk.length ≤ offset
    · have hseek : seek ⟨index, chunk :: rest, offset⟩ =
          seek ⟨index + 1, rest, offset - chunk.length⟩ := if_pos hpast
      rw [hseek]
      refine (ih _ _ (h.next hpast.2)).imp_left ?_
      rintro ⟨place, hplace, hindex, hinside⟩
      exact ⟨place, hplace, Nat.le_of_succ_le hindex, hinside⟩
    · refine .inl ⟨⟨index, chunk, rest, offset⟩, if_neg hpast, Nat.le_refl _, fun hpos => ?_, h⟩
      exact Nat.lt_of_not_le fun hle => hpast ⟨hpos, hle⟩

end Stands

end Cursor

/-! ## Lines -/

namespace FieldLayout

variable {layout : FieldLayout}

/-- The byte of a buffer at which line number `n` begins. -/
def position (layout : FieldLayout) (n : Nat) : Nat :=
  layout.offset + n * (layout.lineBytes + layout.padding)

/-- The last line, if there is any, ends within `size` bytes. -/
def Spans (layout : FieldLayout) (size : Nat) : Prop :=
  0 < layout.lines → layout.position (layout.lines - 1) + layout.lineBytes ≤ size

instance (layout : FieldLayout) (size : Nat) : Decidable (layout.Spans size) :=
  inferInstanceAs (Decidable (_ → _))

/-- A line begins behind the line before it and the padding. -/
lemma position_add_one (layout : FieldLayout) (n : Nat) :
    layout.position (n + 1) = layout.position n + layout.lineBytes + layout.padding := by
  rw [position, position, Nat.succ_mul]
  omega

/-- Later lines begin at later bytes. -/
lemma position_mono (layout : FieldLayout) {n m : Nat} (h : n ≤ m) :
    layout.position n ≤ layout.position m :=
  Nat.add_le_add_left (Nat.mul_le_mul_right _ h) _

/-- If the last line ends within a buffer, all do. -/
lemma spans_iff {size : Nat} :
    layout.Spans size ↔ ∀ n < layout.lines, layout.position n + layout.lineBytes ≤ size := by
  refine ⟨fun h n hn => ?_, fun h hlines => h _ (Nat.sub_lt hlines Nat.one_pos)⟩
  have hlast := h (Nat.zero_lt_of_lt hn)
  have hbefore := layout.position_mono (Nat.le_sub_one_of_lt hn)
  omega

/-- A field begins with its first line. -/
lemma stands_position_zero (layout : FieldLayout) (chunks : ScatterList) :
    (⟨0, chunks, layout.offset⟩ : Cursor).Stands chunks (layout.position 0) := by
  rw [position, Nat.zero_mul]
  exact Cursor.stands_zero chunks layout.offset

end FieldLayout

/-! ## Padding -/

/-- A cursor stands behind a byte of its chunk, and not beyond the last. -/
def Cursor.Ends (cursor : Cursor) : Prop :=
  ∃ chunk rest, cursor.chunks = chunk :: rest ∧ 0 < cursor.offset ∧ cursor.offset ≤ chunk.length

namespace Field

open Emission

variable {cursor next : Cursor} {chunks : ScatterList} {mode : LineOffset}
  {index bytes done todo n : Nat} {layout : FieldLayout}

/-- The rest of a split line ends in one of the chunks that follow.

**Proof sketch.** Induction on the chunks. The line ends in the first that is long enough. -/
lemma ends_of_continueLine (htodo : 0 < todo)
    (h : (continueLine index done todo chunks).outcome = .ok next) : next.Ends := by
  induction chunks generalizing index done todo with
  | nil => cases h
  | cons chunk rest ih =>
    unfold continueLine at h
    cases haddress : chunk.busAddress 0 with
    | error fault =>
      rw [haddress] at h
      split at h <;> cases h
    | ok address =>
      rw [haddress] at h
      split at h
      · next hshort => exact ih (Nat.sub_pos_of_lt hshort) h
      · next hlong =>
        obtain rfl := Except.ok.inj h
        exact ⟨chunk, rest, rfl, htodo, Nat.le_of_not_lt hlong⟩

/-- **A line leaves its cursor in the chunk that it ends in**, behind its last byte.

**Proof sketch.** The last instruction of a line ends in the chunk that its bytes were counted off,
with at least one byte of it behind the cursor. -/
theorem ends_of_line (hbytes : 0 < bytes) (h : (line bytes mode cursor).outcome = .ok next) :
    next.Ends := by
  unfold line at h
  cases hseek : cursor.seek with
  | error fault =>
    rw [hseek] at h
    cases h
  | ok place =>
    rw [hseek, take_ok_bind] at h
    cases haddress : place.chunk.busAddress place.offset with
    | error fault =>
      rw [haddress] at h
      cases h
    | ok address =>
      simp only [haddress, take_ok_bind] at h
      split at h
      · next hfits =>
        obtain rfl := Except.ok.inj h
        exact ⟨place.chunk, place.rest, rfl, Nat.add_pos_right _ hbytes, by dsimp only; omega⟩
      · next hsplit => exact ends_of_continueLine (Nat.sub_pos_of_lt (Nat.lt_of_not_le hsplit)) h

/-- Whether a line ends with an interrupt does not show in where it leaves its cursor. -/
lemma ends_of_numberedLine (hbytes : 0 < layout.lineBytes)
    (h : (numberedLine layout mode n cursor).outcome = .ok next) : next.Ends := by
  unfold numberedLine at h
  split at h <;> exact ends_of_line hbytes h

end Field

namespace FieldLayout

variable {layout : FieldLayout} {chunks : ScatterList} {cursor : Cursor} {n : Nat}

/-- The padding behind line number `n` leads beyond 32 bits: the line behind it would begin so far
from the start of the chunk that line number `n` ends in. -/
def Overflows (layout : FieldLayout) (chunks : ScatterList) (n : Nat) : Prop :=
  ∃ k < chunks.length, ScatterList.start chunks k < layout.position n + layout.lineBytes ∧
    layout.position n + layout.lineBytes ≤ ScatterList.start chunks (k + 1) ∧
    ScatterList.start chunks k + bound32 ≤ layout.position (n + 1)

instance (layout : FieldLayout) (chunks : ScatterList) (n : Nat) :
    Decidable (layout.Overflows chunks n) :=
  inferInstanceAs (Decidable (∃ k < chunks.length, _))

/-- **The padding behind a line is passed over unless it overflows.** -/
theorem pad_cases (h : cursor.Stands chunks (layout.position n + layout.lineBytes))
    (hends : cursor.Ends) :
    cursor.pad layout.padding = .ok (cursor.skip layout.padding) ∨
      cursor.pad layout.padding = .error .numberTooWide ∧ layout.Overflows chunks n := by
  obtain ⟨index, left, offset⟩ := cursor
  obtain ⟨chunk, rest, rfl, hpos, hlength⟩ := hends
  have hposition : ScatterList.start chunks index + offset = _ := h.position_eq
  have hstart := ScatterList.start_add_one h.chunks_eq.symm
  dsimp only at hpos hlength hstart
  by_cases hfits : offset + layout.padding < bound32
  · exact .inl (Cursor.pad_of_lt hfits)
  · have hwide := Nat.le_of_not_lt hfits
    refine .inr ⟨Cursor.pad_eq_error.mpr ⟨hwide, rfl⟩, index, h.index_lt, ?_, ?_, ?_⟩
    · omega
    · omega
    · rw [position_add_one]
      omega

end FieldLayout

end VideoCapture
