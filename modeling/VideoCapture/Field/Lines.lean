import VideoCapture.Arithmetic
import VideoCapture.Field.Emission
import VideoCapture.Field.Layout
import VideoCapture.Scatter

/-!
# The instructions of a field

A line that fits into what is left of the current chunk is one `LINE_START`. A line that does not is
split: a `LINE_START` of data type 7 takes what is left of the chunk, and one `INLINE` per further
chunk takes the rest, each tagged with the number of bytes of the line already written. Behind each
line, the last included, the padding is added to the cursor's offset, which has 32 bits. Padding
that leads beyond them breaks the field off.

## Main definitions

* `VideoCapture.Cursor` — how far a scatter list has been used up.
* `VideoCapture.Cursor.seek` — passes over the chunks that lie before the cursor's offset.
* `VideoCapture.Cursor.pad` — moves the cursor on over the padding behind a line.
* `VideoCapture.Field.line`, `VideoCapture.Field.lines` — one line, and all lines.
* `VideoCapture.FieldLayout.emission` — the whole field.

## Main results

* `VideoCapture.FieldLayout.emissionOf_add` — a field can be transferred in two parts.
* `VideoCapture.FieldLayout.le_length_emissionOf` — each line takes an instruction at least.
-/

set_option autoImplicit false

namespace VideoCapture

/-- A place in a scatter list: the chunks from some index on, and an offset from the first of them,
which may lie beyond its end. -/
structure Cursor where
  /-- Index of the first chunk left. -/
  index : Nat
  /-- The chunks left. -/
  chunks : ScatterList
  /-- Bytes from the start of the first chunk left. -/
  offset : Nat

/-- A place inside a chunk. -/
structure Place where
  /-- Index of the chunk. -/
  index : Nat
  /-- The chunk. -/
  chunk : Chunk
  /-- The chunks behind it. -/
  rest : ScatterList
  /-- Offset in the chunk. -/
  offset : Nat

namespace Cursor

/-- The place `offset` bytes into the chunks, of which the first has index `index`. -/
def seekFrom (index : Nat) : ScatterList → (offset : Nat) → Except Fault Place
  | [], _ => .error (.scatterExhausted index)
  | chunk :: rest, offset =>
    if 0 < offset ∧ chunk.length ≤ offset then
      seekFrom (index + 1) rest (offset - chunk.length)
    else .ok ⟨index, chunk, rest, offset⟩

/-- The place a cursor points at. -/
def seek (cursor : Cursor) : Except Fault Place :=
  seekFrom cursor.index cursor.chunks cursor.offset

/-- The cursor moved on over `n` bytes. -/
def skip (cursor : Cursor) (n : Nat) : Cursor :=
  { cursor with offset := cursor.offset + n }

/-- The cursor moved on over `n` bytes of padding, if its offset still fits. -/
def pad (cursor : Cursor) (n : Nat) : Except Fault Cursor := do
  let _ ← bounded bound32 (cursor.offset + n)
  return cursor.skip n

variable {cursor next : Cursor} {n : Nat} {fault : Fault}

/-- Padding is passed over exactly if the offset fits behind it. -/
theorem pad_eq_ok :
    cursor.pad n = .ok next ↔ cursor.offset + n < bound32 ∧ cursor.skip n = next := by
  unfold pad bounded
  split <;> simp [bind, Except.bind, pure, Except.pure, *]

/-- Padding is passed over where the offset fits. -/
theorem pad_of_lt (h : cursor.offset + n < bound32) : cursor.pad n = .ok (cursor.skip n) :=
  pad_eq_ok.mpr ⟨h, rfl⟩

/-- Otherwise the offset is the fault. -/
theorem pad_eq_error :
    cursor.pad n = .error fault ↔ bound32 ≤ cursor.offset + n ∧ fault = .numberTooWide := by
  unfold pad bounded
  split
  · simp only [bind, Except.bind, pure, Except.pure, reduceCtorEq, false_iff, not_and]
    omega
  · simp only [bind, Except.bind, Except.error.injEq, eq_comm (a := fault), iff_and_self]
    omega

end Cursor

namespace Field

open Emission

/-- The start field of a line that fits into its chunk. -/
def startField (mode : LineOffset) (offset : Nat) : UInt16 :=
  match mode with
  | .omit => 0
  | .encode => UInt16.ofNat (offset % 4096)

/-- Transfers the rest of a split line, of which `done` bytes are written and `todo` are not, into
the chunks that follow. -/
def continueLine (index done todo : Nat) : ScatterList → Emission Cursor
  | [] => fail (.scatterExhausted index)
  | chunk :: rest =>
    if chunk.length < todo then do
      let address ← take (chunk.busAddress 0)
      emit { opcode := .inline, start := UInt16.ofNat done, count := UInt16.ofNat chunk.length,
             address }
      continueLine (index + 1) (done + chunk.length) (todo - chunk.length) rest
    else do
      let address ← take (chunk.busAddress 0)
      emit { opcode := .inline, start := UInt16.ofNat done, count := UInt16.ofNat todo, address }
      return ⟨index, chunk :: rest, todo⟩

/-- Transfers one line of `bytes` bytes from a cursor on, and leaves the cursor behind it. -/
def line (bytes : Nat) (mode : LineOffset) (cursor : Cursor) : Emission Cursor := do
  let place ← take cursor.seek
  let room := place.chunk.length - place.offset
  let address ← take (place.chunk.busAddress place.offset)
  if bytes ≤ room then
    emit { opcode := .lineStart, start := startField mode place.offset,
           count := UInt16.ofNat bytes, address }
    return ⟨place.index, place.chunk :: place.rest, place.offset + bytes⟩
  else
    emit { opcode := .lineStart, dataType := 7, count := UInt16.ofNat room, address }
    continueLine (place.index + 1) room (bytes - room) place.rest

/-- Whether line number `n` ends with an interrupt. -/
def interrupts (layout : FieldLayout) (n : Nat) : Bool :=
  0 < layout.linesPerInterrupt && 0 < n && n % layout.linesPerInterrupt == 0

/-- Transfers line number `n`, and flags its last instruction if it ends with an interrupt. -/
def numberedLine (layout : FieldLayout) (mode : LineOffset) (n : Nat) (cursor : Cursor) :
    Emission Cursor :=
  if interrupts layout n then flagLast (line layout.lineBytes mode cursor)
  else line layout.lineBytes mode cursor

/-- Transfers `count` lines, of which the first has number `n`, and moves on over the padding behind
each of them. -/
def lines (layout : FieldLayout) (mode : LineOffset) : (count n : Nat) → Cursor → Emission Cursor
  | 0, _, cursor => return cursor
  | count + 1, n, cursor => do
    let cursor ← numberedLine layout mode n cursor
    let cursor ← take (cursor.pad layout.padding)
    lines layout mode count (n + 1) cursor

/-! ## How much is emitted -/

/-- Flagging keeps the number of instructions. -/
theorem length_flagLastOf (l : List Instruction) : (flagLastOf l).length = l.length := by
  fun_induction flagLastOf l <;> simp_all

/-- A line emits at least one instruction, unless it breaks off. -/
theorem length_line_pos {bytes : Nat} {mode : LineOffset} {cursor next : Cursor}
    (h : (line bytes mode cursor).outcome = .ok next) :
    1 ≤ (line bytes mode cursor).instructions.length := by
  unfold line at h ⊢
  cases hs : cursor.seek with
  | error fault => simp [hs, take, error_bind] at h
  | ok place =>
    cases hb : place.chunk.busAddress place.offset with
    | error fault => simp [hs, hb, take, ok_bind, error_bind] at h
    | ok address =>
      simp only [hb, take, ok_bind, List.nil_append]
      split <;> simp [emit, ok_bind]

/-- A numbered line emits at least one instruction, unless it breaks off. -/
theorem length_numberedLine_pos {layout : FieldLayout} {mode : LineOffset} {n : Nat}
    {cursor next : Cursor} (h : (numberedLine layout mode n cursor).outcome = .ok next) :
    1 ≤ (numberedLine layout mode n cursor).instructions.length := by
  unfold numberedLine at h ⊢
  split at h
  · rw [if_pos ‹_›, flagLast, length_flagLastOf]
    exact length_line_pos h
  · rw [if_neg ‹_›]
    exact length_line_pos h

/-- The lines of a field one after the other: first some, then the others. -/
theorem lines_add (layout : FieldLayout) (mode : LineOffset) (a b n : Nat) (cursor : Cursor) :
    lines layout mode (a + b) n cursor =
      lines layout mode a n cursor >>= fun c => lines layout mode b (n + a) c := by
  induction a generalizing n cursor with
  | zero => rw [Nat.zero_add, lines, Emission.pure_bind, Nat.add_zero]
  | succ a ih =>
    rw [Nat.succ_add, lines, lines, Emission.bind_assoc]
    congr 1
    funext c
    rw [Emission.bind_assoc]
    congr 1
    funext next
    rw [ih, show n + 1 + a = n + (a + 1) by omega]

/-- As many instructions as lines are emitted at least, unless the field breaks off. -/
theorem le_length_lines {layout : FieldLayout} {mode : LineOffset} {count n : Nat}
    {cursor next : Cursor} (h : (lines layout mode count n cursor).outcome = .ok next) :
    count ≤ (lines layout mode count n cursor).instructions.length := by
  induction count generalizing n cursor with
  | zero => exact Nat.zero_le _
  | succ count ih =>
    rw [lines] at h ⊢
    cases hw : (numberedLine layout mode n cursor).outcome with
    | error fault => simp [bind, Emission.bind, hw] at h
    | ok c =>
      have hl := length_numberedLine_pos hw
      cases hp : c.pad layout.padding with
      | error fault => simp [bind, Emission.bind, hw, take, hp] at h
      | ok padded =>
        simp only [bind, Emission.bind, hw, take, hp, List.length_append] at h ⊢
        have := ih h
        omega

end Field

namespace FieldLayout

open Emission

/-- What comes before the lines of a field: its line length has to be encodable, and the field may
have to be waited for. -/
def preamble (layout : FieldLayout) : Emission Unit :=
  if layout.lineBytes = 0 ∨ Instruction.maxCount < layout.lineBytes then
    fail (.lineNotEncodable layout.lineBytes)
  else
    match layout.sync with
    | some parity => emit { opcode := parity.opcode }
    | none => return ()

/-- The instructions that transfer the first `count` lines of a field into the chunks of a buffer.
The answer is the cursor behind them. -/
def emissionOf (layout : FieldLayout) (chunks : ScatterList) (mode : LineOffset) (count : Nat) :
    Emission Cursor := do
  layout.preamble
  Field.lines layout mode count 0 ⟨0, chunks, layout.offset⟩

/-- The instructions that transfer a field into the chunks of a buffer. -/
def emission (layout : FieldLayout) (chunks : ScatterList) (mode : LineOffset) : Emission Cursor :=
  layout.emissionOf chunks mode layout.lines

/-- The lines of a field can be transferred in two parts. -/
theorem emissionOf_add (layout : FieldLayout) (chunks : ScatterList) (mode : LineOffset)
    (a b : Nat) :
    layout.emissionOf chunks mode (a + b) =
      layout.emissionOf chunks mode a >>= fun c => Field.lines layout mode b a c := by
  unfold emissionOf
  rw [Emission.bind_assoc]
  simp only [Field.lines_add, Nat.zero_add]

/-- As many instructions as lines are emitted at least, unless the field breaks off. -/
theorem le_length_emissionOf {layout : FieldLayout} {chunks : ScatterList} {mode : LineOffset}
    {count : Nat} {next : Cursor} (h : (layout.emissionOf chunks mode count).outcome = .ok next) :
    count ≤ (layout.emissionOf chunks mode count).instructions.length := by
  unfold emissionOf at h ⊢
  cases hp : layout.preamble.outcome with
  | error fault => simp [bind, Emission.bind, hp] at h
  | ok u =>
    simp only [bind, Emission.bind, hp, List.length_append] at h ⊢
    have := Field.le_length_lines h
    omega

end FieldLayout

end VideoCapture
