import VideoCapture.Field.Lines
import VideoCapture.Proofs.Instruction.Codec
import VideoCapture.Proofs.Outcome
import Mathlib.Data.List.Basic

/-!
# What the instructions of a field write

An instruction that transfers data writes the bytes from its address on, as many as its count says.
A buffer is a sequence of bytes, whatever chunks its memory consists of, and the instructions of a
line write the bytes of the buffer from the place of the line on, one after the other and no others,
however often the line is split.

## Main definitions

* `VideoCapture.Instruction.writes` — the bus addresses that an instruction writes.
* `VideoCapture.ScatterList.addresses`, `VideoCapture.Cursor.left` — the bus addresses of a buffer,
  and of what is left of it at a cursor.
* `VideoCapture.Field.Transfers` — instructions write the next bytes of a buffer.
* `VideoCapture.FieldLayout.offsets` — the bytes of a buffer that belong to a field.

## Main results

* `VideoCapture.Field.transfers_line` — a line writes the next bytes of the buffer.
* `VideoCapture.FieldLayout.writes_of_emission` — a field writes the bytes that belong to it.
-/

set_option autoImplicit false

namespace VideoCapture

/-! ## Addresses -/

/-- The bus addresses of the bytes that an instruction writes, in order. -/
def Instruction.writes (i : Instruction) : List Nat :=
  match i.opcode with
  | .lineStart | .inline => List.range' i.address.toNat i.count.toNat
  | .syncOdd | .syncEven | .jump => []

/-- The bus addresses of the bytes of a buffer, in buffer order. -/
def ScatterList.addresses (chunks : ScatterList) : List Nat :=
  chunks.flatMap fun chunk => List.range' chunk.address chunk.length

/-- The bus addresses of the bytes of a buffer from a cursor on. -/
def Cursor.left (cursor : Cursor) : List Nat :=
  (ScatterList.addresses cursor.chunks).drop cursor.offset

/-- The bytes of a buffer that belong to a field, line by line. -/
def FieldLayout.offsets (layout : FieldLayout) : List Nat :=
  (List.range layout.lines).flatMap fun k =>
    List.range' (layout.offset + k * (layout.lineBytes + layout.padding)) layout.lineBytes

/-- A bus address is the sum that it is made from. -/
lemma Chunk.toNat_of_busAddress {chunk : Chunk} {offset : Nat} {address : UInt32}
    (h : chunk.busAddress offset = .ok address) : address.toNat = chunk.address + offset := by
  unfold busAddress at h
  split at h
  · next hlt =>
    obtain rfl := Except.ok.inj h
    exact UInt32.toNat_ofNat_of_lt' (by simpa [UInt32.size] using hlt)
  · cases h

namespace Cursor

variable {index offset : Nat} {chunk : Chunk} {chunks : ScatterList}

/-- What is left of a chunk comes before the chunks behind it. -/
lemma left_cons (index : Nat) (chunks : ScatterList) (h : offset ≤ chunk.length) :
    (⟨index, chunk :: chunks, offset⟩ : Cursor).left =
      List.range' (chunk.address + offset) (chunk.length - offset) ++
        ScatterList.addresses chunks := by
  simp only [left, ScatterList.addresses, List.flatMap_cons]
  rw [List.drop_append_of_le_length (by rw [List.length_range']; exact h), List.drop_range',
    Nat.mul_one]

/-- Moving on passes over bytes. -/
lemma left_skip (cursor : Cursor) (n : Nat) : (cursor.skip n).left = cursor.left.drop n := by
  simp only [left, skip, List.drop_drop]

/-- Seeking finds the chunk of the first byte left, and leaves the bytes as they are.

**Proof sketch.** Along the chunks. A chunk that is passed over ends before the offset does, so its
bytes are all among those that the cursor drops. -/
lemma seekFrom_eq_ok {place : Place} (h : seekFrom index chunks offset = .ok place) :
    place.offset ≤ place.chunk.length ∧
      (⟨index, chunks, offset⟩ : Cursor).left =
        (⟨place.index, place.chunk :: place.rest, place.offset⟩ : Cursor).left := by
  induction chunks generalizing index offset with
  | nil => cases h
  | cons chunk chunks ih =>
    unfold seekFrom at h
    split at h
    · next hpast =>
      obtain ⟨hle, hleft⟩ := ih h
      refine ⟨hle, Eq.trans ?_ hleft⟩
      -- the bytes of the chunk passed over are among those dropped
      have hdrop : List.drop offset (List.range' chunk.address chunk.length) = [] := by
        rw [List.drop_eq_nil_iff, List.length_range']
        exact hpast.2
      simp only [left, ScatterList.addresses, List.flatMap_cons]
      rw [List.drop_append, hdrop, List.length_range', List.nil_append]
    · next hinside =>
      obtain rfl := Except.ok.inj h
      refine ⟨?_, rfl⟩
      dsimp only
      omega

end Cursor

/-! ## Emissions -/

namespace Emission

variable {α β : Type} {l : List Instruction}

/-- An emission that goes on succeeds if its first part does, and then the rest. -/
lemma bind_eq_mk {m : Emission α} {next : α → Emission β} {b : β} :
    (m >>= next) = ⟨l, .ok b⟩ ↔
      ∃ l₁ a l₂, m = ⟨l₁, .ok a⟩ ∧ next a = ⟨l₂, .ok b⟩ ∧ l = l₁ ++ l₂ := by
  obtain ⟨l₁, fault | a⟩ := m
  · simp [error_bind]
  · rw [ok_bind]
    constructor
    · intro h
      obtain ⟨rfl, hout⟩ := Emission.mk.inj h
      exact ⟨l₁, a, _, rfl, by rw [← hout], rfl⟩
    · rintro ⟨_, _, l₂, hm, hnext, rfl⟩
      obtain ⟨rfl, ha⟩ := Emission.mk.inj hm
      obtain rfl := Except.ok.inj ha
      rw [hnext]

/-- One instruction is emitted, and that always ends well. -/
lemma emit_eq_mk {i : Instruction} {u : Unit} : emit i = ⟨l, .ok u⟩ ↔ l = [i] := by
  simp [emit, eq_comm]

/-- What is taken from elsewhere emits nothing and ends as it did there. -/
lemma take_eq_mk {value : Except Fault α} {a : α} :
    take value = ⟨l, .ok a⟩ ↔ l = [] ∧ value = .ok a := by
  simp [take, eq_comm]

/-- A value on its own emits nothing and ends with itself. -/
lemma pure_eq_mk {a b : α} : (pure a : Emission α) = ⟨l, .ok b⟩ ↔ l = [] ∧ a = b := by
  show (⟨[], .ok a⟩ : Emission α) = _ ↔ _
  simp [eq_comm]

/-- What a flag does not show in, it does not show in once the last instruction is flagged. -/
lemma map_flagLastOf {f : Instruction → β} (hflagged : ∀ i, f i.flagged = f i)
    (l : List Instruction) : (flagLastOf l).map f = l.map f := by
  fun_induction flagLastOf l with
  | case1 => rfl
  | case2 i => rw [List.map_singleton, List.map_singleton, hflagged]
  | case3 i j rest ih => rw [List.map_cons, ih, ← List.map_cons]

/-- The flag is put on the last instruction, and the others are left as they are. -/
lemma getElem?_flagLastOf (l : List Instruction) (k : Nat) :
    (flagLastOf l)[k]? = l[k]?.map fun i => if k + 1 = l.length then i.flagged else i := by
  fun_induction flagLastOf l generalizing k with
  | case1 => rfl
  | case2 i => cases k <;> simp
  | case3 i j rest ih =>
    cases k with
    | zero => simp
    | succ k => simp [ih]

/-- Flags do not show in what is written. -/
lemma writes_flagLastOf (l : List Instruction) :
    (flagLastOf l).flatMap Instruction.writes = l.flatMap Instruction.writes := by
  rw [List.flatMap_def, List.flatMap_def, map_flagLastOf fun _ => rfl]

/-- What holds of instructions, flagged or not, holds of them once the last is flagged. -/
lemma forall_mem_flagLastOf {P : Instruction → Prop} {l : List Instruction}
    (hflagged : ∀ i, P i → P i.flagged) (h : ∀ i ∈ l, P i) : ∀ i ∈ flagLastOf l, P i := by
  fun_induction flagLastOf l with
  | case1 => exact h
  | case2 i =>
    have hi := h i List.mem_cons_self
    exact List.forall_mem_singleton.mpr (hflagged i hi)
  | case3 i j rest ih =>
    obtain ⟨hi, hrest⟩ := List.forall_mem_cons.mp h
    exact List.forall_mem_cons.mpr ⟨hi, ih hrest⟩

/-- A flagged instruction fits if it did before. -/
lemma fits_flagLastOf {l : List Instruction} (h : ∀ i ∈ l, i.Fits) :
    ∀ i ∈ flagLastOf l, i.Fits :=
  forall_mem_flagLastOf (fun _ hi => ⟨hi.dataType, hi.start, hi.count⟩) h

end Emission

/-! ## Lines -/

namespace Field

open Emission

/-- Instructions write the next bytes of a buffer, from a cursor on, and take it to the next. -/
structure Transfers (cursor : Cursor) (bytes : Nat) (l : List Instruction) (next : Cursor) :
    Prop where
  /-- They write as many bytes as they should. -/
  writes : l.flatMap Instruction.writes = cursor.left.take bytes
  /-- There are as many left. -/
  enough : bytes ≤ cursor.left.length
  /-- Those behind them are left next. -/
  next : next.left = cursor.left.drop bytes
  /-- The instructions can be encoded. -/
  fits : ∀ i ∈ l, i.Fits

variable {l l' : List Instruction} {cursor middle next : Cursor} {mode : LineOffset}
  {index offset n m : Nat} {chunk : Chunk} {chunks : ScatterList}

/-- Transfers can be made one after the other. -/
lemma Transfers.trans (h : Transfers cursor n l middle) (h' : Transfers middle m l' next) :
    Transfers cursor (n + m) (l ++ l') next where
  writes := by
    rw [List.flatMap_append, h.writes, h'.writes, h.next, ← List.take_add]
  enough := by
    have hn := h.enough
    have hm := h'.enough
    rw [h.next, List.length_drop] at hm
    omega
  next := by rw [h'.next, h.next, List.drop_drop]
  fits := List.forall_mem_append.mpr ⟨h.fits, h'.fits⟩

/-- Of the places around a transfer only the bytes left there matter. -/
lemma Transfers.congr {cursor' next' : Cursor} (h : Transfers cursor n l next)
    (hcursor : cursor'.left = cursor.left) (hnext : next'.left = next.left) :
    Transfers cursor' n l next' :=
  ⟨by rw [hcursor, h.writes], by rw [hcursor]; exact h.enough, by rw [hcursor, hnext, h.next],
    h.fits⟩

/-- An instruction that transfers bytes of a single chunk. -/
lemma transfers_chunk {i : Instruction} (hoffset : offset ≤ chunk.length)
    (hroom : n ≤ chunk.length - offset) (hn : n < 4096)
    (hopcode : i.opcode = .lineStart ∨ i.opcode = .inline) (hcount : i.count = UInt16.ofNat n)
    (haddress : chunk.busAddress offset = .ok i.address) (htype : i.dataType.toNat < 8)
    (hstart : i.start.toNat < 4096) :
    Transfers ⟨index, chunk :: chunks, offset⟩ n [i] ⟨index, chunk :: chunks, offset + n⟩ := by
  have hleft := Cursor.left_cons index chunks hoffset
  have htoNat : i.count.toNat = n := by
    rw [hcount]
    exact UInt16.toNat_ofNat_of_lt' (by simp only [UInt16.size]; omega)
  have hwrites : i.writes = List.range' (chunk.address + offset) n := by
    rw [← Chunk.toNat_of_busAddress haddress, ← htoNat]
    obtain hop | hop := hopcode <;> rw [Instruction.writes, hop]
  refine ⟨?_, ?_, Cursor.left_skip ⟨index, chunk :: chunks, offset⟩ n, fun j hj => ?_⟩
  · rw [hleft, List.take_append_of_le_length (by rw [List.length_range']; exact hroom),
      List.take_range'_of_length_ge hroom, List.flatMap_singleton, hwrites]
  · rw [hleft, List.length_append, List.length_range']
    omega
  · obtain rfl := List.mem_singleton.mp hj
    exact ⟨htype, hstart, by omega⟩

/-- Behind the last byte of a chunk comes the first of the next. -/
lemma left_length (index index' : Nat) (chunk : Chunk) (chunks : ScatterList) :
    (⟨index', chunks, 0⟩ : Cursor).left =
      (⟨index, chunk :: chunks, chunk.length⟩ : Cursor).left := by
  rw [Cursor.left_cons _ _ (Nat.le_refl _), Nat.sub_self]
  rfl

/-- A line that was split goes on at the start of a chunk. -/
lemma transfers_inline {done : Nat} {address : UInt32} (hroom : n ≤ chunk.length)
    (hn : done + n < 4096) (haddress : chunk.busAddress 0 = .ok address) :
    Transfers ⟨index, chunk :: chunks, 0⟩ n
      [{ opcode := .inline, start := UInt16.ofNat done, count := UInt16.ofNat n, address }]
      ⟨index, chunk :: chunks, n⟩ := by
  have hstart : (UInt16.ofNat done).toNat < 4096 := Nat.lt_of_le_of_lt (Nat.mod_le _ _) (by omega)
  have hchunk : Transfers ⟨index, chunk :: chunks, 0⟩ n
      [{ opcode := .inline, start := UInt16.ofNat done, count := UInt16.ofNat n, address }]
      ⟨index, chunk :: chunks, 0 + n⟩ :=
    transfers_chunk (Nat.zero_le _) hroom (by omega) (.inr rfl) rfl haddress
      (show (0 : UInt8).toNat < 8 by decide) hstart
  rwa [Nat.zero_add] at hchunk

/-- **The rest of a split line is written to the chunks that follow.**

**Proof sketch.** Induction on the chunks. A chunk that is too short is written from its first byte
to its last, and the rest of the line goes on behind it. -/
theorem transfers_continueLine {done todo : Nat} (hbytes : done + todo < 4096)
    (h : continueLine index done todo chunks = ⟨l, .ok next⟩) :
    Transfers ⟨index, chunks, 0⟩ todo l next := by
  induction chunks generalizing index done todo l with
  | nil => cases h
  | cons chunk chunks ih =>
    unfold continueLine at h
    split at h
    · next hshort =>
      simp only [bind_eq_mk, take_eq_mk, emit_eq_mk] at h
      obtain ⟨_, address, _, ⟨rfl, haddress⟩, ⟨_, _, l₂, rfl, hrest, rfl⟩, rfl⟩ := h
      have hwhole : Transfers ⟨index, chunk :: chunks, 0⟩ chunk.length
          [{ opcode := .inline, start := UInt16.ofNat done, count := UInt16.ofNat chunk.length,
             address }]
          ⟨index, chunk :: chunks, chunk.length⟩ :=
        transfers_inline (Nat.le_refl _) (by omega) haddress
      have hall := (hwhole.congr rfl (left_length index (index + 1) chunk chunks)).trans
        (ih (by omega) hrest)
      rwa [Nat.add_sub_of_le (Nat.le_of_lt hshort)] at hall
    · next hlong =>
      simp only [bind_eq_mk, take_eq_mk, emit_eq_mk, pure_eq_mk] at h
      obtain ⟨_, address, _, ⟨rfl, haddress⟩, ⟨_, _, _, rfl, ⟨rfl, rfl⟩, rfl⟩, rfl⟩ := h
      exact transfers_inline (by omega) hbytes haddress

/-- **A line writes the next bytes of the buffer**, split or not.

**Proof sketch.** One instruction transfers what lies in the first chunk. If that is not all of the
line, the rest of the chunk is transferred first and the rest of the line behind it, and the two
transfers make one. -/
theorem transfers_line {bytes : Nat} (hbytes : bytes < 4096)
    (h : line bytes mode cursor = ⟨l, .ok next⟩) : Transfers cursor bytes l next := by
  simp only [line, bind_eq_mk, take_eq_mk] at h
  obtain ⟨_, place, _, ⟨rfl, hseek⟩, ⟨_, address, _, ⟨rfl, haddress⟩, h, rfl⟩, rfl⟩ := h
  obtain ⟨hoffset, hleft⟩ := Cursor.seekFrom_eq_ok hseek
  by_cases hfits : bytes ≤ place.chunk.length - place.offset
  · rw [if_pos hfits] at h
    simp only [bind_eq_mk, emit_eq_mk, pure_eq_mk] at h
    obtain ⟨_, _, _, rfl, ⟨rfl, rfl⟩, rfl⟩ := h
    have hstart : (startField mode place.offset).toNat < 4096 := by
      rcases mode with _ | _
      · exact Nat.succ_pos _
      · exact Nat.lt_of_le_of_lt (Nat.mod_le _ _) (Nat.mod_lt _ (by decide))
    refine Transfers.congr (transfers_chunk hoffset hfits hbytes ?_ ?_ ?_ ?_ ?_) hleft rfl
    · exact .inl rfl
    · rfl
    · exact haddress
    · exact (show (0 : UInt8).toNat < 8 by decide)
    · exact hstart
  · rw [if_neg hfits] at h
    simp only [bind_eq_mk, emit_eq_mk] at h
    obtain ⟨_, _, l₂, rfl, hrest, rfl⟩ := h
    have hfirst : Transfers ⟨place.index, place.chunk :: place.rest, place.offset⟩
        (place.chunk.length - place.offset)
        [{ opcode := .lineStart, dataType := 7,
           count := UInt16.ofNat (place.chunk.length - place.offset), address }]
        ⟨place.index, place.chunk :: place.rest,
          place.offset + (place.chunk.length - place.offset)⟩ :=
      transfers_chunk hoffset (Nat.le_refl _) (by omega) (.inl rfl) rfl haddress
        (show (7 : UInt8).toNat < 8 by decide) (show (0 : UInt16).toNat < 4096 by decide)
    rw [Nat.add_sub_of_le hoffset] at hfirst
    have hall := (hfirst.congr hleft (left_length place.index (place.index + 1) _ _)).trans
      (transfers_continueLine (by omega) hrest)
    rwa [Nat.add_sub_of_le (by omega)] at hall

/-- Whether a line ends with an interrupt does not show in what it writes. -/
lemma transfers_numberedLine {layout : FieldLayout} {number : Nat}
    (hbytes : layout.lineBytes < 4096)
    (h : numberedLine layout mode number cursor = ⟨l, .ok next⟩) :
    Transfers cursor layout.lineBytes l next := by
  unfold numberedLine at h
  split at h
  · obtain ⟨hl, hout⟩ := Emission.mk.inj h
    have hline : line layout.lineBytes mode cursor =
        ⟨(line layout.lineBytes mode cursor).instructions, .ok next⟩ := by
      rw [← hout]
    obtain ⟨hwrites, henough, hnext, hfits⟩ := transfers_line hbytes hline
    rw [← hl]
    exact ⟨(writes_flagLastOf _).trans hwrites, henough, hnext, fits_flagLastOf hfits⟩
  · exact transfers_line hbytes h

/-- Lines that are transferred are the first of them, and the others from behind its padding on. -/
lemma exists_of_lines_eq_mk {layout : FieldLayout} {count number : Nat}
    (h : lines layout mode (count + 1) number cursor = ⟨l, .ok next⟩) :
    ∃ l₁ middle l₂, numberedLine layout mode number cursor = ⟨l₁, .ok middle⟩ ∧
      lines layout mode count (number + 1) (middle.skip layout.padding) = ⟨l₂, .ok next⟩ ∧
      l = l₁ ++ l₂ := by
  simp only [lines, bind_eq_mk, take_eq_mk] at h
  obtain ⟨l₁, middle, l₂, hline, ⟨_, padded, _, ⟨rfl, hpad⟩, hrest, rfl⟩, rfl⟩ := h
  obtain ⟨-, rfl⟩ := Cursor.pad_eq_ok.mp hpad
  exact ⟨l₁, middle, l₂, hline, hrest, rfl⟩

/-- Lines write every so many bytes of a buffer, one line after the other.

**Proof sketch.** Induction on the number of lines. The first line takes the cursor to its end, and
what is skipped behind it to the start of the next. -/
theorem writes_of_lines {layout : FieldLayout} {count number : Nat}
    (hpos : 0 < layout.lineBytes) (hbytes : layout.lineBytes < 4096)
    (h : lines layout mode count number cursor = ⟨l, .ok next⟩) :
    let stride := layout.lineBytes + layout.padding
    l.flatMap Instruction.writes = (List.range count).flatMap (fun k =>
        (cursor.left.drop (k * stride)).take layout.lineBytes) ∧
      (∀ k < count, k * stride + layout.lineBytes ≤ cursor.left.length) ∧ ∀ i ∈ l, i.Fits := by
  dsimp only
  induction count generalizing number cursor l with
  | zero =>
    obtain ⟨rfl, -⟩ := pure_eq_mk.mp h
    exact ⟨rfl, by simp, by simp⟩
  | succ count ih =>
    obtain ⟨l₁, middle, l₂, hline, hrest, rfl⟩ := exists_of_lines_eq_mk h
    have hfirst := transfers_numberedLine hbytes hline
    obtain ⟨hwrites, henough, hfits⟩ := ih hrest
    have hleft : (middle.skip layout.padding).left =
        cursor.left.drop (layout.lineBytes + layout.padding) := by
      rw [Cursor.left_skip, hfirst.next, List.drop_drop]
    rw [hleft] at hwrites henough
    refine ⟨?_, fun k hk => ?_, List.forall_mem_append.mpr ⟨hfirst.fits, hfits⟩⟩
    · rw [List.flatMap_append, hfirst.writes, hwrites, List.range_succ_eq_map, List.flatMap_cons,
        List.flatMap_map, Nat.zero_mul, List.drop_zero]
      congr 2
      funext k
      rw [List.drop_drop, Nat.succ_mul, Nat.add_comm]
    · have hone := hfirst.enough
      rcases k with _ | k
      · omega
      · have hlater := henough k (by omega)
        rw [List.length_drop] at hlater
        rw [Nat.succ_mul]
        omega

end Field

namespace FieldLayout

open Emission

variable {layout : FieldLayout} {chunks : ScatterList} {mode : LineOffset} {l : List Instruction}
  {next : Cursor}

/-- A slice of a list consists of what stands at its places. -/
lemma map_some_take_drop {α : Type} {a : List α} {start n : Nat} (h : start + n ≤ a.length) :
    ((a.drop start).take n).map some = (List.range' start n).map (a[·]?) := by
  apply List.ext_getElem?
  intro k
  rw [List.getElem?_map, List.getElem?_map, List.getElem?_take]
  by_cases hk : k < n
  · rw [if_pos hk, List.getElem?_drop, List.getElem?_range' hk, List.getElem?_eq_getElem (by omega)]
    simp only [Option.map_some, Nat.one_mul]
    rw [List.getElem?_eq_getElem (by omega)]
  · rw [if_neg hk]
    simp [Nat.le_of_not_lt hk]

/-- What comes before the lines writes nothing, and lines can be encoded. -/
lemma preamble_eq_mk {u : Unit} (h : layout.preamble = ⟨l, .ok u⟩) :
    0 < layout.lineBytes ∧ layout.lineBytes < 4096 ∧ l.flatMap Instruction.writes = [] ∧
      ∀ i ∈ l, i.Fits := by
  unfold preamble at h
  split at h
  · cases h
  · next hencodable =>
    have hbounds : 0 < layout.lineBytes ∧ layout.lineBytes < 4096 := by
      simp only [Instruction.maxCount] at hencodable
      omega
    refine ⟨hbounds.1, hbounds.2, ?_⟩
    split at h
    · next parity _ =>
      obtain rfl := emit_eq_mk.mp h
      refine ⟨by cases parity <;> rfl, fun i hi => ?_⟩
      obtain rfl := List.mem_singleton.mp hi
      exact ⟨by simp, by simp, by simp⟩
    · obtain ⟨rfl, -⟩ := pure_eq_mk.mp h
      exact ⟨rfl, by simp⟩

/-- **A field writes the bytes that belong to it**, in their order. -/
theorem writes_of_emission (h : layout.emission chunks mode = ⟨l, .ok next⟩) :
    0 < layout.lineBytes ∧
      (l.flatMap Instruction.writes).map some =
        layout.offsets.map ((ScatterList.addresses chunks)[·]?) ∧ ∀ i ∈ l, i.Fits := by
  simp only [emission, emissionOf, bind_eq_mk] at h
  obtain ⟨l₁, u, l₂, hpreamble, hlines, rfl⟩ := h
  obtain ⟨hpos, hbytes, hnothing, hfits₁⟩ := preamble_eq_mk hpreamble
  obtain ⟨hwrites, henough, hfits₂⟩ := Field.writes_of_lines hpos hbytes hlines
  dsimp only [Cursor.left] at hwrites henough
  refine ⟨hpos, ?_, List.forall_mem_append.mpr ⟨hfits₁, hfits₂⟩⟩
  rw [List.flatMap_append, hnothing, List.nil_append, hwrites, offsets, List.map_flatMap,
    List.map_flatMap]
  refine List.flatMap_congr fun k hk => ?_
  have hk := henough k (List.mem_range.mp hk)
  rw [List.length_drop] at hk
  rw [List.drop_drop]
  exact map_some_take_drop (by omega)

end FieldLayout

end VideoCapture
