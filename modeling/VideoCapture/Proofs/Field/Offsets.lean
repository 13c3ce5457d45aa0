import VideoCapture.Proofs.Field.Drafting
import VideoCapture.Proofs.Field.Pieces

/-!
# Lines that tell their offset

A field can be written with or without the offsets of its lines. Of two runs that write it in the
one way and the other, each does what the other does, line by line and chunk by chunk, since where
the cursor goes does not depend on what is written. So they end in the same way, after as many
instructions, and nothing but start offsets can differ. Which of these do can be told from the
chunks: those of the lines that lie in one chunk, and no others. The offset is reduced to the twelve
bits there are for it and or-ed to the word, and it leaves the other bits of the word alone even if
the chunk is longer than 4096 bytes.

## Main definitions

* `VideoCapture.Instruction.unplaced` — an instruction without its start offset.
* `VideoCapture.Emission.Alike` — two emissions that differ in start offsets at most.
* `VideoCapture.Instruction.Reports` — an instruction and the same with an offset told.
* `VideoCapture.FieldLayout.FitsAt` — a line lies in one chunk.

## Main results

* `VideoCapture.FieldLayout.alike_emission` — both ways of writing a field emit the same but for
  start offsets.
* `VideoCapture.FieldLayout.reports_of_fitsAt`, `VideoCapture.FieldLayout.lineInstructions_congr` —
  in which lines the two differ.
* `VideoCapture.Region.field_offsets` — what is written in either way.
-/

set_option autoImplicit false

namespace VideoCapture

/-! ## Two runs -/

/-- The instruction without its start offset. -/
def Instruction.unplaced (i : Instruction) : Instruction :=
  { i with start := 0 }

namespace Emission

variable {α β : Type}

/-- Two emissions end in the same way, and emit the same but for start offsets. -/
structure Alike (m m' : Emission α) : Prop where
  /-- They have the same value or the same fault. -/
  outcome : m.outcome = m'.outcome
  /-- Without start offsets their instructions are the same. -/
  instructions :
    m.instructions.map Instruction.unplaced = m'.instructions.map Instruction.unplaced

/-- An emission is like itself. -/
lemma Alike.refl (m : Emission α) : Alike m m :=
  ⟨rfl, rfl⟩

/-- Emissions that go on alike from the same value are alike as a whole. -/
lemma Alike.bind {m m' : Emission α} {f f' : α → Emission β} (h : Alike m m')
    (hnext : ∀ a, Alike (f a) (f' a)) : Alike (m >>= f) (m' >>= f') := by
  obtain ⟨l, outcome⟩ := m
  obtain ⟨l', outcome'⟩ := m'
  obtain ⟨houtcome, hinstructions⟩ := h
  dsimp only at houtcome hinstructions
  subst houtcome
  cases outcome with
  | error fault => exact ⟨rfl, hinstructions⟩
  | ok a =>
    refine ⟨(hnext a).outcome, ?_⟩
    rw [ok_bind, ok_bind, List.map_append, List.map_append, hinstructions, (hnext a).instructions]

/-- Start offsets and flags do not concern each other. -/
lemma unplaced_flagLastOf (l : List Instruction) :
    (flagLastOf l).map Instruction.unplaced = flagLastOf (l.map Instruction.unplaced) := by
  fun_induction flagLastOf l with
  | case1 => rfl
  | case2 i => rfl
  | case3 i j rest ih => rw [List.map_cons, ih]; rfl

/-- Emissions stay alike when their last instructions are flagged. -/
lemma Alike.flagLast {m m' : Emission α} (h : Alike m m') :
    Alike (Emission.flagLast m) (Emission.flagLast m') where
  outcome := h.outcome
  instructions := by
    simp only [Emission.flagLast]
    rw [unplaced_flagLastOf, unplaced_flagLastOf, h.instructions]

end Emission

namespace Field

open Emission

variable {layout : FieldLayout} (mode mode' : LineOffset)

/-- A line is written alike in either way. -/
lemma alike_line (bytes : Nat) (cursor : Cursor) :
    Alike (line bytes mode cursor) (line bytes mode' cursor) := by
  refine (Alike.refl _).bind fun place => (Alike.refl _).bind fun address => ?_
  split
  · exact Alike.bind ⟨rfl, rfl⟩ fun _ => Alike.refl _
  · exact Alike.refl _

/-- A line is emitted in the same way in both modes, but for start offsets, with its interrupt if it
has one. -/
lemma alike_numberedLine (n : Nat) (cursor : Cursor) :
    Alike (numberedLine layout mode n cursor) (numberedLine layout mode' n cursor) := by
  unfold numberedLine
  split
  · exact (alike_line mode mode' _ cursor).flagLast
  · exact alike_line mode mode' _ cursor

/-- So are lines one after the other, as each leaves the same cursor in either way.

**Proof sketch.** On the number of lines (`alike_numberedLine`). -/
lemma alike_lines (count n : Nat) (cursor : Cursor) :
    Alike (lines layout mode count n cursor) (lines layout mode' count n cursor) := by
  induction count generalizing n cursor with
  | zero => exact Alike.refl _
  | succ count ih =>
    exact (alike_numberedLine mode mode' n cursor).bind fun _ => (Alike.refl _).bind fun _ => ih _ _

end Field

/-- **Both ways of writing a field emit the same but for start offsets**, and end in the same
way. -/
theorem FieldLayout.alike_emission (layout : FieldLayout) (chunks : ScatterList)
    (mode mode' : LineOffset) :
    (layout.emission chunks mode).Alike (layout.emission chunks mode') :=
  (Emission.Alike.refl _).bind fun _ => Field.alike_lines mode mode' _ _ _

/-! ## Offsets that are told -/

namespace Instruction

variable {i j : Instruction} {offset : Nat}

/-- The second of two instructions tells the offset of a line, reduced to the bits there are for it,
and the first tells none. They are the same otherwise. -/
structure Reports (offset : Nat) (i j : Instruction) : Prop where
  /-- A line begins. -/
  opcode : i.opcode = .lineStart
  /-- Nothing is told. -/
  start : i.start = 0
  /-- The offset is told. -/
  told : j = { i with start := UInt16.ofNat (offset % 4096) }

/-- **The offset is or-ed to the first word**, and touches none of the other bits there.

**Proof sketch.** The two words have the same opcode, flag, data type and count, and the first has
zeros in the twelve bits of the start. So the second is the sum of the first and of the offset in
those bits, and a sum of numbers that share no bit is what they are or-ed to
(`Nat.two_pow_add_eq_or_of_lt`). -/
theorem Reports.control_eq (h : Reports offset i j) :
    j.control = i.control ||| UInt32.ofNat (offset % 4096) <<< 12 := by
  obtain ⟨-, hstart, rfl⟩ := h
  let high := 16 * i.opcode.code + 8 * i.irq.toNat + i.dataType.toNat % 8
  let told := offset % 4096
  let count := i.count.toNat % 4096
  have htold : told < 2 ^ 12 := Nat.mod_lt _ (by decide)
  have hcount : count < 2 ^ 12 := Nat.mod_lt _ (by decide)
  have hword : i.control.toNat = 2 ^ 24 * high + count := by
    rw [toNat_control, hstart]
    simp only [high, count, UInt16.toNat_zero, Nat.zero_mod]
    omega
  have hshift : (UInt32.ofNat told <<< 12).toNat = 2 ^ 12 * told :=
    toNat_ofNat_shiftLeft (k := 12) (by decide) (by omega)
  refine UInt32.toNat_inj.mp ?_
  calc _ = 2 ^ 24 * high + (2 ^ 12 * told + count) := by
        rw [toNat_control, UInt16.toNat_ofNat_of_lt' (by simp only [UInt16.size]; omega)]
        simp only [high, told, count]
        omega
    _ = 2 ^ 24 * high ||| (2 ^ 12 * told ||| count) := by
        rw [Nat.two_pow_add_eq_or_of_lt (by omega), Nat.two_pow_add_eq_or_of_lt hcount]
    _ = (2 ^ 24 * high ||| count) ||| 2 ^ 12 * told := by
        rw [Nat.or_comm (2 ^ 12 * told), Nat.or_assoc]
    _ = (i.control ||| UInt32.ofNat told <<< 12).toNat := by
        rw [UInt32.toNat_or, hshift, hword, Nat.two_pow_add_eq_or_of_lt (by omega)]

end Instruction

namespace ScatterList

variable {chunks : ScatterList} {base : Nat} {place : Nat × Chunk}

/-- A chunk that is located has some chunks of the list in front of it. -/
lemma exists_of_mem_located (h : place ∈ located base chunks) :
    ∃ before behind, chunks = before ++ place.2 :: behind ∧ place.1 = base + size before := by
  induction chunks generalizing base with
  | nil => cases h
  | cons chunk rest ih =>
    obtain rfl | hrest := List.mem_cons.mp h
    · exact ⟨[], rest, rfl, rfl⟩
    · obtain ⟨before, behind, hrest, hplace⟩ := ih hrest
      refine ⟨chunk :: before, behind, by rw [hrest, List.cons_append], ?_⟩
      rw [hplace, size_cons, Nat.add_assoc]

/-- Bytes that lie in one chunk are one piece. -/
lemma pieces_of_mem_located {first bytes offset : Nat} (h : place ∈ located base chunks)
    (hoffset : place.1 + offset = first) (hfits : offset + bytes ≤ place.2.length)
    (hbytes : 0 < bytes) :
    pieces base chunks first (first + bytes) = [⟨place.2, offset, bytes, 0⟩] := by
  obtain ⟨before, behind, rfl, hplace⟩ := exists_of_mem_located h
  have hpiece : Piece.common? first (first + bytes) (base + size before, place.2) =
      some ⟨place.2, offset, bytes, 0⟩ := by
    rw [Piece.common?, if_pos (by omega)]
    congr 2 <;> omega
  have hbefore : pieces base before first (first + bytes) = [] := pieces_eq_nil (.inl (by omega))
  have hbehind : pieces (base + size before + place.2.length) behind first (first + bytes) = [] :=
    pieces_eq_nil (.inr (by omega))
  have hhere : pieces (base + size before) (place.2 :: behind) first (first + bytes) =
      [⟨place.2, offset, bytes, 0⟩] := by
    rw [pieces_cons_of_some hpiece, hbehind]
  unfold pieces at hbefore hhere ⊢
  rw [located_append, List.filterMap_append, hbefore, hhere, List.nil_append]

end ScatterList

namespace FieldLayout

open Emission VideoCapture.Field

variable {layout : FieldLayout} {chunks : ScatterList} {n offset : Nat}

/-- Line number `n` of a field lies in one chunk, and begins there `offset` bytes from its start. -/
def FitsAt (layout : FieldLayout) (chunks : ScatterList) (n offset : Nat) : Prop :=
  ∃ place ∈ ScatterList.located 0 chunks, place.1 + offset = layout.position n ∧
    offset + layout.lineBytes ≤ place.2.length

instance (layout : FieldLayout) (chunks : ScatterList) (n offset : Nat) :
    Decidable (layout.FitsAt chunks n offset) :=
  inferInstanceAs (Decidable (∃ place ∈ _, _))

/-- **A line that lies in one chunk is one instruction, which may tell where.** -/
theorem reports_of_fitsAt (hbytes : 0 < layout.lineBytes) (h : layout.FitsAt chunks n offset) :
    ∃ i j, layout.lineInstructions chunks .omit n = [i] ∧
      layout.lineInstructions chunks .encode n = [j] ∧ i.Reports offset j := by
  obtain ⟨place, hplace, hoffset, hfits⟩ := h
  have hpieces : layout.pieces chunks n = [⟨place.2, offset, layout.lineBytes, 0⟩] :=
    ScatterList.pieces_of_mem_located hplace hoffset hfits hbytes
  have hline : ∀ mode, layout.lineInstructions chunks mode n = [{
      opcode := .lineStart
      irq := interrupts layout n
      start := startField mode offset
      count := UInt16.ofNat layout.lineBytes
      address := UInt32.ofNat (place.2.address + offset) }] := by
    intro mode
    rw [lineInstructions, hpieces, List.map_singleton, Piece.instruction,
      if_neg (Nat.lt_irrefl 0), if_neg (Nat.lt_irrefl _)]
    cases interrupts layout n <;> rfl
  exact ⟨_, _, hline .omit, hline .encode, rfl, rfl, rfl⟩

/-- The instructions of a line that is split tell no offset in the chunk.

**Proof sketch.** Only a piece with nothing of its line in front of it or behind it tells an offset,
and then it is the whole line in one chunk. -/
theorem lineInstructions_congr (h : ∀ offset, ¬layout.FitsAt chunks n offset) :
    layout.lineInstructions chunks .encode n = layout.lineInstructions chunks .omit n := by
  have hpieces : (layout.pieces chunks n).map (Piece.instruction layout.lineBytes .encode) =
      (layout.pieces chunks n).map (Piece.instruction layout.lineBytes .omit) := by
    refine List.map_congr_left fun piece hpiece => ?_
    unfold Piece.instruction
    split
    · rfl
    · next hfirst =>
      split
      · rfl
      · next hwhole =>
        obtain ⟨place, hplace, hpiece⟩ := List.mem_filterMap.mp hpiece
        simp only [Piece.common?, Option.ite_none_right_eq_some, Option.some.injEq] at hpiece
        obtain ⟨hless, rfl⟩ := hpiece
        dsimp only at hfirst hwhole
        -- a piece with nothing of the line in front of it or behind it is the line in one chunk
        exact absurd ⟨place, hplace, by omega, by omega⟩ (h (layout.position n - place.1))
  rw [lineInstructions, lineInstructions, hpieces]

/-- The lines of a field that is emitted to its end can be encoded. -/
lemma encodable_of_emission {mode : LineOffset} {l : List Instruction} {last : Cursor}
    (h : layout.emission chunks mode = ⟨l, .ok last⟩) :
    0 < layout.lineBytes ∧ layout.lineBytes ≤ Instruction.maxCount := by
  simp only [emission, emissionOf, bind_eq_mk] at h
  obtain ⟨_, _, _, hpreamble, -, -⟩ := h
  obtain ⟨hbytes, hmost, -⟩ := preamble_eq_mk hpreamble
  exact ⟨hbytes, Nat.le_of_lt_succ hmost⟩

/-- A field that is emitted to its end lies within the buffer, and is emitted piece by piece. -/
lemma spans_of_emission {mode : LineOffset} {l : List Instruction} {last : Cursor}
    (hpos : ∀ chunk ∈ chunks, 0 < chunk.length)
    (h : layout.emission chunks mode = ⟨l, .ok last⟩) :
    layout.Spans (ScatterList.size chunks) ∧ layout.instructions chunks mode = l := by
  obtain ⟨hbytes, hmost⟩ := encodable_of_emission h
  have hcovers := covers_emission hpos hbytes hmost mode
  rw [h] at hcovers
  cases hcovers with
  | complete hspans _ => exact ⟨hspans, rfl⟩

end FieldLayout

namespace Region

variable {region next : Region} {layout : FieldLayout} {chunks : ScatterList}

/-- Of two emissions that end in the same way, after as many instructions, both are written or
neither is, for the same fault. -/
lemma append_eq_error_congr {α : Type} {m m' : Emission α} (houtcome : m.outcome = m'.outcome)
    (hlength : m.instructions.length = m'.instructions.length) (fault : Fault) :
    region.append m = .error fault ↔ region.append m' = .error fault := by
  rw [append, append, Instruction.length_encodeAll, Instruction.length_encodeAll, hlength, houtcome]
  split
  · cases m'.outcome with
    | error fault' => exact Iff.rfl
    | ok a =>
      constructor
      · intro herror
        cases herror
      · intro herror
        cases herror
  · exact Iff.rfl

/-- Of two emissions that are alike both are written, or neither for the same fault. -/
lemma append_eq_error_iff {α : Type} {m m' : Emission α} (h : m.Alike m') (fault : Fault) :
    region.append m = .error fault ↔ region.append m' = .error fault := by
  refine append_eq_error_congr h.outcome ?_ fault
  rw [← List.length_map Instruction.unplaced, h.instructions, List.length_map]

/-- A field that is written stands in the region piece by piece. -/
lemma words_of_field {mode : LineOffset} (hpos : ∀ chunk ∈ chunks, 0 < chunk.length)
    (h : region.field layout chunks mode = .ok next) :
    0 < layout.lineBytes ∧
      layout.instructions chunks mode = (layout.emission chunks mode).instructions ∧
      next.words = region.words ++ Instruction.encodeAll (layout.instructions chunks mode) := by
  rw [field_eq_append] at h
  obtain ⟨⟨last, hemission⟩, hwords⟩ := append_eq_ok h
  obtain ⟨hbytes, -⟩ := FieldLayout.encodable_of_emission hemission
  obtain ⟨-, hinstructions⟩ := FieldLayout.spans_of_emission hpos hemission
  exact ⟨hbytes, hinstructions, hinstructions ▸ hwords⟩

/-- A field that is written lies within the buffer. -/
lemma spans_of_field {mode : LineOffset} (hpos : ∀ chunk ∈ chunks, 0 < chunk.length)
    (h : region.field layout chunks mode = .ok next) :
    layout.Spans (ScatterList.size chunks) := by
  rw [field_eq_append] at h
  obtain ⟨⟨last, hemission⟩, -⟩ := append_eq_ok h
  exact (FieldLayout.spans_of_emission hpos hemission).1

/-- **What is written with offsets and without.** If a field cannot be written in the one way, it
cannot in the other, for the same fault. Otherwise as many words are written in either way, and they
are those of the instructions of the field. Without start offsets these are the same. With them, a
line that lies in one chunk is one instruction in either way, which tells the offset in the chunk in
the one, or-ed to its first word, and nothing in the other; and the instructions of all other lines
do not differ. All this is so no less if the field is written word by word and no number is cut.

**Proof sketch.** The two emissions are alike, so they end in the same way and with as many
instructions, which differ in start offsets only. Which of them tell one is seen line by line. -/
theorem field_offsets (region : Region) (layout : FieldLayout)
    (hpos : ∀ chunk ∈ chunks, 0 < chunk.length) :
    (∀ fault, region.field layout chunks .omit = .error fault ↔
      region.field layout chunks .encode = .error fault) ∧
    (∀ next, region.field layout chunks .omit = .ok next →
      ∃ next', region.field layout chunks .encode = .ok next' ∧
        next'.words.length = next.words.length ∧
        next.words =
          region.words ++ Instruction.encodeAll (layout.instructions chunks .omit) ∧
        next'.words =
          region.words ++ Instruction.encodeAll (layout.instructions chunks .encode) ∧
        (layout.instructions chunks .omit).map Instruction.unplaced =
          (layout.instructions chunks .encode).map Instruction.unplaced ∧
        ∀ n < layout.lines,
          (∀ offset, layout.FitsAt chunks n offset →
            ∃ i j, layout.lineInstructions chunks .omit n = [i] ∧
              layout.lineInstructions chunks .encode n = [j] ∧ i.Reports offset j ∧
              j.control = i.control ||| UInt32.ofNat (offset % 4096) <<< 12) ∧
          ((∀ offset, ¬layout.FitsAt chunks n offset) →
            layout.lineInstructions chunks .encode n =
              layout.lineInstructions chunks .omit n)) ∧
    (region.Bounded →
      ∀ mode, region.draft layout chunks mode = region.field layout chunks mode) := by
  have halike := layout.alike_emission chunks .omit .encode
  have hfaults : ∀ fault, region.field layout chunks .omit = .error fault ↔
      region.field layout chunks .encode = .error fault := by
    intro fault
    rw [field_eq_append, field_eq_append]
    exact append_eq_error_iff halike fault
  refine ⟨hfaults, fun next hnext => ?_, fun hregion => draft_eq_field hregion layout chunks⟩
  cases hnext' : region.field layout chunks .encode with
  | error fault =>
    rw [(hfaults fault).mpr hnext'] at hnext
    cases hnext
  | ok next' =>
    obtain ⟨hbytes, hinstructions, hwords⟩ := words_of_field hpos hnext
    obtain ⟨-, hinstructions', hwords'⟩ := words_of_field hpos hnext'
    have hunplaced : (layout.instructions chunks .omit).map Instruction.unplaced =
        (layout.instructions chunks .encode).map Instruction.unplaced := by
      rw [hinstructions, hinstructions']
      exact halike.instructions
    have hlength := congrArg List.length hunplaced
    rw [List.length_map, List.length_map] at hlength
    refine ⟨next', rfl, ?_, hwords, hwords', hunplaced, fun n _ =>
      ⟨fun offset hfits => ?_, FieldLayout.lineInstructions_congr⟩⟩
    · rw [hwords, hwords', List.length_append, List.length_append, Instruction.length_encodeAll,
        Instruction.length_encodeAll, hlength]
    · obtain ⟨i, j, hi, hj, hreports⟩ := FieldLayout.reports_of_fitsAt hbytes hfits
      exact ⟨i, j, hi, hj, hreports, hreports.control_eq⟩

/-- A chunk of 5000 bytes and one of 1000. -/
def oversized : ScatterList :=
  [⟨0x10000, 5000⟩, ⟨0x30000, 1000⟩]

/-- Four lines of 300 bytes each, with an interrupt for every line but the first. -/
def lateField : FieldLayout where
  sync := some .odd
  offset := 4200
  lineBytes := 300
  padding := 0
  lines := 4
  linesPerInterrupt := 1

/-- Two lines begin more than 4096 bytes from the start of their chunk, the third is split, and the
fourth lies in the next chunk. -/
theorem field_offsets_oversized :
    (∀ chunk ∈ oversized, 0 < chunk.length) ∧
      lateField.FitsAt oversized 0 4200 ∧ lateField.FitsAt oversized 1 4500 ∧
      lateField.FitsAt oversized 3 100 ∧
      ∃ next next', (blank 12).field lateField oversized .omit = .ok next ∧
        (blank 12).field lateField oversized .encode = .ok next' ∧
        (blank 12).draft lateField oversized .encode = .ok next' ∧
        next'.words.length = next.words.length ∧
        next.words = Instruction.encodeAll [
          { opcode := .syncOdd },
          { opcode := .lineStart, count := 300, address := 0x11068 },
          { opcode := .lineStart, irq := true, count := 300, address := 0x11194 },
          { opcode := .lineStart, dataType := 7, count := 200, address := 0x112c0 },
          { opcode := .inline, irq := true, start := 200, count := 100, address := 0x30000 },
          { opcode := .lineStart, irq := true, count := 300, address := 0x30064 }] ∧
        next'.words = Instruction.encodeAll [
          { opcode := .syncOdd },
          { opcode := .lineStart, start := 104, count := 300, address := 0x11068 },
          { opcode := .lineStart, irq := true, start := 404, count := 300, address := 0x11194 },
          { opcode := .lineStart, dataType := 7, count := 200, address := 0x112c0 },
          { opcode := .inline, irq := true, start := 200, count := 100, address := 0x30000 },
          { opcode := .lineStart, irq := true, start := 100, count := 300,
            address := 0x30064 }] := by
  have hpos : ∀ chunk ∈ oversized, 0 < chunk.length := by decide
  have hwritten : ((blank 12).field lateField oversized .omit).toOption.isSome = true := by
    decide +kernel
  obtain ⟨next, hnext⟩ := Option.isSome_iff_exists.mp hwritten
  have hnext := toOption_eq_some.mp hnext
  obtain ⟨-, hoffsets, hdraft⟩ := field_offsets (blank 12) lateField hpos
  obtain ⟨next', hnext', hlength, hwords, hwords', -⟩ := hoffsets next hnext
  refine ⟨hpos, by decide, by decide, by decide, next, next', hnext, hnext', ?_, hlength, ?_, ?_⟩
  · rw [hdraft (Nat.zero_le _) .encode, hnext']
  · exact hwords.trans (by decide +kernel)
  · exact hwords'.trans (by decide +kernel)

end Region

end VideoCapture
