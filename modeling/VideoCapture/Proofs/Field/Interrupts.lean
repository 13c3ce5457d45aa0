import VideoCapture.Proofs.Field.Offsets

/-!
# Lines that end with an interrupt

A field can be written with an interrupt for every so many of its lines, or with none. The flag is
put on whatever was written last, so it has to be seen that this is always the last instruction of
the line that has just been written, and never one of another line or the one that waits for the
field. Two things are shown for that. If all flags of the one field are cleared, the other is left,
whatever the chunks are like and wherever the writing breaks off. And which instructions are flagged
can be told from the pieces of the lines: each line has one at least, so no two lines end at the
same instruction.

## Main definitions

* `VideoCapture.FieldLayout.silent` — a field without interrupts.
* `VideoCapture.Emission.silence` — an emission with all flags cleared.
* `VideoCapture.FieldLayout.opening` — the index of the instruction that begins a line.
* `VideoCapture.FieldLayout.RaisesAt` — an instruction ends a line that ends with an interrupt.
* `VideoCapture.FieldLayout.Signals` — a list of instructions is one line after the other, with
  flags where they belong.

## Main results

* `VideoCapture.Emission.silence_bind` — flags are cleared part by part.
* `VideoCapture.FieldLayout.silence_emission` — a field with its flags cleared is the silent field.
* `VideoCapture.FieldLayout.signals_instructions` — the instructions of a field are flagged at the
  ends of lines.
* `VideoCapture.Region.field_silent_eq_error_iff`, `VideoCapture.Region.exists_field_silent` — what
  interrupts have nothing to do with.
* `VideoCapture.Region.field_interrupts` — what is written with interrupts and without.
-/

set_option autoImplicit false

namespace VideoCapture

/-! ## Flags cleared -/

namespace Instruction

variable {i : Instruction}

/-- The instruction without its interrupt flag. -/
def unflagged (i : Instruction) : Instruction :=
  { i with irq := false }

/-- A flag that is set and cleared leaves no trace. -/
lemma unflagged_flagged (i : Instruction) : i.flagged.unflagged = i.unflagged := rfl

/-- An instruction without a flag has none to be cleared. -/
lemma unflagged_of_irq_eq_false (h : i.irq = false) : i.unflagged = i := by
  rw [unflagged, ← h]

/-- The flag is a bit of the first word. -/
lemma control_of_irq (h : i.irq = true) : i.control = i.unflagged.control ||| 0x8000000 := by
  rw [← control_flagged, flagged, unflagged, ← h]

end Instruction

/-- The same field without interrupts. -/
def FieldLayout.silent (layout : FieldLayout) : FieldLayout :=
  { layout with linesPerInterrupt := 0 }

namespace Emission

variable {α β : Type}

/-- The same emission with all flags cleared. -/
def silence (m : Emission α) : Emission α :=
  { m with instructions := m.instructions.map Instruction.unflagged }

/-- As many instructions are emitted without flags as with them. -/
lemma length_silence (m : Emission α) :
    (silence m).instructions.length = m.instructions.length :=
  List.length_map _

/-- **Flags are cleared part by part.** -/
theorem silence_bind (m : Emission α) (f : α → Emission β) :
    silence (m >>= f) = silence m >>= fun a => silence (f a) := by
  obtain ⟨l, fault | a⟩ := m
  · rfl
  · simp only [silence, ok_bind, List.map_append]

/-- An emission has no flags to clear if neither of its parts has. -/
lemma silence_bind_eq_self {m : Emission α} {f : α → Emission β} (hm : silence m = m)
    (hf : ∀ a, silence (f a) = f a) : silence (m >>= f) = m >>= f := by
  rw [silence_bind, hm]
  congr 1
  funext a
  exact hf a

/-- What is flagged does not matter once flags are cleared. -/
lemma silence_flagLast (m : Emission α) : silence (flagLast m) = silence m := by
  simp only [silence, flagLast, map_flagLastOf Instruction.unflagged_flagged]

end Emission

namespace Field

open Emission

variable {layout : FieldLayout}

/-- The rest of a split line has no flags.

**Proof sketch.** Along the chunks: each instruction of the rest of a line is emitted without a
flag. -/
lemma silence_continueLine (index done todo : Nat) (chunks : ScatterList) :
    silence (continueLine index done todo chunks) = continueLine index done todo chunks := by
  induction chunks generalizing index done todo with
  | nil => rfl
  | cons chunk rest ih =>
    unfold continueLine
    split
    · refine silence_bind_eq_self rfl fun address => ?_
      exact silence_bind_eq_self rfl fun _ => ih _ _ _
    · refine silence_bind_eq_self rfl fun address => ?_
      exact silence_bind_eq_self rfl fun _ => rfl

/-- Nor has a line as a whole. -/
lemma silence_line (bytes : Nat) (mode : LineOffset) (cursor : Cursor) :
    silence (line bytes mode cursor) = line bytes mode cursor := by
  refine silence_bind_eq_self rfl fun place => silence_bind_eq_self rfl fun address => ?_
  split
  · exact silence_bind_eq_self rfl fun _ => rfl
  · exact silence_bind_eq_self rfl fun _ => silence_continueLine _ _ _ _

/-- A line of the silent field is the line without the mark at its end. -/
lemma silence_numberedLine (mode : LineOffset) (n : Nat) (cursor : Cursor) :
    silence (numberedLine layout mode n cursor) = numberedLine layout.silent mode n cursor := by
  have hsilent : numberedLine layout.silent mode n cursor = line layout.lineBytes mode cursor := rfl
  rw [hsilent, numberedLine]
  split
  · rw [silence_flagLast, silence_line]
  · exact silence_line _ mode cursor

/-- **Lines with their flags cleared are the lines of the silent field.**

**Proof sketch.** Induction on the number of lines. Whether a line was flagged does not show in the
cursor that it leaves. -/
theorem silence_lines (mode : LineOffset) (count n : Nat) (cursor : Cursor) :
    silence (lines layout mode count n cursor) = lines layout.silent mode count n cursor := by
  induction count generalizing n cursor with
  | zero => rfl
  | succ count ih =>
    rw [lines, lines, silence_bind, silence_numberedLine]
    simp only [silence_bind, ih]
    rfl

end Field

/-- **A field with its flags cleared is the silent field**, also where it breaks off. -/
theorem FieldLayout.silence_emission (layout : FieldLayout) (chunks : ScatterList)
    (mode : LineOffset) :
    (layout.emission chunks mode).silence = layout.silent.emission chunks mode := by
  have hpreamble : layout.preamble.silence = layout.preamble := by
    unfold preamble
    split
    · rfl
    · cases layout.sync <;> rfl
  unfold emission emissionOf
  rw [Emission.silence_bind, hpreamble]
  simp only [Field.silence_lines]
  rfl

/-! ## Lines by themselves -/

/-- Those lines end with an interrupt whose numbers are positive multiples. -/
lemma Field.interrupts_iff {layout : FieldLayout} {n : Nat} :
    interrupts layout n = true ↔ 0 < n ∧ layout.linesPerInterrupt ∣ n := by
  simp only [interrupts, Bool.and_eq_true, decide_eq_true_eq, beq_iff_eq, Nat.dvd_iff_mod_eq_zero]
  constructor
  · rintro ⟨⟨-, hpos⟩, hmultiple⟩
    exact ⟨hpos, hmultiple⟩
  · rintro ⟨hpos, hmultiple⟩
    refine ⟨⟨Nat.pos_of_ne_zero fun hzero => ?_, hpos⟩, hmultiple⟩
    -- of zero only zero is a multiple
    rw [hzero, Nat.mod_zero] at hmultiple
    omega

namespace FieldLayout

open Emission VideoCapture.Field

variable {layout : FieldLayout} {chunks : ScatterList} {mode : LineOffset} {n m k : Nat}
  {i : Instruction}

/-- A line has an instruction for each of its pieces. -/
lemma length_lineInstructions (layout : FieldLayout) (chunks : ScatterList) (mode : LineOffset)
    (n : Nat) :
    (layout.lineInstructions chunks mode n).length = (layout.pieces chunks n).length := by
  unfold lineInstructions
  split
  · rw [length_flagLastOf, List.length_map]
  · rw [List.length_map]

/-- The mark at the end of a line does not show in its opcodes. -/
lemma opcode_lineInstructions (layout : FieldLayout) (chunks : ScatterList) (mode : LineOffset)
    (n : Nat) : (layout.lineInstructions chunks mode n).map Instruction.opcode =
      (layout.pieces chunks n).map fun piece =>
        if 0 < piece.before then .inline else .lineStart := by
  have hpieces : ((layout.pieces chunks n).map (Piece.instruction layout.lineBytes mode)).map
      Instruction.opcode = (layout.pieces chunks n).map fun piece =>
        if 0 < piece.before then .inline else .lineStart := by
    rw [List.map_map]
    exact List.map_congr_left fun _ _ => Piece.opcode_instruction
  unfold lineInstructions
  split
  · exact (map_flagLastOf (fun _ => rfl) _).trans hpieces
  · exact hpieces

/-- An instruction of a line is flagged if the line ends with an interrupt and the instruction is
its last. -/
lemma irq_lineInstructions (h : (layout.lineInstructions chunks mode n)[k]? = some i) :
    i.irq = true ↔ interrupts layout n = true ∧ k + 1 = (layout.pieces chunks n).length := by
  unfold lineInstructions at h
  split at h
  · next hinterrupts =>
    rw [getElem?_flagLastOf, List.getElem?_map, Option.map_map, Option.map_eq_some_iff] at h
    obtain ⟨piece, -, rfl⟩ := h
    rw [List.length_map, Function.comp_apply]
    split
    · next hlast => simp [hinterrupts, hlast, Instruction.flagged]
    · next hlast => simp [Piece.irq_instruction, hlast]
  · next hquiet =>
    rw [List.getElem?_map, Option.map_eq_some_iff] at h
    obtain ⟨piece, -, rfl⟩ := h
    simp [Piece.irq_instruction, hquiet]

/-! ## Lines in a field -/

/-- The index, among the instructions of a field, of the one that begins line number `n`. -/
def opening (layout : FieldLayout) (chunks : ScatterList) : (n : Nat) → Nat
  | 0 => layout.sync.toList.length
  | n + 1 => opening layout chunks n + (layout.pieces chunks n).length

/-- The instruction with index `k` is the last of a line that ends with an interrupt, as those do
whose numbers are positive multiples of the lines per interrupt. -/
def RaisesAt (layout : FieldLayout) (chunks : ScatterList) (k : Nat) : Prop :=
  ∃ n, n < layout.lines ∧ 0 < n ∧ layout.linesPerInterrupt ∣ n ∧
    k + 1 = layout.opening chunks (n + 1)

instance (layout : FieldLayout) (chunks : ScatterList) (k : Nat) :
    Decidable (layout.RaisesAt chunks k) :=
  inferInstanceAs (Decidable (∃ n, n < layout.lines ∧ _))

/-- A list of instructions is that of a field line by line, with flags where they belong. -/
structure Signals (layout : FieldLayout) (chunks : ScatterList) (l : List Instruction) : Prop where
  /-- Behind the last line there is nothing. -/
  length : l.length = layout.opening chunks layout.lines
  /-- A line begins with a `LINE_START`, and goes on with `INLINE`s up to where the next begins. -/
  line : ∀ n < layout.lines, ∃ before first rest behind,
    l = before ++ first :: rest ++ behind ∧ before.length = layout.opening chunks n ∧
      before.length + (rest.length + 1) = layout.opening chunks (n + 1) ∧
      first.opcode = .lineStart ∧ ∀ i ∈ rest, i.opcode = .inline
  /-- Those are flagged that end a line which ends with an interrupt, and no others. -/
  irq : ∀ k i, l[k]? = some i → (i.irq = true ↔ layout.RaisesAt chunks k)

/-- Later lines begin no earlier among the instructions. -/
lemma opening_mono (layout : FieldLayout) (chunks : ScatterList) (h : n ≤ m) :
    layout.opening chunks n ≤ layout.opening chunks m := by
  induction h with
  | refl => exact Nat.le_refl _
  | step _ ih => exact Nat.le_add_right_of_le ih

/-- The instructions of the first `count` lines of a field, with what is in front of them. -/
def instructionsUpTo (layout : FieldLayout) (chunks : ScatterList) (mode : LineOffset)
    (count : Nat) : List Instruction :=
  (layout.sync.map fun parity => { opcode := parity.opcode : Instruction }).toList ++
    (List.range count).flatMap (layout.lineInstructions chunks mode)

/-- One line more adds its own instructions behind those of the lines before. -/
lemma instructionsUpTo_add_one (layout : FieldLayout) (chunks : ScatterList) (mode : LineOffset)
    (n : Nat) : layout.instructionsUpTo chunks mode (n + 1) =
      layout.instructionsUpTo chunks mode n ++ layout.lineInstructions chunks mode n := by
  simp [instructionsUpTo, List.range_succ]

/-- A line begins behind the instructions of the lines before it.

**Proof sketch.** On the number of lines, each of which adds as many instructions to either side. -/
lemma length_instructionsUpTo (layout : FieldLayout) (chunks : ScatterList) (mode : LineOffset)
    (n : Nat) : (layout.instructionsUpTo chunks mode n).length = layout.opening chunks n := by
  induction n with
  | zero => cases hsync : layout.sync <;> simp [instructionsUpTo, opening, hsync]
  | succ n ih =>
    rw [instructionsUpTo_add_one, List.length_append, ih, length_lineInstructions, opening]

/-- More lines leave the instructions of the first lines as they are. -/
lemma instructionsUpTo_prefix (layout : FieldLayout) (chunks : ScatterList) (mode : LineOffset)
    (h : n ≤ m) :
    layout.instructionsUpTo chunks mode n <+: layout.instructionsUpTo chunks mode m := by
  induction h with
  | refl => exact List.prefix_rfl
  | step _ ih => exact ih.trans (instructionsUpTo_add_one .. ▸ List.prefix_append _ _)

section Within

/-! From here on all lines lie within the buffer. -/

variable (hbytes : 0 < layout.lineBytes) (hspans : layout.Spans (ScatterList.size chunks))

include hbytes hspans

/-- A line within the buffer has a piece. -/
lemma pieces_ne_nil (hn : n < layout.lines) : layout.pieces chunks n ≠ [] := by
  have hend := spans_iff.mp hspans n hn
  exact ScatterList.pieces_ne_nil (Nat.zero_le _) (by omega) (by omega)

/-- So it has an instruction. -/
lemma opening_lt (hn : n < layout.lines) :
    layout.opening chunks n < layout.opening chunks (n + 1) :=
  Nat.lt_add_of_pos_right (List.length_pos_of_ne_nil (pieces_ne_nil hbytes hspans hn))

/-- The first piece of a line has nothing of the line in front of it, and the others have. -/
lemma exists_pieces_eq_cons (hn : n < layout.lines) :
    ∃ piece later, layout.pieces chunks n = piece :: later ∧ piece.before = 0 ∧
      ∀ p ∈ later, 0 < p.before := by
  obtain ⟨piece, later, hpieces⟩ :=
    List.exists_cons_of_ne_nil (pieces_ne_nil hbytes hspans hn)
  have hbefore : ∀ l₁ p l₂, piece :: later = l₁ ++ p :: l₂ →
      p.before = (l₁.map Piece.length).sum := by
    intro l₁ p l₂ hsplit
    exact ScatterList.before_of_pieces (Nat.zero_le _) (hpieces.trans hsplit)
  refine ⟨piece, later, hpieces, hbefore [] piece later rfl, fun p hp => ?_⟩
  obtain ⟨l₁, l₂, rfl⟩ := List.append_of_mem hp
  have hmem : piece ∈ layout.pieces chunks n := hpieces ▸ List.mem_cons_self
  have hlength := (ScatterList.mem_pieces hmem).2.1
  rw [hbefore (piece :: l₁) p l₂ rfl, List.map_cons, List.sum_cons]
  omega

/-- **A line begins with a `LINE_START`, and goes on with `INLINE`s.** -/
lemma exists_lineInstructions_eq_cons (hn : n < layout.lines) (mode : LineOffset) :
    ∃ first rest, layout.lineInstructions chunks mode n = first :: rest ∧
      first.opcode = .lineStart ∧ ∀ i ∈ rest, i.opcode = .inline := by
  obtain ⟨piece, later, hpieces, hfirst, hlater⟩ := exists_pieces_eq_cons hbytes hspans hn
  have hopcodes := layout.opcode_lineInstructions chunks mode n
  rw [hpieces, List.map_cons, if_neg (by omega)] at hopcodes
  obtain ⟨first, rest, hline, hstart, hrest⟩ := List.map_eq_cons_iff.mp hopcodes
  refine ⟨first, rest, hline, hstart, fun i hi => ?_⟩
  have hmem := List.mem_map_of_mem (f := Instruction.opcode) hi
  rw [hrest] at hmem
  obtain ⟨p, hp, hopcode⟩ := List.mem_map.mp hmem
  rw [← hopcode, if_pos (hlater p hp)]

/-- **An instruction of a line raises an interrupt if the line does and the instruction is its
last.** No other line ends at the same index, because each has an instruction of its own. -/
lemma raisesAt_iff (hn : n < layout.lines) (hk : layout.opening chunks n ≤ k)
    (hk' : k < layout.opening chunks (n + 1)) :
    layout.RaisesAt chunks k ↔
      interrupts layout n = true ∧ k + 1 = layout.opening chunks (n + 1) := by
  rw [interrupts_iff]
  constructor
  · rintro ⟨m, hm, hpos, hmultiple, hend⟩
    obtain hless | rfl | hmore := Nat.lt_trichotomy m n
    · have hbefore : layout.opening chunks (m + 1) ≤ layout.opening chunks n :=
        layout.opening_mono chunks hless
      omega
    · exact ⟨⟨hpos, hmultiple⟩, hend⟩
    · have hbehind : layout.opening chunks (n + 1) ≤ layout.opening chunks m :=
        layout.opening_mono chunks hmore
      have hown := opening_lt hbytes hspans hm
      omega
  · rintro ⟨⟨hpos, hmultiple⟩, hend⟩
    exact ⟨n, hn, hpos, hmultiple, hend⟩

/-- The instruction that waits for the field raises no interrupt. -/
lemma not_raisesAt (hk : k < layout.opening chunks 0) : ¬layout.RaisesAt chunks k := by
  rintro ⟨n, hn, -, -, hend⟩
  have hfirst := layout.opening_mono chunks (Nat.zero_le n)
  have hown := opening_lt hbytes hspans hn
  omega

/-- **Those instructions are flagged that end a line which ends with an interrupt.**

**Proof sketch.** Induction on the number of lines. An index lies in the last line, and the line
tells whether it is flagged, or before it. -/
theorem irq_instructionsUpTo (hn : n ≤ layout.lines)
    (h : (layout.instructionsUpTo chunks mode n)[k]? = some i) :
    i.irq = true ↔ layout.RaisesAt chunks k := by
  have hk : k < layout.opening chunks n := by
    rw [← length_instructionsUpTo layout chunks mode]
    exact (List.getElem?_eq_some_iff.mp h).1
  induction n with
  | zero =>
    have hquiet := not_raisesAt hbytes hspans hk
    cases hsync : layout.sync with
    | none => simp [instructionsUpTo, hsync] at h
    | some parity =>
      simp only [instructionsUpTo, hsync, List.range_zero, List.flatMap_nil, List.append_nil] at h
      obtain rfl := List.mem_singleton.mp (List.mem_of_getElem? h)
      simp [hquiet]
  | succ n ih =>
    rw [instructionsUpTo_add_one] at h
    by_cases hbefore : k < layout.opening chunks n
    · rw [List.getElem?_append_left (by rwa [length_instructionsUpTo])] at h
      exact ih (Nat.le_of_succ_le hn) h hbefore
    · rw [List.getElem?_append_right (by rw [length_instructionsUpTo]; omega),
        length_instructionsUpTo] at h
      rw [irq_lineInstructions h, raisesAt_iff hbytes hspans hn (by omega) hk, opening]
      refine and_congr_right fun _ => ?_
      omega

/-- **The instructions of a field are one line after the other, flagged where they should be.** -/
theorem signals_instructions (mode : LineOffset) :
    layout.Signals chunks (layout.instructions chunks mode) where
  length := layout.length_instructionsUpTo chunks mode layout.lines
  line := by
    intro n hn
    obtain ⟨first, rest, hline, hfirst, hrest⟩ :=
      exists_lineInstructions_eq_cons hbytes hspans hn mode
    obtain ⟨behind, hbehind⟩ :=
      layout.instructionsUpTo_prefix chunks mode (show n + 1 ≤ layout.lines from hn)
    have hbefore := layout.length_instructionsUpTo chunks mode n
    have hlength := layout.length_lineInstructions chunks mode n
    rw [hline, List.length_cons] at hlength
    rw [instructionsUpTo_add_one, hline] at hbehind
    refine ⟨_, first, rest, behind, hbehind.symm, hbefore, ?_, hfirst, hrest⟩
    rw [hbefore, hlength, opening]
  irq := fun _ _ h => irq_instructionsUpTo hbytes hspans (Nat.le_refl _) h

end Within

end FieldLayout

/-! ## What is written -/

namespace Instruction

variable {words : List UInt32} {l : List Instruction} {k w : Nat}

/-- The flag of an instruction is or-ed to its first word, whatever words are in front of it. -/
lemma getElem?_append_encodeAll_of_irq (h : ∀ i, l[k]? = some i → i.irq = true) :
    (words ++ encodeAll l)[words.length + 2 * k]? =
      (words ++ encodeAll (l.map unflagged))[words.length + 2 * k]?.map (· ||| 0x8000000) := by
  rw [List.getElem?_append_right (Nat.le_add_right _ _),
    List.getElem?_append_right (Nat.le_add_right _ _), Nat.add_sub_cancel_left,
    (getElem?_encodeAll l k).1, (getElem?_encodeAll (l.map unflagged) k).1, List.getElem?_map]
  cases hk : l[k]? with
  | none => rfl
  | some i => simp [control_of_irq (h i hk)]

/-- No other word has to do with flags. -/
lemma getElem?_append_encodeAll_unflagged
    (h : ∀ k i, w = words.length + 2 * k → l[k]? = some i → i.irq = false) :
    (words ++ encodeAll l)[w]? = (words ++ encodeAll (l.map unflagged))[w]? := by
  rw [List.getElem?_append, List.getElem?_append]
  split
  · rfl
  · next hbehind =>
    -- the word is the first or the second of an instruction
    obtain ⟨k, hk | hk⟩ := Nat.even_or_odd' (w - words.length)
    · rw [hk, (getElem?_encodeAll l k).1, (getElem?_encodeAll (l.map unflagged) k).1,
        List.getElem?_map]
      cases hi : l[k]? with
      | none => rfl
      | some i => simp [unflagged_of_irq_eq_false (h k i (by omega) hi)]
    · rw [hk, (getElem?_encodeAll l k).2, (getElem?_encodeAll (l.map unflagged) k).2,
        List.getElem?_map, Option.map_map]
      rfl

end Instruction

namespace Region

variable {region next : Region} {layout : FieldLayout} {chunks : ScatterList} {mode : LineOffset}

/-- **Interrupts have nothing to do with whether a field can be written**, or with the fault that
says why not. -/
theorem field_silent_eq_error_iff (region : Region) (layout : FieldLayout) (chunks : ScatterList)
    (mode : LineOffset) (fault : Fault) :
    region.field layout.silent chunks mode = .error fault ↔
      region.field layout chunks mode = .error fault := by
  rw [field_eq_append, field_eq_append, ← layout.silence_emission chunks mode]
  have houtcome : (layout.emission chunks mode).silence.outcome =
      (layout.emission chunks mode).outcome := rfl
  exact append_eq_error_congr houtcome (Emission.length_silence _) fault

/-- **Without interrupts the same instructions are written, with all flags cleared.** -/
theorem exists_field_silent (hpos : ∀ chunk ∈ chunks, 0 < chunk.length)
    (h : region.field layout chunks mode = .ok next) :
    ∃ silent, region.field layout.silent chunks mode = .ok silent ∧
      silent.words = region.words ++ Instruction.encodeAll
        ((layout.instructions chunks mode).map Instruction.unflagged) := by
  cases hsilent : region.field layout.silent chunks mode with
  | error fault =>
    rw [(field_silent_eq_error_iff region layout chunks mode fault).mp hsilent] at h
    cases h
  | ok silent =>
    obtain ⟨-, hinstructions, -⟩ := words_of_field hpos h
    obtain ⟨-, hinstructions', hwords'⟩ := words_of_field hpos hsilent
    refine ⟨silent, rfl, ?_⟩
    rw [hwords', hinstructions', ← layout.silence_emission chunks mode, hinstructions]
    rfl

/-- **What is written with interrupts and without.** If a field cannot be written with interrupts,
it cannot without, for the same fault. Otherwise the words written are those of the instructions of
the field, and without interrupts they are those of the same instructions with all flags cleared.
The instructions are one line after the other, and those are flagged that end a line whose number is
a positive multiple of the lines per interrupt, be it the one `LINE_START` of the line or its last
`INLINE`. So the first words of these have the flag or-ed to them, and no other word is different,
in front of the field or in it. All this is so no less if the field is written word by word, and the
flag put on whatever was written last.

**Proof sketch.** Clearing all flags of the emission gives the one without interrupts. Which
instructions have a flag is known place by place, and flagging one ors a bit to its first word and
changes no other. -/
theorem field_interrupts (region : Region) (layout : FieldLayout) (mode : LineOffset)
    (hpos : ∀ chunk ∈ chunks, 0 < chunk.length) :
    (∀ fault, region.field layout chunks mode = .error fault ↔
      region.field layout.silent chunks mode = .error fault) ∧
    ∀ next, region.field layout chunks mode = .ok next →
      ∃ silent, region.field layout.silent chunks mode = .ok silent ∧
        region.draft layout chunks mode = .ok next ∧
        region.draft layout.silent chunks mode = .ok silent ∧
        next.words = region.words ++ Instruction.encodeAll (layout.instructions chunks mode) ∧
        silent.words = region.words ++ Instruction.encodeAll
          ((layout.instructions chunks mode).map Instruction.unflagged) ∧
        layout.Signals chunks (layout.instructions chunks mode) ∧
        (∀ k, layout.RaisesAt chunks k → next.words[region.position + 2 * k]? =
          silent.words[region.position + 2 * k]?.map (· ||| 0x8000000)) ∧
        ∀ w, (∀ k, layout.RaisesAt chunks k → w ≠ region.position + 2 * k) →
          next.words[w]? = silent.words[w]? := by
  refine ⟨fun fault => (field_silent_eq_error_iff region layout chunks mode fault).symm,
    fun next hnext => ?_⟩
  obtain ⟨silent, hsilent, hwords'⟩ := exists_field_silent hpos hnext
  obtain ⟨hbytes, -, hwords⟩ := words_of_field hpos hnext
  have hsignals := FieldLayout.signals_instructions hbytes (spans_of_field hpos hnext) mode
  have hregion := bounded_of_field_eq_ok hnext
  refine ⟨silent, hsilent, ?_, ?_, hwords, hwords', hsignals, fun k hraises => ?_,
    fun w hother => ?_⟩
  · rw [draft_eq_field hregion, hnext]
  · rw [draft_eq_field hregion, hsilent]
  · rw [hwords, hwords']
    exact Instruction.getElem?_append_encodeAll_of_irq fun i hi =>
      (hsignals.irq k i hi).mpr hraises
  · rw [hwords, hwords']
    refine Instruction.getElem?_append_encodeAll_unflagged fun k i hw hi => ?_
    have hquiet : ¬layout.RaisesAt chunks k := fun hraises => hother k hraises hw
    rwa [← hsignals.irq k i hi, Bool.not_eq_true] at hquiet

/-- Three chunks, of which the second is shorter than a line. -/
def pinched : ScatterList :=
  [⟨0x1000, 60⟩, ⟨0x3000, 5⟩, ⟨0x5000, 100⟩]

/-- Five lines of 24 bytes each, with an interrupt for every second. -/
def pacedField : FieldLayout where
  sync := some .odd
  offset := 0
  lineBytes := 24
  padding := 0
  lines := 5
  linesPerInterrupt := 2

/-- Behind a jump that is there already, the third line of a field is split in three and the fifth
is not. Both end with an interrupt, at the last `INLINE` of the one and at the `LINE_START` of the
other. -/
theorem field_interrupts_pinched :
    (∀ chunk ∈ pinched, 0 < chunk.length) ∧
      (∀ k, pacedField.RaisesAt pinched k ↔ k = 5 ∨ k = 7) ∧
      ∃ next silent,
        (⟨18, [0xb0000000, 0x2000]⟩ : Region).field pacedField pinched .omit = .ok next ∧
        (⟨18, [0xb0000000, 0x2000]⟩ : Region).field pacedField.silent pinched .omit = .ok silent ∧
        (⟨18, [0xb0000000, 0x2000]⟩ : Region).draft pacedField pinched .omit = .ok next ∧
        next.words = [0xb0000000, 0x2000] ++ Instruction.encodeAll [
          { opcode := .syncOdd },
          { opcode := .lineStart, count := 24, address := 0x1000 },
          { opcode := .lineStart, count := 24, address := 0x1018 },
          { opcode := .lineStart, dataType := 7, count := 12, address := 0x1030 },
          { opcode := .inline, start := 12, count := 5, address := 0x3000 },
          { opcode := .inline, irq := true, start := 17, count := 7, address := 0x5000 },
          { opcode := .lineStart, count := 24, address := 0x5007 },
          { opcode := .lineStart, irq := true, count := 24, address := 0x501f }] ∧
        next.words[12]? = silent.words[12]?.map (· ||| 0x8000000) ∧
        next.words[16]? = silent.words[16]?.map (· ||| 0x8000000) ∧
        ∀ w, w ≠ 12 → w ≠ 16 → next.words[w]? = silent.words[w]? := by
  have hpos : ∀ chunk ∈ pinched, 0 < chunk.length := by decide
  have hwritten : ((⟨18, [0xb0000000, 0x2000]⟩ : Region).field pacedField pinched
      .omit).toOption.isSome = true := by
    decide +kernel
  have hraises : ∀ k, pacedField.RaisesAt pinched k ↔ k = 5 ∨ k = 7 := by
    have hinside : ∀ k < 8, pacedField.RaisesAt pinched k ↔ k = 5 ∨ k = 7 := by decide
    intro k
    by_cases hk : k < 8
    · exact hinside k hk
    · refine iff_of_false ?_ (by omega)
      rintro ⟨n, hn, -, -, hend⟩
      have hlast : pacedField.opening pinched (n + 1) ≤ 8 := pacedField.opening_mono pinched hn
      omega
  obtain ⟨next, hnext⟩ := Option.isSome_iff_exists.mp hwritten
  have hnext := toOption_eq_some.mp hnext
  obtain ⟨silent, hsilent, hdraft, -, hwords, -, -, hflags, hothers⟩ :=
    (field_interrupts ⟨18, [0xb0000000, 0x2000]⟩ pacedField .omit hpos).2 next hnext
  refine ⟨hpos, hraises, next, silent, hnext, hsilent, hdraft, ?_, ?_, ?_, fun w h₁ h₂ => ?_⟩
  · exact hwords.trans (by decide +kernel)
  · exact hflags 5 ((hraises 5).mpr (.inl rfl))
  · exact hflags 7 ((hraises 7).mpr (.inr rfl))
  · refine hothers w fun k hk => ?_
    obtain rfl | rfl := (hraises k).mp hk
    · exact h₁
    · exact h₂

end Region

end VideoCapture
