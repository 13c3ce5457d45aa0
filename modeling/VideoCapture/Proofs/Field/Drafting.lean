import VideoCapture.Field.Region
import VideoCapture.Proofs.Instruction.Words
import VideoCapture.Proofs.Outcome

/-!
# Fields word by word

What a field emits is recorded first and written afterwards. It can also be written as it comes:
each pair of words is put into the region at once, if there is still room for it; the words are
or-ed together from the numbers of the line, and nothing cuts these to size; and the interrupt flag
is or-ed to whatever was written last. Both ways come to the same words or the same fault. For one
thing, no number is ever too large for its bits, because a line has fewer than 4096 bytes and no
piece of it has more than the line. For another, the instruction written last is always one of the
line that has just been written.

## Main definitions

* `VideoCapture.Region.draft` — writes a field word by word.
* `VideoCapture.Region.perform` — writes what an emission emits, and answers its value.

## Main results

* `VideoCapture.Region.perform_bind` — emissions are written one after the other.
* `VideoCapture.Region.draftLine_eq`, `VideoCapture.Region.draftLines_eq` — lines.
* `VideoCapture.Region.draft_eq_field` — a field written word by word is the field.
-/

set_option autoImplicit false

namespace VideoCapture

namespace Region

/-! ## Writing words as they come -/

/-- Or-s the interrupt flag to the first word of the instruction written last, if there is one. -/
def flagLast (region : Region) : Region :=
  if 2 ≤ region.position then
    { region with words := region.words.modify (region.position - 2) (· ||| 0x8000000) }
  else region

/-- Writes the rest of a split line, of which `done` bytes are written and `todo` are not, into the
chunks that follow. -/
def draftRest (region : Region) (index done todo : Nat) :
    ScatterList → Except Fault (Region × Cursor)
  | [] => .error (.scatterExhausted index)
  | chunk :: rest =>
    if chunk.length < todo then do
      let address ← chunk.busAddress 0
      let region ← region.push (Opcode.inline.packed 0 done chunk.length) address
      draftRest region (index + 1) (done + chunk.length) (todo - chunk.length) rest
    else do
      let address ← chunk.busAddress 0
      let region ← region.push (Opcode.inline.packed 0 done todo) address
      return (region, ⟨index, chunk :: rest, todo⟩)

/-- What a line that fits into its chunk has as its start. -/
def startOf : LineOffset → (offset : Nat) → Nat
  | .omit, _ => 0
  | .encode, offset => offset % 4096

/-- Writes one line of `bytes` bytes from a cursor on. -/
def draftLine (region : Region) (bytes : Nat) (mode : LineOffset) (cursor : Cursor) :
    Except Fault (Region × Cursor) := do
  let place ← cursor.seek
  let room := place.chunk.length - place.offset
  let address ← place.chunk.busAddress place.offset
  if bytes ≤ room then
    let start := startOf mode place.offset
    let region ← region.push (Opcode.lineStart.packed 0 start bytes) address
    return (region, ⟨place.index, place.chunk :: place.rest, place.offset + bytes⟩)
  else
    let region ← region.push (Opcode.lineStart.packed 7 0 room) address
    draftRest region (place.index + 1) room (bytes - room) place.rest

/-- Writes the lines of a field one after the other, of which the first has number `n`. -/
def draftLines (layout : FieldLayout) (mode : LineOffset) :
    (count n : Nat) → Region → Cursor → Except Fault (Region × Cursor)
  | 0, _, region, cursor => return (region, cursor)
  | count + 1, n, region, cursor => do
    let (region, cursor) ← region.draftLine layout.lineBytes mode cursor
    let cursor ← cursor.pad layout.padding
    let region := if Field.interrupts layout n then region.flagLast else region
    draftLines layout mode count (n + 1) region cursor

/-- Writes a field word by word. -/
def draft (region : Region) (layout : FieldLayout) (chunks : ScatterList) (mode : LineOffset) :
    Except Fault Region := do
  if layout.lineBytes = 0 ∨ Instruction.maxCount < layout.lineBytes then
    throw (.lineNotEncodable layout.lineBytes)
  let region ← match layout.sync with
    | some parity => region.push (parity.opcode.packed 0 0 0) 0
    | none => pure region
  let (region, _) ← draftLines layout mode layout.lines 0 region ⟨0, chunks, layout.offset⟩
  return region

/-! ## Writing what is emitted -/

open Emission

variable {α β : Type} {region next : Region} {control address : UInt32}

/-- Writes the instructions of an emission and answers its value. -/
def perform (region : Region) (m : Emission α) : Except Fault (Region × α) := do
  let next ← region.append m
  let a ← m.outcome
  return (next, a)

/-- A region is not written beyond its end. -/
def Bounded (region : Region) : Prop :=
  region.position ≤ region.capacity

/-- What is emitted is written if there is room for all of it. -/
lemma perform_eq (region : Region) (m : Emission α) :
    region.perform m = if region.position + 2 * m.instructions.length ≤ region.capacity then
      m.outcome.map fun a =>
        ({ region with words := region.words ++ Instruction.encodeAll m.instructions }, a)
    else .error region.overflow := by
  rw [perform, append, Instruction.length_encodeAll]
  split
  · cases m.outcome <;> rfl
  · rfl

/-- Appending what an emission emits is performing it, without the value it ends with. -/
lemma append_eq_perform (region : Region) (m : Emission α) :
    region.append m = (region.perform m).map Prod.fst := by
  rw [perform_eq, append, Instruction.length_encodeAll]
  split
  · cases m.outcome <;> rfl
  · rfl

/-- **Emissions are written one after the other.** An instruction that does not fit is found at the
same word, whether or not those in front of it are written before.

**Proof sketch.** If the first emission fits, the second is written behind it, and both fit just if
all their instructions do. If it does not, the word at which it is found to be too long is the same,
however much is to come. -/
theorem perform_bind (region : Region) (m : Emission α) (f : α → Emission β) :
    region.perform (m >>= f) =
      region.perform m >>= fun written => written.1.perform (f written.2) := by
  obtain ⟨l, fault | a⟩ := m
  · rw [error_bind, perform_eq, perform_eq]
    split <;> rfl
  · rw [ok_bind, perform_eq, perform_eq region, List.length_append]
    by_cases hl : region.position + 2 * l.length ≤ region.capacity
    · let middle : Region := { region with words := region.words ++ Instruction.encodeAll l }
      have hmiddle : middle.position = region.position + 2 * l.length := by
        simp only [middle, position, List.length_append, Instruction.length_encodeAll]
      rw [if_pos hl]
      show _ = middle.perform (f a)
      rw [perform_eq, hmiddle]
      by_cases hall :
          region.position + 2 * (l.length + (f a).instructions.length) ≤ region.capacity
      · have hrest : region.position + 2 * l.length + 2 * (f a).instructions.length ≤
            middle.capacity := by
          show _ ≤ region.capacity
          omega
        rw [if_pos hall, if_pos hrest, Instruction.encodeAll_append, ← List.append_assoc]
      · have hrest : ¬region.position + 2 * l.length + 2 * (f a).instructions.length ≤
            middle.capacity := by
          show ¬_ ≤ region.capacity
          omega
        have hoverflow : middle.overflow = region.overflow := by
          simp only [overflow, hmiddle]
          congr 1
          show _ + 2 * ((region.capacity - _) / 2) = _
          omega
        rw [if_neg hall, if_neg hrest, hoverflow]
    · rw [if_neg hl, if_neg (by omega)]
      rfl

/-- An emission of nothing writes nothing. -/
lemma perform_pure (h : region.Bounded) (a : α) : region.perform (pure a) = .ok (region, a) := by
  rw [perform_eq]
  refine (if_pos h).trans ?_
  show Except.ok (Region.mk _ (region.words ++ []), a) = _
  rw [List.append_nil]

/-- An emission that fails at once breaks off before it writes. -/
lemma perform_fail (h : region.Bounded) (fault : Fault) :
    region.perform (fail fault : Emission α) = .error fault := by
  rw [perform_eq]
  exact if_pos h

/-- What is taken from elsewhere writes nothing, and breaks off where it was broken off. -/
lemma perform_take (h : region.Bounded) (value : Except Fault α) :
    region.perform (take value) = value.map fun a => (region, a) := by
  rw [perform_eq]
  refine (if_pos h).trans ?_
  show value.map (fun a => (Region.mk _ (region.words ++ []), a)) = _
  rw [List.append_nil]

/-- A value is taken before anything is written. -/
lemma perform_take_bind (h : region.Bounded) (value : Except Fault α) (f : α → Emission β) :
    region.perform (take value >>= f) = value >>= fun a => region.perform (f a) := by
  rw [perform_bind, perform_take h]
  cases value <;> rfl

/-- An instruction is written as its two words. -/
lemma perform_emit_bind (region : Region) (i : Instruction) (f : Unit → Emission β) :
    region.perform (emit i >>= f) =
      region.push i.control i.address >>= fun next => next.perform (f ()) := by
  rw [perform_bind, perform_eq, push]
  show (if region.position + 2 ≤ region.capacity then _ else _) >>= _ = _
  split <;> rfl

/-- What is written next depends on a region that is not written beyond its end. -/
lemma push_bind_congr {f g : Region → Except Fault α}
    (h : ∀ next : Region, next.Bounded → f next = g next) :
    region.push control address >>= f = region.push control address >>= g := by
  unfold push
  split
  · next hroom =>
    refine h _ ?_
    rw [Bounded, position, List.length_append]
    exact hroom
  · rfl

/-! ## Lines -/

variable {cursor : Cursor} {bytes done todo : Nat} {mode : LineOffset} {layout : FieldLayout}

/-- **The rest of a split line is written as it is emitted.** No count is larger than what is left
of the line, and no start than what is written of it.

**Proof sketch.** Induction on the chunks. -/
theorem draftRest_eq (hregion : region.Bounded) (hbytes : done + todo < 4096) (index : Nat)
    (chunks : ScatterList) :
    region.draftRest index done todo chunks =
      region.perform (Field.continueLine index done todo chunks) := by
  induction chunks generalizing region index done todo with
  | nil => exact (perform_fail hregion _).symm
  | cons chunk rest ih =>
    unfold draftRest Field.continueLine
    split
    · next hshort =>
      rw [perform_take_bind hregion]
      congr 1
      funext address
      rw [perform_emit_bind, Opcode.packed_eq_control (by decide) (by omega) (by omega) address]
      exact push_bind_congr fun next hnext => ih hnext (by omega) (index + 1)
    · next hlong =>
      rw [perform_take_bind hregion]
      congr 1
      funext address
      rw [perform_emit_bind, Opcode.packed_eq_control (by decide) (by omega) (by omega) address]
      exact push_bind_congr fun next hnext => (perform_pure hnext _).symm

/-- **A line is written as it is emitted**, split or not.

**Proof sketch.** The same place is sought, and the same address taken. The first word is or-ed
together from parts that fit, so it is that of the instruction, and if the line is split the rest of
it is written as it is emitted. -/
theorem draftLine_eq (hregion : region.Bounded) (hbytes : bytes < 4096) (mode : LineOffset)
    (cursor : Cursor) :
    region.draftLine bytes mode cursor = region.perform (Field.line bytes mode cursor) := by
  unfold draftLine Field.line
  rw [perform_take_bind hregion]
  congr 1
  funext place
  rw [perform_take_bind hregion]
  dsimp only
  congr 1
  funext address
  split
  · have hstart : startOf mode place.offset < 4096 := by
      rcases mode with _ | _
      · exact Nat.succ_pos _
      · exact Nat.mod_lt _ (Nat.succ_pos _)
    have hfield :
        UInt16.ofNat (startOf mode place.offset) = Field.startField mode place.offset := by
      rcases mode with _ | _ <;> rfl
    rw [perform_emit_bind, Opcode.packed_eq_control (by decide) hstart hbytes address, hfield]
    exact push_bind_congr fun next hnext => (perform_pure hnext _).symm
  · next hsplit =>
    rw [perform_emit_bind,
      Opcode.packed_eq_control (by decide) (Nat.succ_pos _) (by omega) address]
    exact push_bind_congr fun next hnext => draftRest_eq hnext (by omega) _ _

/-! ## Flags -/

/-- The last instruction is flagged, and the others are not. -/
lemma flagLastOf_concat (l : List Instruction) (i : Instruction) :
    flagLastOf (l ++ [i]) = l ++ [i.flagged] := by
  induction l with
  | nil => rfl
  | cons first l ih =>
    obtain ⟨second, rest, hrest⟩ := List.exists_cons_of_ne_nil
      (List.append_ne_nil_of_right_ne_nil l (List.cons_ne_nil i []))
    rw [List.cons_append, hrest, flagLastOf, ← hrest, ih, List.cons_append]

/-- What is or-ed to the first word of an instruction behind other words. -/
lemma flagLast_concat (capacity : Nat) (words : List UInt32) (i : Instruction) :
    flagLast ⟨capacity, words ++ Instruction.encodeAll [i]⟩ =
      ⟨capacity, words ++ Instruction.encodeAll [i.flagged]⟩ := by
  have hlast : (words ++ Instruction.encodeAll [i]).length - 2 = words.length := by
    rw [List.length_append, Instruction.length_encodeAll]
    rfl
  have hsome : 2 ≤ (words ++ Instruction.encodeAll [i]).length := by
    rw [List.length_append, Instruction.length_encodeAll]
    exact Nat.le_add_left _ _
  rw [flagLast, position, if_pos hsome, hlast, List.modify_eq_take_drop, List.take_left,
    List.drop_left]
  simp only [Instruction.encodeAll, List.flatMap_cons, List.flatMap_nil, List.append_nil,
    List.modifyHead_cons, i.control_flagged]
  rfl

/-- Flagging the last instruction writes within what is written. -/
lemma Bounded.flagLast (h : region.Bounded) : region.flagLast.Bounded := by
  unfold Region.flagLast
  split
  · rw [Bounded, position, List.length_modify]
    exact h
  · exact h

/-- **The flag is or-ed to the instruction that was emitted last**, if anything was emitted. -/
theorem perform_flagLast (region : Region) {m : Emission α}
    (h : ∀ a, m.outcome = .ok a → m.instructions ≠ []) :
    region.perform (Emission.flagLast m) =
      (region.perform m).map fun written => (written.1.flagLast, written.2) := by
  have hlength : (Emission.flagLast m).instructions.length = m.instructions.length :=
    Field.length_flagLastOf _
  rw [perform_eq, perform_eq, hlength]
  split
  · obtain ⟨l, fault | a⟩ := m
    · rfl
    · obtain hnil | ⟨front, i, rfl⟩ := List.eq_nil_or_concat l
      · exact absurd hnil (h a rfl)
      · rw [List.concat_eq_append] at *
        have hflag := flagLast_concat region.capacity
          (region.words ++ Instruction.encodeAll front) i
        rw [List.append_assoc, List.append_assoc, ← Instruction.encodeAll_append,
          ← Instruction.encodeAll_append] at hflag
        simp only [Emission.flagLast, flagLastOf_concat, Except.map, hflag]
  · rfl

/-- A line with its end marked is written as it is emitted. -/
lemma draftNumbered_eq (hregion : region.Bounded) (hbytes : layout.lineBytes < 4096)
    (mode : LineOffset) (n : Nat) (cursor : Cursor) :
    region.perform (Field.numberedLine layout mode n cursor) =
      (region.draftLine layout.lineBytes mode cursor).map fun written =>
        (if Field.interrupts layout n then written.1.flagLast else written.1, written.2) := by
  rw [draftLine_eq hregion hbytes, Field.numberedLine]
  split
  · refine perform_flagLast region fun next hnext hnil => ?_
    have hpos := Field.length_line_pos hnext
    rw [hnil] at hpos
    cases hpos
  · cases region.perform (Field.line layout.lineBytes mode cursor) <;> rfl

/-- What a line leaves is not written beyond its end. -/
lemma bounded_of_perform {m : Emission α} {a : α} (h : region.perform m = .ok (next, a)) :
    next.Bounded := by
  rw [perform_eq] at h
  split at h
  · next hroom =>
    obtain ⟨l, fault | b⟩ := m
    · cases h
    · obtain ⟨rfl, -⟩ := Prod.mk.inj (Except.ok.inj h)
      rw [Bounded, position, List.length_append, Instruction.length_encodeAll]
      exact hroom
  · cases h

/-- **Lines are written as they are emitted.**

**Proof sketch.** Induction on the number of lines. -/
theorem draftLines_eq (hregion : region.Bounded) (hbytes : layout.lineBytes < 4096)
    (mode : LineOffset) (count n : Nat) (cursor : Cursor) :
    draftLines layout mode count n region cursor =
      region.perform (Field.lines layout mode count n cursor) := by
  induction count generalizing n region cursor with
  | zero => exact (perform_pure hregion cursor).symm
  | succ count ih =>
    rw [draftLines, Field.lines, perform_bind, draftNumbered_eq hregion hbytes]
    cases hline : region.draftLine layout.lineBytes mode cursor with
    | error fault => rfl
    | ok written =>
      have hnext : written.1.Bounded := by
        rw [draftLine_eq hregion hbytes] at hline
        exact bounded_of_perform hline
      have hflagged : (if Field.interrupts layout n then written.1.flagLast
          else written.1).Bounded := by
        split
        · exact hnext.flagLast
        · exact hnext
      refine Eq.trans ?_ (perform_take_bind hflagged (written.2.pad layout.padding) _).symm
      -- nothing is written between the line and its padding, so the flag may be put on before
      show (written.2.pad layout.padding >>= fun padded => _) = _
      congr 1
      funext padded
      exact ih hflagged (n + 1) padded

/-- What a field leaves is not written beyond its end. -/
lemma bounded_of_field {chunks : ScatterList} (h : region.field layout chunks mode = .ok next) :
    next.Bounded := by
  rw [field_eq_append, append_eq_perform] at h
  cases hperform : region.perform (layout.emission chunks mode) with
  | error fault =>
    rw [hperform] at h
    cases h
  | ok written =>
    rw [hperform] at h
    obtain rfl := Except.ok.inj h
    exact bounded_of_perform hperform

/-- Nor is a region to which a field could be written. -/
lemma bounded_of_field_eq_ok {chunks : ScatterList}
    (h : region.field layout chunks mode = .ok next) : region.Bounded := by
  rw [field_eq_append, append_eq_perform, perform_eq] at h
  split at h
  · next hroom => exact Nat.le_of_add_right_le hroom
  · cases h

/-- **A field written word by word is the field**, down to the fault that breaks it off.

**Proof sketch.** A line that cannot be encoded is refused in both. Otherwise the word to wait for
the field is that of its instruction, and the lines behind it are written as they are emitted. -/
theorem draft_eq_field (hregion : region.Bounded) (layout : FieldLayout) (chunks : ScatterList)
    (mode : LineOffset) :
    region.draft layout chunks mode = region.field layout chunks mode := by
  rw [field_eq_append, append_eq_perform, FieldLayout.emission, FieldLayout.emissionOf,
    FieldLayout.preamble, draft]
  split
  · exact (congrArg (Except.map Prod.fst) (perform_fail hregion _)).symm
  · next hencodable =>
    have hbytes : layout.lineBytes < 4096 := by
      simp only [Instruction.maxCount] at hencodable
      omega
    have hlines : ∀ next : Region, next.Bounded →
        (do
          let (last, _) ← draftLines layout mode layout.lines 0 next ⟨0, chunks, layout.offset⟩
          return last) =
          (next.perform (Field.lines layout mode layout.lines 0
            ⟨0, chunks, layout.offset⟩)).map Prod.fst := by
      intro next hnext
      rw [draftLines_eq hnext hbytes]
      cases next.perform _ <;> rfl
    cases layout.sync with
    | none => exact hlines region hregion
    | some parity =>
      have hword : parity.opcode.packed 0 0 0 = Instruction.control { opcode := parity.opcode } :=
        Opcode.packed_eq_control (by decide) (by decide) (by decide) 0
      dsimp only
      rw [perform_emit_bind, hword]
      refine (push_bind_congr hlines).trans ?_
      cases region.push _ _ <;> rfl

end Region

end VideoCapture
