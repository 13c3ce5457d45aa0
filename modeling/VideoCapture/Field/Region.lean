import VideoCapture.Field.Lines

/-!
# Writing instructions into memory

A region is a run of words of fixed capacity that is filled from the front with instructions. An
instruction that does not fit is a fault at the word where it would have started.

## Main definitions

* `VideoCapture.Region` — the words written so far, and how many there is room for.
* `VideoCapture.Region.append` — writes what an emission emits.
* `VideoCapture.Region.push` — writes one pair of words.
* `VideoCapture.Region.field` — writes the instructions of a field.

## Main results

* `VideoCapture.Region.field_eq_append` — writing a field is writing all that its layout emits.
-/

set_option autoImplicit false

namespace VideoCapture

/-- A region of memory being filled with instructions. -/
structure Region where
  /-- Words that fit. -/
  capacity : Nat
  /-- Words written so far. -/
  words : List UInt32

namespace Region

/-- A region of which nothing is written. -/
def blank (capacity : Nat) : Region :=
  ⟨capacity, []⟩

/-- The word that is written next. -/
def position (region : Region) : Nat :=
  region.words.length

/-- The fault of the first instruction that no longer fits. -/
def overflow (region : Region) : Fault :=
  let room := region.capacity - region.position
  .instructionOverflow (region.position + 2 * (room / 2)) region.capacity

/-- Writes the instructions of an emission. If they do not all fit, the first that does not is the
fault; otherwise the emission's own end counts. -/
def append {α : Type} (region : Region) (emission : Emission α) : Except Fault Region :=
  let words := Instruction.encodeAll emission.instructions
  if region.position + words.length ≤ region.capacity then do
    let _ ← emission.outcome
    return { region with words := region.words ++ words }
  else .error region.overflow

/-- Writes a pair of words. -/
def push (region : Region) (control address : UInt32) : Except Fault Region :=
  if region.position + 2 ≤ region.capacity then
    .ok { region with words := region.words ++ [control, address] }
  else .error region.overflow

/-! ## Fields -/

/-- The most lines of a field that can matter to a region: with one more than there is room for
instructions, the field is sure to overflow. -/
def lineLimit (region : Region) : Nat :=
  region.capacity / 2 + 1

/-- Writes the instructions of a field. No more lines are looked at than can matter. -/
def field (region : Region) (layout : FieldLayout) (chunks : ScatterList) (mode : LineOffset) :
    Except Fault Region :=
  region.append (layout.emissionOf chunks mode (min layout.lines region.lineLimit))

/-- An emission that breaks off, or is too long for a region, is written the same way whatever would
follow it. -/
theorem append_bind {α β : Type} (region : Region) (m : Emission α) (next : α → Emission β)
    (h : ∀ a, m.outcome = .ok a → region.capacity < region.position + 2 * m.instructions.length) :
    region.append (m >>= next) = region.append m := by
  obtain ⟨l, fault | a⟩ := m
  · rfl
  · have hl := h a rfl
    simp only at hl
    simp only [Emission.ok_bind, append, Instruction.length_encodeAll, List.length_append]
    rw [if_neg (by omega), if_neg (by omega)]

/-- Writing a field is writing everything that its layout emits. -/
theorem field_eq_append (region : Region) (layout : FieldLayout) (chunks : ScatterList)
    (mode : LineOffset) :
    region.field layout chunks mode = region.append (layout.emission chunks mode) := by
  unfold field FieldLayout.emission
  by_cases hle : layout.lines ≤ region.lineLimit
  · rw [Nat.min_eq_left hle]
  · rw [Nat.min_eq_right (by omega),
      show layout.lines = region.lineLimit + (layout.lines - region.lineLimit) by omega,
      FieldLayout.emissionOf_add, append_bind]
    intro next hnext
    have hlen := FieldLayout.le_length_emissionOf hnext
    simp only [lineLimit] at hlen ⊢
    omega

end Region

end VideoCapture
