import VideoCapture.Proofs.Engine.Tuning
import VideoCapture.Register.Window

/-!
# Registers in slots and in bytes

A register file keeps words of four bytes each, and shifts a byte to its place in a word and back. A
mapped window keeps bytes, and puts a word together from four of them. Nobody can tell the two from
each other by reading, whatever is written to both, be it words, parts of words or bytes next to
each other in one word: a byte of the window is always the one at the same place in its word of the
file. Only a word that is written to the interrupt status would be taken differently, as the file
clears bits then, and so would one that is not aligned.

## Main definitions

* `VideoCapture.RegisterAccess.Request.performAll` — makes one access after the other.
* `VideoCapture.RegisterAccess.Request.Regular` — an access that both kinds of registers take alike.
* `VideoCapture.RegisterFile.Mirrors` — a register file and a window have the same bytes.

## Main results

* `VideoCapture.RegisterFile.read8_write8_of_ne` — a byte leaves its neighbours alone.
* `VideoCapture.RegisterFile.Mirrors.read32`, `VideoCapture.RegisterFile.Mirrors.write8`,
  `VideoCapture.RegisterFile.Mirrors.write32` — reading and writing in both.
* `VideoCapture.RegisterFile.Mirrors.perform` — one access.
* `VideoCapture.RegisterAccess.Request.performAll_agree` — any number of them.
-/

set_option autoImplicit false

namespace VideoCapture

/-! ## Words and bytes -/

/-- A word is its four bytes. -/
lemma word_eq_bytes (value : UInt32) :
    value = value.toUInt8.toUInt32 ||| (value >>> 8).toUInt8.toUInt32 <<< 8 |||
      (value >>> 16).toUInt8.toUInt32 <<< 16 ||| (value >>> 24).toUInt8.toUInt32 <<< 24 := by
  rw [← UInt32.toBitVec_inj]
  ext i hi
  simp [-UInt32.toUInt32_toUInt8]
  grind

namespace RegisterFile

variable {regs : RegisterFile} {offset other k : Nat}

/-- A byte that is put into its lane of a word does not show in the other lanes. -/
lemma toUInt8_merge_lane (old : UInt32) (value : UInt8) (h : offset % 4 ≠ other % 4) :
    (((old &&& ~~~((0xff : UInt32) <<< lane offset)) ||| (value.toUInt32 <<< lane offset)) >>>
      lane other).toUInt8 = (old >>> lane other).toUInt8 := by
  rw [← UInt8.toBitVec_inj]
  ext i hi
  have hinside : 8 * (other % 4) % 32 + i < 32 := by omega
  obtain hbelow | habove := Nat.lt_or_gt_of_ne h
  · -- the bit lies above the lane that is written, where neither mask nor byte has any
    have hout : 8 ≤ 8 * (other % 4) % 32 + i - 8 * (offset % 4) % 32 := by omega
    have hmask : (255#32).getLsbD (8 * (other % 4) % 32 + i - 8 * (offset % 4) % 32) = false := by
      rw [show (255#32) = (255#8).setWidth 32 from rfl, BitVec.getLsbD_setWidth,
        BitVec.getLsbD_of_ge _ _ hout, Bool.and_false]
    have hbyte : value.toBitVec.getLsbD (8 * (other % 4) % 32 + i - 8 * (offset % 4) % 32) =
        false := BitVec.getLsbD_of_ge _ _ hout
    simp [-BitVec.getLsbD_eq_getElem, toNat_lane, hmask, hbyte, hinside]
  · have hbelow : 8 * (other % 4) % 32 + i < 8 * (offset % 4) % 32 := by omega
    simp [toNat_lane, hbelow, hinside]

/-- **A byte that is written leaves the others alone**, those of its own slot included. -/
lemma read8_write8_of_ne (regs : RegisterFile) (value : UInt8) (h : offset < Register.space)
    (hne : offset ≠ other) : (regs.write8 offset value).read8 other = regs.read8 other := by
  by_cases hslots : offset / 4 = other / 4
  · have hslot : (regs.write8 offset value).slot (other / 4) =
        (regs.slot (other / 4) &&& ~~~((0xff : UInt32) <<< lane offset)) |||
          (value.toUInt32 <<< lane offset) := by
      rw [← hslots]
      refine slot_setSlot regs _ ?_
      simp only [Register.space] at h ⊢
      omega
    rw [read8, hslot, toUInt8_merge_lane _ _ (by omega), read8]
  · exact read8_congr (slot_write8_ne regs value hslots)

/-- What is read after a byte was written. -/
lemma read8_write8_ite (regs : RegisterFile) (value : UInt8) (h : offset < Register.space) :
    (regs.write8 offset value).read8 other =
      if offset = other then value else regs.read8 other := by
  split
  · next heq => exact heq ▸ regs.read8_write8 value h
  · next hne => exact regs.read8_write8_of_ne value h hne

/-- The bytes of a slot are those of its word. -/
lemma read8_add (regs : RegisterFile) (haligned : 4 ∣ offset) (hk : k < 4) :
    regs.read8 (offset + k) = (regs.slot (offset / 4) >>> UInt32.ofNat (8 * k)).toUInt8 := by
  have hslot : (offset + k) / 4 = offset / 4 := by omega
  have hlane : lane (offset + k) = UInt32.ofNat (8 * k) := by
    refine UInt32.toNat_inj.mp ?_
    rw [toNat_lane, UInt32.toNat_ofNat_of_lt' (by simp only [UInt32.size]; omega)]
    omega
  rw [read8, hslot, hlane]

/-- A word that is written to a register other than the interrupt status shows in its bytes, as if
these were written one by one. -/
lemma read8_write32 (regs : RegisterFile) (value : UInt32) (haligned : 4 ∣ offset)
    (hinside : offset + 4 ≤ Register.space) (hplain : offset ≠ Register.interruptStatus) :
    (regs.write32 offset value).read8 other =
      ((((regs.write8 offset value.toUInt8).write8 (offset + 1) (value >>> 8).toUInt8).write8
        (offset + 2) (value >>> 16).toUInt8).write8 (offset + 3) (value >>> 24).toUInt8).read8
        other := by
  rw [read8_write8_ite _ _ (by omega), read8_write8_ite _ _ (by omega),
    read8_write8_ite _ _ (by omega), read8_write8_ite _ _ (by omega)]
  by_cases hslots : offset / 4 = other / 4
  · obtain ⟨k, hk, rfl⟩ : ∃ k < 4, other = offset + k := ⟨other - offset, by omega, by omega⟩
    have hslot : (regs.write32 offset value).slot (offset / 4) = value := by
      have hread := regs.read32_write32 value (by omega) hplain
      rwa [read32, if_neg hplain] at hread
    rw [read8_add _ haligned hk, hslot]
    -- of the four bytes written, one is at each place of the slot
    obtain rfl | rfl | rfl | rfl : k = 0 ∨ k = 1 ∨ k = 2 ∨ k = 3 := by omega
    all_goals simp
  · rw [if_neg (by omega), if_neg (by omega), if_neg (by omega), if_neg (by omega)]
    exact read8_congr (slot_setSlot_ne regs _ hslots)

end RegisterFile

namespace Window

variable {window : Window} {offset other : Nat}

/-- A window is as long after a byte is written. -/
@[simp] lemma length_write8 (window : Window) (offset : Nat) (value : UInt8) :
    (window.write8 offset value).bytes.length = window.bytes.length :=
  List.length_set

/-- A byte that is written is read back, and so are the others. -/
lemma read8_write8 (value : UInt8) (h : offset < window.bytes.length) :
    (window.write8 offset value).read8 other =
      if offset = other then value else window.read8 other := by
  rw [read8, write8, List.getElem?_set, if_pos h]
  split
  · rfl
  · rfl

end Window

/-! ## The same bytes -/

namespace RegisterFile

/-- A register file and a window of its size have the same bytes, and the file holds no status bits
up. -/
structure Mirrors (regs : RegisterFile) (window : Window) : Prop where
  /-- The window is as large as the file. -/
  length : window.bytes.length = Register.space
  /-- No bits of the interrupt status are held up. -/
  stuck : regs.stuck = 0
  /-- The bytes are the same. -/
  read8 : ∀ offset < Register.space, regs.read8 offset = window.read8 offset

variable {regs : RegisterFile} {window : Window} {offset : Nat}

/-- In the beginning everything is zero. -/
lemma mirrors_zeroed : ({} : RegisterFile).Mirrors (Window.zeroed Register.space) where
  length := List.length_replicate
  stuck := rfl
  read8 offset h := by
    have hslot : ({} : RegisterFile).slot (offset / 4) = 0 := by
      rw [slot, Vector.getElem?_replicate]
      split <;> rfl
    have hbyte : (Window.zeroed Register.space).read8 offset = 0 := by
      rw [Window.read8, Window.zeroed, List.getElem?_replicate_of_lt h, Option.getD_some]
    rw [hbyte, RegisterFile.read8, hslot, UInt32.zero_shiftRight]
    rfl

namespace Mirrors

/-- **Words are read alike.** -/
theorem read32 (h : regs.Mirrors window) (haligned : 4 ∣ offset)
    (hinside : offset + 4 ≤ Register.space) : regs.read32 offset = window.read32 offset := by
  have hbyte : ∀ k < 4, window.read8 (offset + k) =
      (regs.slot (offset / 4) >>> UInt32.ofNat (8 * k)).toUInt8 := fun k hk =>
    (h.read8 _ (by omega)).symm.trans (regs.read8_add haligned hk)
  have hslot : regs.read32 offset = regs.slot (offset / 4) := by
    unfold RegisterFile.read32
    split
    · rw [h.stuck, UInt32.or_zero]
    · rfl
  rw [hslot, Window.read32, hbyte 1 (by decide), hbyte 2 (by decide), hbyte 3 (by decide),
    show window.read8 offset = _ from hbyte 0 (by decide)]
  exact word_eq_bytes (regs.slot (offset / 4))

/-- **Bytes are written alike.** -/
theorem write8 (h : regs.Mirrors window) (hinside : offset < Register.space) (value : UInt8) :
    (regs.write8 offset value).Mirrors (window.write8 offset value) where
  length := (window.length_write8 offset value).trans h.length
  stuck := h.stuck
  read8 other hother := by
    rw [Window.read8_write8 value (h.length ▸ hinside), regs.read8_write8_ite value hinside,
      h.read8 other hother]

/-- **Words are written alike**, except to the interrupt status: the window stores them byte by
byte. -/
theorem write32 (h : regs.Mirrors window) (haligned : 4 ∣ offset)
    (hinside : offset + 4 ≤ Register.space) (hplain : offset ≠ Register.interruptStatus)
    (value : UInt32) : (regs.write32 offset value).Mirrors (window.write32 offset value) := by
  have hfirst := h.write8 (show offset < _ by omega) value.toUInt8
  have hsecond := hfirst.write8 (show offset + 1 < _ by omega) (value >>> 8).toUInt8
  have hthird := hsecond.write8 (show offset + 2 < _ by omega) (value >>> 16).toUInt8
  have hbytes := hthird.write8 (show offset + 3 < _ by omega) (value >>> 24).toUInt8
  refine ⟨hbytes.length, h.stuck, fun other hother => ?_⟩
  rw [regs.read8_write32 value haligned hinside hplain, hbytes.read8 other hother]
  rfl

end Mirrors

end RegisterFile

/-! ## Accesses one after the other -/

namespace RegisterAccess.Request

variable {ρ : Type} [RegisterAccess ρ]

/-- Makes one access after the other: what each answers, and the registers afterwards. -/
def performAll (regs : ρ) : List Request → Except Fault (List (Option Nat) × ρ)
  | [] => .ok ([], regs)
  | request :: rest => do
    let (answer, regs) ← request.perform regs
    let (answers, regs) ← performAll regs rest
    return (answer :: answers, regs)

/-- Whether an access writes a word, or merges into one. -/
def writesWord : Request → Bool
  | .write32 _ _ | .set32 _ _ | .clear32 _ _ | .merge32 _ _ _ => true
  | .read32 _ | .read8 _ | .write8 _ _ | .merge8 _ _ _ => false

/-- An access within the registers that is aligned, and does not write a word to the interrupt
status. -/
structure Regular (request : Request) : Prop where
  /-- All its bytes are registers. -/
  inside : request.offset + request.width ≤ Register.space
  /-- A word is aligned. -/
  aligned : request.width = 4 → 4 ∣ request.offset
  /-- The interrupt status is not written as a word. -/
  plain : request.writesWord = true → request.offset ≠ Register.interruptStatus

instance (request : Request) : Decidable request.Regular :=
  decidable_of_iff (request.offset + request.width ≤ Register.space ∧
      (request.width = 4 → 4 ∣ request.offset) ∧
      (request.writesWord = true → request.offset ≠ Register.interruptStatus))
    ⟨fun ⟨hinside, haligned, hplain⟩ => ⟨hinside, haligned, hplain⟩,
      fun ⟨hinside, haligned, hplain⟩ => ⟨hinside, haligned, hplain⟩⟩

end RegisterAccess.Request

namespace RegisterFile.Mirrors

open RegisterAccess

variable {regs : RegisterFile} {window : Window} {request : Request}

/-- Reads answer alike. -/
lemma answer_eq (h : regs.Mirrors window) (hregular : request.Regular) :
    request.answer regs = request.answer window := by
  obtain ⟨hinside, haligned, -⟩ := hregular
  cases request with
  | read32 offset => exact congrArg (some ·.toNat) (h.read32 (haligned rfl) hinside)
  | read8 offset => exact congrArg (some ·.toNat) (h.read8 offset hinside)
  | write32 | write8 | set32 | clear32 | merge32 | merge8 => rfl

/-- A merge into a word reads and writes alike. -/
lemma merge32 {offset : Nat} (h : regs.Mirrors window) (haligned : 4 ∣ offset)
    (hinside : offset + 4 ≤ Register.space) (hplain : offset ≠ Register.interruptStatus)
    (mask value : UInt32) :
    (RegisterAccess.merge32 regs offset mask value).Mirrors
      (RegisterAccess.merge32 window offset mask value) := by
  have hread : RegisterAccess.read32 regs offset = RegisterAccess.read32 window offset :=
    h.read32 haligned hinside
  unfold RegisterAccess.merge32
  rw [hread]
  exact h.write32 haligned hinside hplain _

/-- What an access leaves is the same. -/
lemma apply (h : regs.Mirrors window) (hregular : request.Regular) :
    (request.apply regs).Mirrors (request.apply window) := by
  obtain ⟨hinside, haligned, hplain⟩ := hregular
  cases request with
  | read32 | read8 => exact h
  | write32 offset value => exact h.write32 (haligned rfl) hinside (hplain rfl) value
  | write8 offset value => exact h.write8 hinside value
  | set32 offset bits => exact h.merge32 (haligned rfl) hinside (hplain rfl) bits bits
  | clear32 offset bits => exact h.merge32 (haligned rfl) hinside (hplain rfl) bits 0
  | merge32 offset mask value => exact h.merge32 (haligned rfl) hinside (hplain rfl) mask value
  | merge8 offset mask value =>
    have hread : RegisterAccess.read8 regs offset = RegisterAccess.read8 window offset :=
      h.read8 offset hinside
    simp only [Request.apply, RegisterAccess.merge8, hread]
    exact h.write8 hinside _

/-- **A regular access is made in both**, answers the same and leaves the same. -/
theorem perform (h : regs.Mirrors window) (hregular : request.Regular) :
    request.perform regs = .ok (request.answer regs, request.apply regs) ∧
      request.perform window = .ok (request.answer regs, request.apply window) ∧
      (request.apply regs).Mirrors (request.apply window) := by
  have hinside := hregular.inside
  have hwidth : 0 < request.width := by cases request <;> exact Nat.succ_pos _
  have hfile : RegisterAccess.permit regs request.offset request.width = .ok () :=
    if_pos (Nat.lt_of_lt_of_le (Nat.lt_add_of_pos_right hwidth) hinside)
  have hwindow : RegisterAccess.permit window request.offset request.width = .ok () :=
    if_pos (h.length ▸ hinside)
  refine ⟨?_, ?_, h.apply hregular⟩
  · rw [Request.perform, hfile]
    rfl
  · rw [Request.perform, hwindow, h.answer_eq hregular]
    rfl

/-- **So are any number of regular accesses**, one after the other.

**Proof sketch.** Induction on the accesses. -/
theorem performAll (h : regs.Mirrors window) {requests : List Request}
    (hregular : ∀ request ∈ requests, request.Regular) :
    ∃ answers regs' window', Request.performAll regs requests = .ok (answers, regs') ∧
      Request.performAll window requests = .ok (answers, window') ∧ regs'.Mirrors window' := by
  induction requests generalizing regs window with
  | nil => exact ⟨[], regs, window, rfl, rfl, h⟩
  | cons request rest ih =>
    obtain ⟨hfirst, hrest⟩ := List.forall_mem_cons.mp hregular
    obtain ⟨hfile, hwindow, hnext⟩ := h.perform hfirst
    obtain ⟨answers, regs', window', hfile', hwindow', hlast⟩ := ih hnext hrest
    refine ⟨request.answer regs :: answers, regs', window', ?_, ?_, hlast⟩
    · exact bind_eq_ok.mpr ⟨_, hfile, bind_eq_ok.mpr ⟨_, hfile', rfl⟩⟩
    · exact bind_eq_ok.mpr ⟨_, hwindow, bind_eq_ok.mpr ⟨_, hwindow', rfl⟩⟩

end RegisterFile.Mirrors

namespace RegisterAccess.Request

/-- **A register file and a mapped window of its size cannot be told from each other by reading.**
Whatever is read, written and merged, 8 and 32 bits at a time, from all zeros on, both answer every
read with the same value, and refuse nothing, as long as all accesses are regular. -/
theorem performAll_agree {requests : List Request}
    (hregular : ∀ request ∈ requests, request.Regular) :
    ∃ answers regs window, performAll ({} : RegisterFile) requests = .ok (answers, regs) ∧
      performAll (Window.zeroed Register.space) requests = .ok (answers, window) ∧
      regs.Mirrors window :=
  RegisterFile.mirrors_zeroed.performAll hregular

/-- Accesses of all kinds and both widths, to the interrupt status and the register behind it. -/
def mixed : List Request :=
  [.write8 0x1d 0xab, .write8 0x1c 0xcd, .read32 0x1c, .merge8 0x1d 0x0f 0x05, .read8 0x1d,
    .write32 0x20 0xdeadbeef, .set32 0x20 0x10, .clear32 0x20 0xf0000000,
    .merge32 0x20 0xff00 0x1200, .read8 0x21, .read32 0x20]

/-- What both answer when bytes next to each other are written, and words are merged into. -/
theorem performAll_agree_mixed :
    (∀ request ∈ mixed, request.Regular) ∧
      ∃ regs window, performAll ({} : RegisterFile) mixed =
          .ok ([none, none, some 0xabcd, none, some 0xa5, none, none, none, none, some 0x12,
            some 0x0ead12ff], regs) ∧
        performAll (Window.zeroed Register.space) mixed =
          .ok ([none, none, some 0xabcd, none, some 0xa5, none, none, none, none, some 0x12,
            some 0x0ead12ff], window) ∧
        regs.Mirrors window := by
  have hregular : ∀ request ∈ mixed, request.Regular := by decide
  obtain ⟨answers, regs, window, hregs, hwindow, hmirrors⟩ := performAll_agree hregular
  have hanswers : ((performAll ({} : RegisterFile) mixed).map Prod.fst).toOption =
      some [none, none, some 0xabcd, none, some 0xa5, none, none, none, none, some 0x12,
        some 0x0ead12ff] := by decide +kernel
  rw [hregs] at hanswers
  obtain rfl := Option.some.inj hanswers
  exact ⟨hregular, regs, window, hregs, hwindow, hmirrors⟩

end RegisterAccess.Request

end VideoCapture
