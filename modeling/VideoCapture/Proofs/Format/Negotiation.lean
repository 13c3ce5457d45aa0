import VideoCapture.Proofs.Program.Room

/-!
# What negotiation delivers

Whatever an opener wishes for, it gets a geometry that the norm can deliver, as long as the pixel
format is known. Its fields are resolved, its lines end on a multiple of four pixels, the norm
accepts its size, and a single field has half of the lines at most. These are all the geometries
that there are to get: who wishes for one of them gets it.

## Main definitions

* `VideoCapture.Geometry.wish` — the wish for a geometry.
* `VideoCapture.Geometry.Deliverable` — what a norm can deliver.
* `VideoCapture.FormatRequest.Settled` — what becomes of a wish.

## Main results

* `VideoCapture.FormatRequest.exists_negotiate_iff` — which wishes are granted.
* `VideoCapture.FormatRequest.deliverable_of_negotiate` — what is granted can be delivered.
* `VideoCapture.Geometry.Deliverable.negotiate_eq` — what can be delivered is granted as it is.
* `VideoCapture.Geometry.Deliverable.capturable` — the chip can capture it.
* `VideoCapture.FormatRequest.settled` — all this, for every wish and every norm.
-/

set_option autoImplicit false

namespace VideoCapture

variable {n : Norm} {g : Geometry} {request : FormatRequest}

/-- The wish for a geometry. -/
def Geometry.wish (g : Geometry) : FormatRequest where
  width := g.width
  height := g.height
  code := g.format.code
  field := g.field

/-- A norm can deliver a geometry. -/
structure Geometry.Deliverable (g : Geometry) (n : Norm) : Prop where
  /-- The format is the one that its code stands for. -/
  format : PixelFormat.find? g.format.code = some g.format
  /-- It is settled which fields there are. -/
  field : g.field ≠ .any
  /-- The lines end on a multiple of four pixels. -/
  aligned : 4 ∣ g.width
  /-- The norm accepts the size. -/
  accepts : n.accepts g.width g.height = true
  /-- A single field has half of the lines at most. -/
  single : g.field.hasBoth = false → g.height ≤ n.height / 2

/-! ## Norms and formats -/

/-- The norms of the decoder leave something to choose from, in single fields too. -/
lemma Norm.roomy_of_mem_all : ∀ n ∈ Norm.all, minWidth ≤ n.width ∧ minHeight ≤ n.height / 2 := by
  decide

/-- A code stands for one format of the chip. -/
lemma PixelFormat.find?_code : ∀ f ∈ PixelFormat.all, find? f.code = some f := by
  decide

/-- A format that was found is one of the chip's, and has the code looked for. -/
lemma PixelFormat.mem_of_find? {code : UInt32} {f : PixelFormat} (h : find? code = some f) :
    f ∈ PixelFormat.all ∧ f.code = code :=
  ⟨List.mem_of_find?_eq_some h, by simpa using List.find?_some h⟩

/-- A format is found if and only if one of the chip's has the code. -/
lemma PixelFormat.exists_find?_iff {code : UInt32} :
    (∃ f, find? code = some f) ↔ ∃ f ∈ PixelFormat.all, f.code = code := by
  constructor
  · rintro ⟨f, hf⟩
    exact ⟨f, mem_of_find? hf⟩
  · rintro ⟨f, hf, rfl⟩
    exact ⟨f, find?_code f hf⟩

/-- The nearest number in a range that is not empty. -/
lemma clamp_eq_ok {lo hi k : Nat} (h : lo ≤ hi) : clamp lo hi k = .ok (min (max k lo) hi) :=
  if_neg (Nat.not_lt.mpr h)

namespace FormatRequest

/-! ## Negotiation -/

/-- No wish leaves the fields open in the end. -/
lemma resolvedField_ne_any (request : FormatRequest) (n : Norm) :
    request.resolvedField n ≠ .any := by
  unfold resolvedField
  split
  · split <;> nofun
  · next hmode => exact hmode

/-- A wish without a field left open keeps its fields. -/
lemma resolvedField_of_ne_any (h : request.field ≠ .any) :
    request.resolvedField n = request.field := by
  unfold resolvedField
  split
  · next hany => exact absurd hany h
  · rfl

/-- The lines that there are at most for the fields. -/
def maxHeight (n : Norm) (field : FieldMode) : Nat :=
  if field.hasBoth then n.height else n.height / 2

/-- They leave something to choose from. -/
lemma maxHeight_bounds (hn : n ∈ Norm.all) (field : FieldMode) :
    minHeight ≤ maxHeight n field ∧ maxHeight n field ≤ n.height := by
  obtain ⟨-, hhalf⟩ := n.roomy_of_mem_all hn
  unfold maxHeight
  split <;> omega

/-- What negotiation with a norm of the decoder comes to. -/
lemma negotiate_eq (hn : n ∈ Norm.all) (request : FormatRequest) :
    request.negotiate n = .ok (match PixelFormat.find? request.code with
      | none => .error .invalidArgument
      | some format => .ok {
          width := min (max request.width minWidth) n.width / 4 * 4
          height := min (max request.height minHeight) (maxHeight n (request.resolvedField n))
          format
          field := request.resolvedField n }) := by
  obtain ⟨hwidth, -⟩ := n.roomy_of_mem_all hn
  obtain ⟨hheight, -⟩ := maxHeight_bounds hn (request.resolvedField n)
  unfold negotiate
  cases PixelFormat.find? request.code with
  | none => rfl
  | some format =>
    dsimp only
    rw [show (if (request.resolvedField n).hasBoth = true then n.height else n.height / 2) =
      maxHeight n (request.resolvedField n) from rfl, clamp_eq_ok hheight, clamp_eq_ok hwidth]
    rfl

/-- **A wish is granted if and only if its format is one of the chip's.** -/
theorem exists_negotiate_iff (hn : n ∈ Norm.all) (request : FormatRequest) :
    (∃ g, request.negotiate n = .ok (.ok g)) ↔ ∃ f ∈ PixelFormat.all, f.code = request.code := by
  rw [negotiate_eq hn, ← PixelFormat.exists_find?_iff]
  cases PixelFormat.find? request.code with
  | none => simp
  | some format => simp

/-- A wish that is not granted is refused for its format. -/
lemma negotiate_eq_error (hn : n ∈ Norm.all)
    (h : ¬∃ f ∈ PixelFormat.all, f.code = request.code) :
    request.negotiate n = .ok (.error .invalidArgument) := by
  rw [negotiate_eq hn]
  cases hfind : PixelFormat.find? request.code with
  | none => rfl
  | some format => exact absurd (PixelFormat.exists_find?_iff.mp ⟨format, hfind⟩) h

/-- **What is granted can be delivered**, in the format wished for.

**Proof sketch.** The size is clamped into what the norm accepts, the width to a multiple of four,
and a field mode that was left open is resolved first. -/
theorem deliverable_of_negotiate (hn : n ∈ Norm.all)
    (h : request.negotiate n = .ok (.ok g)) :
    g.format.code = request.code ∧ g.Deliverable n := by
  obtain ⟨hwidth, -⟩ := n.roomy_of_mem_all hn
  obtain ⟨hmin, hmax⟩ := maxHeight_bounds hn (request.resolvedField n)
  rw [negotiate_eq hn] at h
  cases hfind : PixelFormat.find? request.code with
  | none =>
    rw [hfind] at h
    cases h
  | some format =>
    rw [hfind] at h
    obtain rfl := Except.ok.inj (Except.ok.inj h)
    obtain ⟨-, hcode⟩ := PixelFormat.mem_of_find? hfind
    refine ⟨hcode, hcode ▸ hfind, resolvedField_ne_any request n, Nat.dvd_mul_left 4 _, ?_, ?_⟩
    · simp only [Norm.accepts, minWidth, minHeight, Bool.and_eq_true, decide_eq_true_eq]
        at hwidth hmin ⊢
      omega
    · intro hsingle
      dsimp only at hsingle ⊢
      rw [maxHeight, hsingle, if_neg Bool.false_ne_true]
      exact Nat.min_le_right _ _

end FormatRequest

namespace Geometry.Deliverable

/-- **What can be delivered is granted as it is.** -/
theorem negotiate_eq (hn : n ∈ Norm.all) (h : g.Deliverable n) :
    g.wish.negotiate n = .ok (.ok g) := by
  have haccepts := h.accepts
  simp only [Norm.accepts, Bool.and_eq_true, decide_eq_true_eq] at haccepts
  obtain ⟨⟨⟨hminWidth, hwidth⟩, hminHeight⟩, hheight⟩ := haccepts
  have hfield : g.wish.resolvedField n = g.field := FormatRequest.resolvedField_of_ne_any h.field
  have hmax : g.height ≤ FormatRequest.maxHeight n g.field := by
    unfold FormatRequest.maxHeight
    split
    · exact hheight
    · next hsingle => exact h.single (by simpa using hsingle)
  rw [FormatRequest.negotiate_eq hn, hfield]
  simp only [wish, h.format, Nat.max_eq_left hminWidth, Nat.min_eq_left hwidth,
    Nat.max_eq_left hminHeight, Nat.min_eq_left hmax, Nat.div_mul_cancel h.aligned]

/-- **What can be delivered can be captured.** -/
theorem capturable (hn : n ∈ Norm.all) (h : g.Deliverable n) : Capturable g n :=
  ⟨h.field, (PixelFormat.mem_of_find? h.format).1, hn⟩

/-- A line of it has bytes, and no more than an instruction can count. -/
lemma lineBytes_bounds (hn : n ∈ Norm.all) (h : g.Deliverable n) :
    1 ≤ g.lineBytes ∧ g.lineBytes ≤ 4095 := by
  obtain ⟨hpos, hless⟩ := Geometry.lineBytes_bounds (h.capturable hn) h.accepts
  exact ⟨hpos, Nat.le_of_lt_succ hless⟩

end Geometry.Deliverable

/-- What becomes of a wish under a norm. -/
structure FormatRequest.Settled (request : FormatRequest) (n : Norm) : Prop where
  /-- It is granted if and only if its format is one of the chip's. -/
  granted : (∃ g, request.negotiate n = .ok (.ok g)) ↔ ∃ f ∈ PixelFormat.all, f.code = request.code
  /-- It is refused for its format otherwise. -/
  refused : (¬∃ f ∈ PixelFormat.all, f.code = request.code) →
    request.negotiate n = .ok (.error .invalidArgument)
  /-- What is granted has the format wished for, and the norm can deliver it. -/
  delivered : ∀ g, request.negotiate n = .ok (.ok g) →
    g.format.code = request.code ∧ g.Deliverable n
  /-- Its lines have bytes, and no more than an instruction can count. -/
  counted : ∀ g, request.negotiate n = .ok (.ok g) → 1 ≤ g.lineBytes ∧ g.lineBytes ≤ 4095
  /-- Who wishes for it gets it. -/
  fixed : ∀ g, request.negotiate n = .ok (.ok g) → g.wish.negotiate n = .ok (.ok g)

/-- **Every wish is settled**, whatever norm of the decoder is in force. -/
theorem FormatRequest.settled (hn : n ∈ Norm.all) (request : FormatRequest) :
    request.Settled n where
  granted := exists_negotiate_iff hn request
  refused := negotiate_eq_error hn
  delivered _ hg := deliverable_of_negotiate hn hg
  counted _ hg := (deliverable_of_negotiate hn hg).2.lineBytes_bounds hn
  fixed _ hg := (deliverable_of_negotiate hn hg).2.negotiate_eq hn

end VideoCapture
