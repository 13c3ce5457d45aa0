import VideoCapture.Dma.Answered
import VideoCapture.Proofs.Program.Demand
import VideoCapture.Proofs.Queue.Operations

/-!
# How preparing a buffer ends

Preparing a buffer asks three things of the backend, and each may be refused: the mapping, memory
for a program, and, by what the mapping looks like, a program for it. Nothing is known about the
backend here: it maps to any chunks and hands out any memory. If something is refused, everything
that the buffer has is given back, the mapping last, whether the buffer had it before or got it just
now. Three things are not looked at in advance. How finely the chunks are cut shows only after the
memory was asked for, so that a program for very small chunks can outgrow it, although it is as
large as estimated. An empty chunk at the end of the address space has no address. And memory that
reaches beyond the end of the address space may leave none to the tail of the program. None of them
is answered with an error, and preparing a buffer breaks off nowhere else.

## Main definitions

* `VideoCapture.CaptureBuffer.Overruns` — preparing a buffer writes a program that does not fit.
* `VideoCapture.CaptureBuffer.GivesBack` — what is asked of the backend when something was refused.
* `VideoCapture.CaptureBuffer.Ends` — how preparing a buffer ends.

## Main results

* `VideoCapture.CaptureBuffer.prepare_iff` — preparing a buffer ends, well or with everything given
  back, exactly if it does not overrun.
-/

set_option autoImplicit false

namespace VideoCapture.CaptureBuffer

variable {δ : Type} [DmaBackend δ]

/-! ## What is written -/

/-- The given chunks are accepted for a geometry, and the program for them does not fit into the
memory that is handed out, or onto the bus. -/
def Outgrows (dma : δ) (chunks : ScatterList) (g : Geometry) : Prop :=
  chunks.InReach ∧ g.imageBytes ≤ chunks.size ∧
    ∃ layout, g.layout = .ok layout ∧ layout.Outgrows dma chunks

/-- The chunks that preparing a buffer for a geometry writes a program for, and the backend that is
asked for memory then; none if it gets no chunks, or has a program for the geometry. -/
def reprogrammed? (buffer : CaptureBuffer) (dma : δ) (index : Nat) (g : Geometry) :
    Option (ScatterList × δ) :=
  match buffer.setup with
  | none =>
    match DmaBackend.map dma index buffer.capacity with
    | (.error _, _) => none
    | (.ok chunks, dma) => some (chunks, dma)
  | some setup => if setup.geometry = g then none else some (setup.chunks, dma)

/-- Preparing a buffer writes a program that does not fit. -/
def Overruns (buffer : CaptureBuffer) (dma : δ) (index : Nat) (g : Geometry) (n : Norm) : Prop :=
  n.accepts g.width g.height = true ∧ g.imageBytes ≤ buffer.capacity ∧
    ∃ chunks dma', buffer.reprogrammed? dma index g = some (chunks, dma') ∧ Outgrows dma' chunks g

/-! ## What is given back -/

/-- Memory is refused, or not asked for. -/
def Declines (dma dma' : δ) : Prop :=
  dma' = dma ∨ ∃ error size, DmaBackend.allocate dma size = (.error error, dma')

/-- What is asked of the backend when a buffer cannot be prepared. -/
inductive GivesBack (buffer : CaptureBuffer) (dma : δ) (index : Nat) : δ → Prop
  /-- The buffer was not mapped, and is not going to be. -/
  | unmapped (hsetup : buffer.setup = none) : GivesBack buffer dma index dma
  /-- It cannot be mapped. -/
  | refused {error : Error} {dma' : δ} (hsetup : buffer.setup = none)
      (hmap : DmaBackend.map dma index buffer.capacity = (.error error, dma')) :
      GivesBack buffer dma index dma'
  /-- It was mapped just now, and the mapping is given back. -/
  | mapped {chunks : ScatterList} {dma₁ dma₂ : δ} (hsetup : buffer.setup = none)
      (hmap : DmaBackend.map dma index buffer.capacity = (.ok chunks, dma₁))
      (hdeclines : Declines dma₁ dma₂) :
      GivesBack buffer dma index (DmaBackend.unmap dma₂ index)
  /-- It was mapped and had a program, and both are given back. -/
  | held {setup : Setup} {dma₁ : δ} (hsetup : buffer.setup = some setup)
      (hdeclines : Declines dma dma₁) :
      GivesBack buffer dma index (DmaBackend.unmap (setup.program.discard dma₁) index)

/-- How preparing a buffer ends: it is prepared for the geometry, or it holds nothing and has given
back everything. -/
inductive Ends (buffer : CaptureBuffer) (dma : δ) (index : Nat) (g : Geometry) (n : Norm) :
    Except Error Unit → CaptureBuffer → δ → Prop
  | prepared {setup : Setup} {dma' : δ} (hgeometry : setup.geometry = g) (hnorm : setup.norm = n) :
      Ends buffer dma index g n (.ok ())
        { buffer with state := .prepared, setup := some setup } dma'
  | failed {error : Error} {dma' : δ} (hback : buffer.GivesBack dma index dma') :
      Ends buffer dma index g n (.error error) buffer.emptied dma'

variable {buffer buffer' : CaptureBuffer} {dma dma' : δ} {index : Nat} {g : Geometry} {n : Norm}
  {chunks : ScatterList} {mode : LineOffset} {result : Except Error Unit}

/-- Building a program fails for what the chunks are, or for want of memory. -/
lemma declines_of_buildProgram {error : Error}
    (h : buildProgram dma chunks g mode = .ok (.error error, dma')) : Declines dma dma' := by
  obtain ⟨-, -, rfl⟩ | ⟨-, -, rfl⟩ | ⟨-, layout, -, hbuild⟩ := buildProgram_cases h
  · exact .inl rfl
  · exact .inl rfl
  · obtain ⟨error, hallocate, -⟩ | ⟨_, _, -, -, hbuilt⟩ := Program.build_cases hbuild
    · exact .inr ⟨error, _, hallocate⟩
    · cases hbuilt

/-- **A buffer that cannot be prepared holds nothing and has given back everything.**

**Proof sketch.** Each way in which preparing ends is one of those in which a buffer gives back: it
was mapped before or has been mapped just now, it had a program or not, and memory was asked for or
not. -/
theorem ends_of_prepare (h : buffer.prepare dma index g n mode = .ok (result, buffer', dma')) :
    buffer.Ends dma index g n result buffer' dma' := by
  obtain ⟨rfl, hdrain⟩ | ⟨hsetup, error, hmap, rfl, rfl⟩ | ⟨hsetup, chunks, dma₁, hmap, hnew⟩ |
    ⟨setup, hsetup, hsame, rfl, rfl, rfl⟩ | ⟨setup, hsetup, hnew⟩ := prepare_cases h
  · unfold drain at hdrain
    split at hdrain
    · next hsetup =>
      obtain ⟨rfl, rfl⟩ := Prod.mk.inj hdrain
      exact .failed (.unmapped hsetup)
    · next setup hsetup =>
      obtain ⟨rfl, rfl⟩ := Prod.mk.inj hdrain
      exact .failed (.held hsetup (.inl rfl))
  · exact .failed (.refused hsetup hmap)
  · cases hnew with
    | failed hbuild => exact .failed (.mapped hsetup hmap (declines_of_buildProgram hbuild))
    | built hbuild => exact .prepared rfl rfl
  · exact .prepared hsame rfl
  · cases hnew with
    | failed hbuild => exact .failed (.held hsetup (declines_of_buildProgram hbuild))
    | built hbuild => exact .prepared rfl rfl

/-! ## Where it breaks off -/

/-- How building a program ends, for what the chip can capture.

**Proof sketch.** Chunks that are refused are not accepted, so that nothing can outgrow anything.
For those that are accepted the fields lie within the chunks, and how they are written is known. -/
lemma buildProgram_ends (h : Capturable g n) (haccepts : n.accepts g.width g.height = true)
    (dma : δ) (chunks : ScatterList) (mode : LineOffset) :
    (¬Outgrows dma chunks g ∧ ∃ built dma', buildProgram dma chunks g mode = .ok (built, dma')) ∨
      Outgrows dma chunks g ∧
        ∃ fault, buildProgram dma chunks g mode = .error fault ∧ fault.Overrun := by
  unfold buildProgram
  split
  · next hbeyond =>
    refine .inl ⟨fun hout => ?_, _, _, rfl⟩
    obtain ⟨chunk, hchunk, hlimit⟩ := List.any_eq_true.mp hbeyond
    exact absurd (hout.1 chunk hchunk) (Nat.not_le_of_lt (of_decide_eq_true hlimit))
  · next hwithin =>
    split
    · next hshort => exact .inl ⟨fun hout => Nat.not_le_of_lt hshort hout.2.1, _, _, rfl⟩
    · next hlong =>
      have hreach : chunks.InReach := by
        intro chunk hchunk
        refine Nat.le_of_not_lt fun hlimit => hwithin (List.any_eq_true.mpr ⟨chunk, hchunk, ?_⟩)
        exact decide_eq_true hlimit
      obtain ⟨layout, hlayout⟩ := Geometry.exists_layout h
      have hinside : ∀ part ∈ layout.parts, part.Inside chunks.size := by
        intro part hpart
        exact (Geometry.inside_of_layout h haccepts hlayout part hpart).mono
          (Nat.le_of_not_lt hlong)
      rw [hlayout]
      obtain ⟨hfits, built, dma', hbuild⟩ | ⟨hout, fault, hbuild, hfault⟩ :=
        Program.build_ends hreach (Geometry.parts_of_layout hlayout).1 hinside dma mode
      · refine .inl ⟨?_, built, dma', hbuild⟩
        rintro ⟨-, -, layout', hlayout', hout⟩
        obtain rfl := Except.ok.inj (hlayout.symm.trans hlayout')
        exact hfits hout
      · exact .inr ⟨⟨hreach, Nat.le_of_not_lt hlong, layout, hlayout, hout⟩, fault, hbuild, hfault⟩

/-- How giving a buffer a new program ends. -/
lemma reprogram_ends (h : Capturable g n) (haccepts : n.accepts g.width g.height = true)
    (buffer : CaptureBuffer) (dma : δ) (index : Nat) (chunks : ScatterList) (old : Option Program)
    (mode : LineOffset) :
    (¬Outgrows dma chunks g ∧ ∃ result buffer' dma',
        buffer.reprogram dma index chunks old g n mode = .ok (result, buffer', dma')) ∨
      Outgrows dma chunks g ∧ ∃ fault,
        buffer.reprogram dma index chunks old g n mode = .error fault ∧ fault.Overrun := by
  unfold reprogram
  obtain ⟨hfits, built, dma', hbuild⟩ | ⟨hout, fault, hbuild, hfault⟩ :=
    buildProgram_ends h haccepts dma chunks mode
  · rw [hbuild]
    cases built <;> exact .inl ⟨hfits, _, _, _, rfl⟩
  · rw [hbuild]
    exact .inr ⟨hout, fault, rfl, hfault⟩

/-- A buffer that is not in flight is prepared, or an error tells why not, unless that overruns.

**Proof sketch.** What the norm or the room refuses is not written at all, and neither is a program
that is there already. Otherwise the chunks are those that the buffer has, or gets now, and a
program is written for them. -/
lemma prepare_ends (hidle : buffer.state.inFlight = false) (h : Capturable g n) (dma : δ)
    (index : Nat) (mode : LineOffset) :
    (¬buffer.Overruns dma index g n ∧ ∃ result buffer' dma',
        buffer.prepare dma index g n mode = .ok (result, buffer', dma')) ∨
      buffer.Overruns dma index g n ∧ ∃ fault,
        buffer.prepare dma index g n mode = .error fault ∧ fault.Overrun := by
  by_cases hfits : n.accepts g.width g.height = true ∧ g.imageBytes ≤ buffer.capacity
  · have haccepted : (!n.accepts g.width g.height || decide (buffer.capacity < g.imageBytes)) =
        false := by simp [hfits]
    unfold prepare Overruns reprogrammed?
    rw [hidle, haccepted, and_iff_right hfits.1, and_iff_right hfits.2]
    cases buffer.setup with
    | none =>
      rcases DmaBackend.map dma index buffer.capacity with ⟨error | chunks, dma₁⟩
      · refine .inl ⟨?_, _, _, _, rfl⟩
        rintro ⟨_, _, ⟨⟩, -⟩
      · simpa using reprogram_ends h hfits.1 buffer dma₁ index chunks none mode
    | some setup =>
      by_cases hsame : setup.geometry = g
      · refine .inl ⟨?_, _, _, _, if_pos hsame⟩
        simp [hsame]
      · simpa [hsame] using reprogram_ends h hfits.1 buffer dma index setup.chunks
          (some setup.program) mode
  · have hrefused : (!n.accepts g.width g.height || decide (buffer.capacity < g.imageBytes)) =
        true := (Bool.not_eq_false _).mp fun hfalse => hfits (by simpa using hfalse)
    refine .inl ⟨fun hover => hfits ⟨hover.1, hover.2.1⟩, .error .invalidArgument,
      (buffer.drain dma index).1, (buffer.drain dma index).2, ?_⟩
    rw [prepare, hidle, hrefused]
    rfl

/-- **Preparing a buffer ends exactly if it does not overrun**: a buffer that is not in flight is
then prepared for what the chip can capture, or an error tells why not, and it holds nothing and has
given back everything. Where it overruns it breaks off at what guards the memory of a program and
the addresses of the bus, although each of these cases could be told in advance and refused. -/
theorem prepare_iff (hidle : buffer.state.inFlight = false) (h : Capturable g n) (dma : δ)
    (index : Nat) (mode : LineOffset) :
    ((∃ result buffer' dma', buffer.prepare dma index g n mode = .ok (result, buffer', dma') ∧
        buffer.Ends dma index g n result buffer' dma') ↔ ¬buffer.Overruns dma index g n) ∧
      ∀ fault, buffer.prepare dma index g n mode = .error fault → fault.Overrun := by
  obtain ⟨hfits, result, buffer', dma', hprepare⟩ | ⟨hover, fault, hprepare, hfault⟩ :=
    prepare_ends hidle h dma index mode
  · refine ⟨iff_of_true ⟨result, buffer', dma', hprepare, ends_of_prepare hprepare⟩ hfits, ?_⟩
    intro fault hfault
    cases hprepare.symm.trans hfault
  · refine ⟨iff_of_false ?_ (not_not_intro hover), ?_⟩
    · rintro ⟨result, buffer', dma', hend, -⟩
      cases hprepare.symm.trans hend
    · intro fault' hfault'
      obtain rfl := Except.error.inj (hprepare.symm.trans hfault')
      exact hfault

/-- A frame of 32 lines of 144 bytes, in the bottom field. -/
def postcard : Geometry where
  width := 48
  height := 32
  format := .initial
  field := .bottom

/-- A new buffer for a postcard. -/
def envelope : CaptureBuffer where
  capacity := 4608

/-- A backend that maps buffer 0 to the given chunks. -/
def mappingTo (chunks : ScatterList) : AnsweredDma HostDma where
  behind := .create
  answers := [(0, .ok chunks)]

/-- A backend of which the window ends 256 bytes behind its beginning with the last address of the
bus, and goes on. -/
def toppling : HostDma where
  window := { base := 0xffffff00, size := 0x100000 }

/-- A chunk for each half line of a postcard. -/
def shredded : ScatterList :=
  List.replicate 64 ⟨0x10000, 72⟩

/-- An empty chunk behind the last address of the bus, where the first line of a postcard begins. -/
def brinkFirst : ScatterList :=
  [⟨0x100000000, 0⟩, ⟨0x10000, 4608⟩]

/-- The same empty chunk where the last line has ended, and another within that line. -/
def brinkLast : ScatterList :=
  [⟨0x10000, 4600⟩, ⟨0x30000, 0⟩, ⟨0x20000, 8⟩, ⟨0x100000000, 0⟩]

/-- How preparing the buffer for a postcard ends over some backend, but for what else it leaves. -/
def posting {δ : Type} [DmaBackend δ] (dma : δ) : Except Fault (Except Error Unit × BufferState) :=
  (envelope.prepare dma 0 postcard .initial .omit).map
    fun (result, buffer, _) => (result, buffer.state)

/-- An empty chunk behind the last address does no harm where no line meets it, and otherwise it has
no address; the fragments of a buffer can be too small for the estimate; and the tail of a program
can come to lie behind the last address. -/
theorem prepare_iff_brink :
    envelope.state.inFlight = false ∧ Capturable postcard .initial ∧
      ¬envelope.Overruns (mappingTo brinkLast) 0 postcard .initial ∧
      posting (mappingTo brinkLast) = .ok (.ok (), .prepared) ∧
      envelope.Overruns (mappingTo brinkFirst) 0 postcard .initial ∧
      posting (mappingTo brinkFirst) = .error (.addressTooWide 0x100000000) ∧
      envelope.Overruns (mappingTo shredded) 0 postcard .initial ∧
      posting (mappingTo shredded) = .error (.instructionOverflow 74 74) ∧
      envelope.Overruns { mappingTo brinkLast with behind := toppling } 0 postcard .initial ∧
      posting { mappingTo brinkLast with behind := toppling } = .error .numberTooWide := by
  have hidle : envelope.state.inFlight = false := rfl
  have hcapturable : Capturable postcard .initial := by decide
  have hoverruns : ∀ (dma : AnsweredDma HostDma) fault, posting dma = .error fault →
      envelope.Overruns dma 0 postcard .initial := by
    intro dma fault hfault
    by_contra hfits
    obtain ⟨_, _, _, hprepare, -⟩ := (prepare_iff hidle hcapturable dma 0 .omit).1.mpr hfits
    cases hprepare.symm.trans (map_eq_error.mp hfault)
  have hlast : posting (mappingTo brinkLast) = .ok (.ok (), .prepared) := by decide +kernel
  have hfirst : posting (mappingTo brinkFirst) = .error (.addressTooWide 0x100000000) := by
    decide +kernel
  have hshredded : posting (mappingTo shredded) = .error (.instructionOverflow 74 74) := by
    decide +kernel
  have htoppling : posting { mappingTo brinkLast with behind := toppling } =
      .error .numberTooWide := by decide +kernel
  refine ⟨hidle, hcapturable, ?_, hlast, hoverruns _ _ hfirst, hfirst, hoverruns _ _ hshredded,
    hshredded, hoverruns _ _ htoppling, htoppling⟩
  rcases hprepare : envelope.prepare (mappingTo brinkLast) 0 postcard .initial .omit with
    fault | ⟨result, buffer, dma⟩
  · rw [posting, hprepare] at hlast
    cases hlast
  · exact (prepare_iff hidle hcapturable _ 0 .omit).1.mp
      ⟨result, buffer, dma, hprepare, ends_of_prepare hprepare⟩

end VideoCapture.CaptureBuffer
