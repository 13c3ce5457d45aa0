import VideoCapture.Proofs.Buffer.Freshness
import VideoCapture.Proofs.Buffer.Preparation
import VideoCapture.Proofs.Queue.Lasting
import VideoCapture.Proofs.Queue.Staging

/-!
# Buffers that are prepared again

A buffer goes through a queue many times, and between two times it is prepared again. As long as the
geometry stays the same its program is kept, though it has been chained, pointed elsewhere and run
since. However the session went, a buffer that was prepared has a program that is as good as new for
its chunks, the geometry asked for and what the queue says about lines; and keeping the program
costs nothing.

## Main results

* `VideoCapture.Setup.lasting_written` — programs stay written for what they are held with.
* `VideoCapture.Channel.fresh_of_prepare` — what preparing a buffer of a queue comes to.
-/

set_option autoImplicit false

namespace VideoCapture

variable {δ : Type} [DmaBackend δ]

/-- A program was written for what it is held with from the time it was built. -/
lemma Setup.lasting_written : Lasting δ fun _ mode setup => setup.Written mode where
  untied := written_untied
  norm _ hsetup := hsetup
  built _ hbuild := CaptureBuffer.written_of_buildProgram hbuild

namespace Channel

open CaptureBuffer (postcard)

variable {c₀ c c' : Channel δ} {regs : RegisterFile} {dma dma' : δ} {config : Config} {i : Nat}
  {g : Geometry} {n : Norm}

/-- A buffer that was prepared holds what it was prepared for. -/
lemma exists_setupOf_of_prepare (h : c.prepare i g n = .ok (.ok (), c')) :
    ∃ setup, c'.setupOf i = some setup ∧ setup.geometry = g ∧ setup.norm = n := by
  obtain ⟨_, hresult, -⟩ | ⟨buffer, buffer', dma, -, hbuffer, -, hprepare, rfl⟩ := prepare_cases h
  · cases hresult
  · have hi : i < c.buffers.length := (List.getElem?_eq_some_iff.mp hbuffer).1
    cases CaptureBuffer.ends_of_prepare hprepare with
    | prepared hgeometry hnorm =>
      refine ⟨_, ?_, hgeometry, hnorm⟩
      rw [CaptureQueue.setupOf, List.getElem?_set_self hi]
      rfl

/-- A buffer that is prepared again for its geometry keeps what it holds, but for the norm. -/
lemma setupOf_of_prepare_same {setup : Setup} (hsetup : c.setupOf i = some setup)
    (hsame : setup.geometry = g) (h : c.prepare i g n = .ok (.ok (), c')) :
    c'.setupOf i = some { setup with norm := n } ∧ c'.dma = c.dma := by
  obtain ⟨_, hresult, -⟩ | ⟨buffer, buffer', dma, -, hbuffer, -, hprepare, rfl⟩ := prepare_cases h
  · cases hresult
  · have hi : i < c.buffers.length := (List.getElem?_eq_some_iff.mp hbuffer).1
    rw [CaptureQueue.setupOf_of_getElem? hbuffer] at hsetup
    obtain ⟨rfl, rfl⟩ := CaptureBuffer.prepare_of_same hsetup hsame hprepare
    refine ⟨?_, rfl⟩
    rw [CaptureQueue.setupOf, List.getElem?_set_self hi]
    rfl

/-- **A buffer that was prepared has a program as good as new**, in every session: its words in
front of the tail are those that building a program anew writes, for the chunks of the buffer, the
geometry asked for and what the queue says about lines. A buffer that need not be initialised holds
something, and if that is for the geometry asked for, preparing it takes nothing from the backend
and changes nothing of its program.

**Proof sketch.** For the first part the preparation is one operation more of the session, and what
is written in setups lasts over sessions (`Setup.lasting_written`). For the second, a buffer that
need not be initialised has a setup (`staged_of_reaches`), and preparing it for the geometry that it
has renews the norm only. -/
theorem fresh_of_prepare (hcreate : create regs dma config = (.ok c₀, dma')) (h : c₀.Reaches c)
    (hprepare : c.prepare i g n = .ok (.ok (), c')) :
    (∃ setup layout, c'.setupOf i = some setup ∧ setup.geometry = g ∧ setup.norm = n ∧
        g.layout = .ok layout ∧ setup.program.Fresh setup.chunks layout c'.lineOffset) ∧
      (c.stateOf i ≠ some .needsInit → ∃ before, c.setupOf i = some before ∧
        (before.geometry = g →
          c'.setupOf i = some { before with norm := n } ∧ c'.dma = c.dma)) := by
  constructor
  · have hperform : c.perform (.prepare i g n) = .ok (.done, c') :=
      bind_eq_ok.mpr ⟨(.ok (), c'), hprepare, rfl⟩
    obtain ⟨setup, hsetup, rfl, rfl⟩ := exists_setupOf_of_prepare hprepare
    have hall := all_of_reaches Setup.lasting_written hcreate (h.perform hperform)
    obtain ⟨_, hwritten⟩ := hall.of_setupOf hsetup
    obtain ⟨layout, hlayout, hfresh⟩ := hwritten.fresh
    exact ⟨setup, layout, hsetup, rfl, rfl, hlayout, hfresh⟩
  · intro hstate
    obtain ⟨_, hresult, -⟩ | ⟨buffer, _, _, -, hbuffer, -, -, -⟩ := prepare_cases hprepare
    · cases hresult
    · have hstage := CaptureQueue.stateOf_of_getElem? hbuffer
      have hne : buffer.state ≠ .needsInit := fun hinit =>
        hstate (hstage.trans (congrArg some hinit))
      obtain ⟨before, hbefore⟩ := (staged_of_reaches hcreate h).exists_setupOf hstage hne
      exact ⟨before, hbefore, fun hsame => setupOf_of_prepare_same hbefore hsame hprepare⟩

/-- A buffer has been captured into while its program was chained to another, it is handed back, and
it is prepared again. -/
theorem fresh_of_prepare_returned :
    ∃ c₀ dma, ∃ c c' : Channel HostDma, create {} HostDma.create {} = (.ok c₀, dma) ∧
      c₀.Reaches c ∧ c.stateOf 0 = some .done ∧
      c.prepare 0 postcard .initial = .ok (.ok (), c') ∧
      ∃ before layout, c.setupOf 0 = some before ∧ before.geometry = postcard ∧
        before.program.tailTarget ≠ before.program.tailAddress ∧
        c'.setupOf 0 = some before ∧ c'.dma = c.dma ∧ postcard.layout = .ok layout ∧
        before.program.Fresh before.chunks layout c'.lineOffset := by
  obtain ⟨c₀, dma, c, hcreate, hreach, hview⟩ := exists_session_of_viewFrom
    (show viewFrom HostDma.create
        (chainedOperations ++ [.status 0 Status.program, .dequeue]) (fun c => do
      let setup ← c.setupOf 0
      let prepared ← (c.prepare 0 postcard .initial).toOption
      let _ ← prepared.1.toOption
      return (decide (c.stateOf 0 = some .done ∧ setup.program.tailTarget ≠
        setup.program.tailAddress), setup.geometry, setup.norm)) =
      some (some (true, postcard, .initial)) by decide +kernel)
  simp only [Option.bind_eq_bind, Option.bind_eq_some_iff, Option.pure_def, Option.some.injEq,
    Prod.mk.injEq, decide_eq_true_eq] at hview
  obtain ⟨before, hbefore, ⟨result, c'⟩, hprepare, _, hresult, ⟨hstate, htail⟩, hgeometry,
    hnorm⟩ := hview
  have hprepare : c.prepare 0 postcard .initial = .ok (.ok (), c') := by
    rw [← toOption_eq_some.mp hresult]
    exact toOption_eq_some.mp hprepare
  obtain ⟨⟨setup, layout, hsetup, -, -, hlayout, hfresh⟩, hagain⟩ :=
    fresh_of_prepare hcreate hreach hprepare
  obtain ⟨_, hheld, hsame⟩ := hagain fun hinit => by cases hstate.symm.trans hinit
  obtain rfl := Option.some.inj (hbefore.symm.trans hheld)
  obtain ⟨hkept, hdma⟩ := hsame hgeometry
  have hback : c'.setupOf 0 = some before := by rw [hkept, ← hnorm]
  obtain rfl := Option.some.inj (hsetup.symm.trans hback)
  exact ⟨c₀, dma, c, c', hcreate, hreach, hstate, hprepare, setup, layout, hbefore, hgeometry,
    htail, hback, hdma, hlayout, hfresh⟩

end Channel

end VideoCapture
