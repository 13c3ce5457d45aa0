import VideoCapture.Proofs.Engine.Picture
import VideoCapture.Proofs.Machine.Runs
import VideoCapture.Proofs.Queue.Driving

/-!
# What is remembered about a chip is what its registers hold

The norm of a chip, its connector and its picture controls are remembered, and they are in the
registers of its decoder. The two are written one after the other, by hands that each see to a part
of them. The V component of the saturation goes by the norm, and there is no gain under SECAM, so
switching the norm has to see to controls that nobody has asked about. Bringing a chip up starts
from registers that hold anything, and gives the controls their values one by one; the gain may be
refused then, and has to be off already.

From then on the two agree, whatever is set and whatever a queue does to the same registers.

## Main definitions

* `VideoCapture.Chip.Portrayed` — what is remembered about a chip is what its registers hold.
* `VideoCapture.Chip.Settled` — the controls of a chip are in force except for some.
* `VideoCapture.Chip.Course` — settings and operations of queues lead on from a chip.
* `VideoCapture.Chip.Unmoved` — a setting that is refused changes nothing.

## Main results

* `VideoCapture.Chip.portrayed_bringUp` — the two agree after power-on.
* `VideoCapture.Chip.Portrayed.adjust` — and whatever is set.
* `VideoCapture.Chip.portrayed_of_course` — they agree at all times.
-/

set_option autoImplicit false

namespace VideoCapture

/-- A norm is selected: both registers that have the standard have the code of the norm, which is
one of the decoder's. -/
structure Norm.Selected (norm : Norm) (regs : RegisterFile) : Prop where
  /-- The norm is one of the decoder's. -/
  known : norm ∈ Norm.all
  /-- The standard is selected by the code of the norm. -/
  standard : regs.read8 Register.standard &&& 0x07 = norm.code
  /-- So it is in the copy. -/
  standardCopy : regs.read8 Register.standardCopy &&& 0x07 = norm.code

namespace Chip

open RegisterFile (SamePicture)

/-- What is chosen for a chip, its norm and its connector, is in its registers. -/
structure Chosen (chip : Chip) (regs : RegisterFile) : Prop extends chip.norm.Selected regs where
  /-- The multiplexer is set to the connector. -/
  input : ∃ connector, chip.onBoard.input chip.input = .ok connector ∧
    connector.mux < Decoder.inputCount ∧
    regs.read8 Register.inputForm &&& 0x0c = UInt8.ofNat (4 * connector.mux)

/-- What is remembered about a chip is what its registers hold: its norm, its connector, and its
controls, all of which are in force. -/
structure Portrayed (chip : Chip) (regs : RegisterFile) : Prop extends chip.Chosen regs where
  /-- The controls are in force. -/
  controls : ∀ id : ControlId, id.InForce regs chip.norm (chip.controls id)

/-- All controls of a chip are in force except for some. -/
def Settled (pending : List ControlId) (chip : Chip) (regs : RegisterFile) : Prop :=
  ∀ id, id ∉ pending → id.InForce regs chip.norm (chip.controls id)

/-- Nothing else has been chosen for a chip, in its registers neither. -/
structure SameChoice (chip : Chip) (regs : RegisterFile) (after : Chip) (regs' : RegisterFile) :
    Prop where
  /-- The norm is the same. -/
  norm : after.norm = chip.norm
  /-- The board is the same. -/
  board : after.board = chip.board
  /-- The connector is the same. -/
  input : after.input = chip.input
  /-- The registers of both hold the same. -/
  registers : ∀ offset ∈ Decoder.choiceOffsets, regs'.read8 offset = regs.read8 offset

variable {chip after later : Chip} {regs regs₁ regs' : RegisterFile} {id : ControlId} {value : Int}
  {pending : List ControlId} {norm : Norm}

/-- Nothing else is chosen by doing nothing. -/
lemma SameChoice.refl (chip : Chip) (regs : RegisterFile) : chip.SameChoice regs chip regs :=
  ⟨rfl, rfl, rfl, fun _ _ => rfl⟩

/-- Nothing else is chosen by one step after the other. -/
lemma SameChoice.trans (h : chip.SameChoice regs after regs₁)
    (h' : after.SameChoice regs₁ later regs') : chip.SameChoice regs later regs' :=
  ⟨h'.norm.trans h.norm, h'.board.trans h.board, h'.input.trans h.input,
    fun offset hoffset => (h'.registers offset hoffset).trans (h.registers offset hoffset)⟩

/-- A norm stays selected as long as nothing else is chosen. -/
lemma SameChoice.selected (h : chip.SameChoice regs after regs')
    (hs : chip.norm.Selected regs) : after.norm.Selected regs' := by
  refine ⟨h.norm ▸ hs.known, ?_, ?_⟩
  · rw [h.registers _ (by decide), hs.standard, h.norm]
  · rw [h.registers _ (by decide), hs.standardCopy, h.norm]

/-- So does the connector. -/
lemma Chosen.congr (hc : chip.Chosen regs) (h : chip.SameChoice regs after regs') :
    after.Chosen regs' := by
  obtain ⟨connector, hinput, hmux, hbits⟩ := hc.input
  refine ⟨h.selected hc.toSelected, connector, ?_, hmux, ?_⟩
  · rw [onBoard, h.board, h.input]
    exact hinput
  · rw [h.registers _ (by decide), hbits]

/-- What the registers show of a chip depends on those of the picture. -/
lemma Portrayed.congr (hp : chip.Portrayed regs) (h : regs.SamePicture regs') :
    chip.Portrayed regs' where
  toChosen := hp.toChosen.congr ⟨rfl, rfl, rfl, fun offset hoffset =>
    h offset (List.mem_append_left _ hoffset)⟩
  controls id := (hp.controls id).congr fun offset hoffset => h offset (id.offsets_subset _ hoffset)

/-! ### Setting controls -/

/-- A control is set, and its value remembered, or it is refused. -/
lemma setControl_cases (chip : Chip) (regs : RegisterFile) (id : ControlId) (value : Int) :
    (∃ applied regs', id.set regs chip.norm value = .ok (applied, regs') ∧
      chip.setControl regs id value = (.ok applied, chip.remember id applied, regs')) ∨
    ∃ error, id.set regs chip.norm value = .error error ∧
      chip.setControl regs id value = (.error error, chip, regs) := by
  unfold setControl
  cases hset : id.set regs chip.norm value with
  | ok result => exact .inl ⟨result.1, result.2, rfl, rfl⟩
  | error error => exact .inr ⟨error, rfl, rfl⟩

/-- A control that is set is remembered. -/
lemma setControl_of_set (chip : Chip) {applied : Int}
    (h : id.set regs chip.norm value = .ok (applied, regs')) :
    chip.setControl regs id value = (.ok applied, chip.remember id applied, regs') := by
  unfold setControl
  rw [h]

/-- Setting a control chooses nothing else. -/
lemma sameChoice_set (chip : Chip) {applied : Int}
    (h : id.set regs chip.norm value = .ok (applied, regs')) :
    chip.SameChoice regs (chip.remember id applied) regs' :=
  ⟨rfl, rfl, rfl, fun choice hchoice => (ControlId.inForce_of_set h).2 choice fun own hown =>
    id.offsets_apart_choice own hown choice hchoice⟩

/-- A control that is set is one less to be set. -/
lemma Settled.set {applied : Int} (hs : chip.Settled (id :: pending) regs)
    (h : id.set regs chip.norm value = .ok (applied, regs')) :
    (chip.remember id applied).Settled pending regs' := by
  intro other hother
  unfold remember
  dsimp only
  split
  · next hsame => exact hsame ▸ (ControlId.inForce_of_set h).1
  · next hne =>
    exact (hs other (by simp [hne, hother])).set hne h

/-- A control that was refused counts as off, which the gain is. -/
lemma Settled.refuse {error : Error} (hs : chip.Settled (id :: pending) regs)
    (h : id.set regs chip.norm value = .error error)
    (hoff : regs.read8 Register.analogControl &&& 0x10 = 0) :
    (chip.remember id 0).Settled pending regs := by
  obtain ⟨rfl, -⟩ := ControlId.set_eq_error h
  intro other hother
  unfold remember
  dsimp only
  split
  · next hsame =>
    subst hsame
    exact ⟨hoff, by decide, fun _ => rfl⟩
  · next hne => exact hs other (by simp [hne, hother])

/-- **A control that is set leaves what is remembered in agreement**, and so does one that is
refused. -/
theorem Portrayed.setControl (hp : chip.Portrayed regs) (id : ControlId) (value : Int) :
    (chip.setControl regs id value).2.1.Portrayed (chip.setControl regs id value).2.2 := by
  obtain ⟨applied, regs', hset, heq⟩ | ⟨_, -, heq⟩ := setControl_cases chip regs id value
  · rw [heq]
    have hsettled : chip.Settled [id] regs := fun other _ => hp.controls other
    exact ⟨hp.toChosen.congr (sameChoice_set chip hset), fun other => hsettled.set hset other nofun⟩
  · rw [heq]
    exact hp

/-! ### The norm and the connector -/

/-- A norm is selected in this way. -/
lemma selected_setNorm (regs : RegisterFile) (hnorm : norm ∈ Norm.all) :
    norm.Selected (Decoder.setNorm regs norm) :=
  have hcodes := Decoder.code_setNorm regs hnorm
  ⟨hnorm, hcodes.1, hcodes.2⟩

/-- It does not concern the connector. -/
lemma Chosen.setNorm (hc : chip.Chosen regs) (hnorm : norm ∈ Norm.all) :
    Chosen { chip with norm } (Decoder.setNorm regs norm) := by
  obtain ⟨connector, hinput, hmux, hbits⟩ := hc.input
  refine ⟨selected_setNorm regs hnorm, connector, hinput, hmux, ?_⟩
  rw [Decoder.read8_setNorm regs norm (by decide) (by decide), hbits]

/-- Selecting a norm leaves the controls in force that do not go by it. -/
lemma inForce_setNorm (hf : id.InForce regs chip.norm value) (hsaturation : id ≠ .saturation)
    (hgain : id.inactive norm = true → value = 0) :
    id.InForce (Decoder.setNorm regs norm) norm value := by
  refine ⟨(hf.shows.of_norm hsaturation norm).congr fun offset hoffset => ?_, hf.range, hgain⟩
  have hapart := id.offsets_apart_choice offset hoffset
  exact Decoder.read8_setNorm regs norm (hapart _ (by decide)).symm (hapart _ (by decide)).symm

/-- Switching the norm is refused if there is none. Otherwise it writes the saturation anew, and
switches the gain off under SECAM.

**Proof sketch.** The saturation is never refused, and neither is zero for the gain, so both
settings that follow a norm go through. -/
lemma setNorm_cases (chip : Chip) (regs : RegisterFile) (standards : UInt64) :
    (Norm.find? standards = none ∧
      chip.setNorm regs standards = (.error .invalidArgument, chip, regs)) ∨
    ∃ norm applied regs₁, Norm.find? standards = some norm ∧
      ControlId.saturation.set (Decoder.setNorm regs norm) norm (chip.controls .saturation) =
        .ok (applied, regs₁) ∧
      let chip₁ := remember { chip with norm } .saturation applied
      (norm.isSecam = false ∧ chip.setNorm regs standards = (.ok norm, chip₁, regs₁) ∨
        ∃ regs₂, norm.isSecam = true ∧
          ControlId.chromaGain.set regs₁ norm 0 = .ok (0, regs₂) ∧
          chip.setNorm regs standards = (.ok norm, chip₁.remember .chromaGain 0, regs₂)) := by
  unfold Chip.setNorm
  cases hfind : Norm.find? standards with
  | none => exact .inl ⟨rfl, rfl⟩
  | some norm =>
    -- the saturation cannot be refused, nor can the gain be when it is switched off
    obtain ⟨regs₁, hset⟩ := ControlId.exists_set (Decoder.setNorm regs norm) norm
      .saturation (chip.controls .saturation) nofun
    obtain ⟨regs₂, hgain⟩ := ControlId.exists_set regs₁ norm .chromaGain 0 fun _ => rfl
    refine .inr ⟨norm, _, regs₁, rfl, hset, ?_⟩
    dsimp only
    rw [setControl_of_set { chip with norm } hset]
    cases hsecam : norm.isSecam with
    | false => exact .inl ⟨rfl, rfl⟩
    | true =>
      refine .inr ⟨regs₂, rfl, hgain, ?_⟩
      dsimp only [if_true]
      rw [setControl_of_set _ hgain]
      rfl

/-- **Switching the norm leaves what is remembered in agreement.**

**Proof sketch.** The norm decides which controls have an effect. Those that are not written anew
keep theirs, as only the gain has none under some norm, and there it is switched off. -/
theorem Portrayed.setNorm (hp : chip.Portrayed regs) (standards : UInt64) :
    (chip.setNorm regs standards).2.1.Portrayed (chip.setNorm regs standards).2.2 := by
  obtain ⟨-, heq⟩ | ⟨norm, applied, regs₁, hfind, hset, hcase⟩ := setNorm_cases chip regs standards
  · rw [heq]
    exact hp
  · have hchosen := (hp.toChosen.setNorm (List.mem_of_find?_eq_some hfind)).congr
      (sameChoice_set { chip with norm } hset)
    obtain ⟨hsecam, heq⟩ | ⟨regs₂, hsecam, hgain, heq⟩ := hcase
    · rw [heq]
      have hsettled : Settled [.saturation] { chip with norm } (Decoder.setNorm regs norm) := by
        intro id hid
        refine inForce_setNorm (hp.controls id) (by simpa using hid) fun hinactive => ?_
        exact absurd (Bool.and_eq_true_iff.mp hinactive).2 (by simp [hsecam])
      exact ⟨hchosen, fun id => hsettled.set hset id nofun⟩
    · rw [heq]
      have hsettled : Settled [.saturation, .chromaGain] { chip with norm }
          (Decoder.setNorm regs norm) := by
        intro id hid
        simp only [List.mem_cons, List.not_mem_nil, or_false, not_or] at hid
        refine inForce_setNorm (hp.controls id) hid.1 fun hinactive => absurd ?_ hid.2
        exact beq_iff_eq.mp (Bool.and_eq_true_iff.mp hinactive).1
      exact ⟨hchosen.congr (sameChoice_set _ hgain),
        fun id => (hsettled.set hset).set hgain id nofun⟩

/-- A connector that is routed is chosen, and the norm and the controls stay. -/
lemma portrayed_route {index : Nat} {connector : Connector} (hs : chip.norm.Selected regs)
    (hcontrols : chip.Settled [] regs) (hinput : chip.onBoard.input index = .ok connector)
    (h : Decoder.selectInput regs connector.mux = .ok regs') :
    Portrayed { chip with input := index } regs' := by
  obtain ⟨hmux, hbits, hkept⟩ := Decoder.selectInput_eq_ok h
  refine ⟨⟨⟨hs.known, ?_, ?_⟩, connector, hinput, hmux, hbits⟩, fun id => ?_⟩
  · rw [hkept _ (by decide), hs.standard]
  · rw [hkept _ (by decide), hs.standardCopy]
  · exact (hcontrols id nofun).congr fun offset hoffset =>
      hkept offset (id.offsets_apart_choice offset hoffset _ (by decide)).symm

/-- **Selecting a connector leaves what is remembered in agreement.** -/
theorem Portrayed.selectInput (hp : chip.Portrayed regs) (index : Nat) :
    (chip.selectInput regs index).2.1.Portrayed (chip.selectInput regs index).2.2 := by
  unfold Chip.selectInput
  cases hinput : chip.onBoard.input index with
  | error error => exact hp
  | ok connector =>
    dsimp only
    cases hselect : Decoder.selectInput regs connector.mux with
    | error error => exact hp
    | ok regs' => exact portrayed_route hp.toSelected (fun id _ => hp.controls id) hinput hselect

/-- **Whatever is set leaves what is remembered in agreement.** -/
theorem Portrayed.adjust (hp : chip.Portrayed regs) (setting : Setting) :
    (chip.adjust regs setting).1.Portrayed (chip.adjust regs setting).2 := by
  cases setting with
  | norm standards => exact hp.setNorm standards
  | input index => exact hp.selectInput index
  | control id value => exact hp.setControl id value

/-! ### Power-on -/

/-- A control that is given its default is one less to be set, even if it is refused. Nothing else
changes. -/
lemma settled_initControl (hs : chip.Settled (id :: pending) regs)
    (hoff : id = .chromaGain → regs.read8 Register.analogControl &&& 0x10 = 0) :
    let state := initControl chip regs id
    state.1.Settled pending state.2 ∧ chip.SameChoice regs state.1 state.2 ∧
      (id ≠ .chromaGain →
        state.2.read8 Register.analogControl = regs.read8 Register.analogControl) := by
  unfold initControl
  obtain ⟨applied, regs', hset, heq⟩ | ⟨error, hset, heq⟩ :=
    setControl_cases chip regs id id.control.default
  · rw [heq]
    exact ⟨hs.set hset, sameChoice_set chip hset, fun hne => (ControlId.inForce_of_set hset).2 _
      fun own hown => ControlId.offsets_apart hne.symm own hown _ (by decide)⟩
  · rw [heq]
    exact ⟨hs.refuse hset (hoff (ControlId.set_eq_error hset).1), ⟨rfl, rfl, rfl, fun _ _ => rfl⟩,
      fun _ => rfl⟩

/-- **Giving the controls their defaults settles them**, if the gain is off before.

**Proof sketch.** Induction on the controls: the gain stays off until it is its turn. -/
lemma settled_initControls (chip : Chip) (hs : chip.Settled pending regs) (hnodup : pending.Nodup)
    (hoff : .chromaGain ∈ pending → regs.read8 Register.analogControl &&& 0x10 = 0) :
    let state := pending.foldl (fun (chip, regs) id => initControl chip regs id) (chip, regs)
    state.1.Settled [] state.2 ∧ chip.SameChoice regs state.1 state.2 := by
  induction pending generalizing chip regs with
  | nil => exact ⟨hs, .refl chip regs⟩
  | cons id pending ih =>
    obtain ⟨hfirst, hrest⟩ := List.nodup_cons.mp hnodup
    obtain ⟨hsettled, hsame, hkept⟩ := settled_initControl hs fun hgain =>
      hoff (hgain ▸ List.mem_cons_self)
    have hstate := ih _ hsettled hrest fun hmem => by
      rw [hkept fun hgain => hfirst (hgain ▸ hmem)]
      exact hoff (List.mem_cons_of_mem id hmem)
    exact ⟨hstate.1, hsame.trans hstate.2⟩

/-- Every board has a connector to begin with, which is routed at power-on. -/
lemma exists_initInput (chip : Chip) (regs : RegisterFile) :
    ∃ connector, chip.onBoard.input 0 = .ok connector ∧
      Decoder.selectInput regs connector.mux = .ok (chip.initInput regs) := by
  have hall : ∀ board ∈ Board.all, board.inputs = Board.fourComposite := by decide
  have hboard : chip.onBoard.inputs = Board.fourComposite := by
    unfold onBoard
    rw [List.getD_eq_getElem?_getD]
    cases hfound : Board.all[chip.board]? with
    | none => rfl
    | some board => exact hall board (List.mem_of_getElem? hfound)
  refine ⟨⟨"Composite1", 0⟩, ?_, ?_⟩
  · rw [Board.input, hboard]
    rfl
  · rw [initInput, hboard]
    rfl

/-- **After power-on what is remembered agrees with the registers**, whatever they held before.

**Proof sketch.** After the norm has been set no control is in force yet. They are set to their
defaults one after the other, none of which is refused, and each leaves those before it in force. At
last the first connector is selected. -/
theorem portrayed_bringUp (number : Nat) (location : Location) (file : Nat) (regs : RegisterFile)
    {config : Config} (hnorm : config.norm ∈ Norm.all) :
    let state := bringUp number location file regs config
    state.1.Portrayed state.2 := by
  have hall : ∀ id, id ∈ ControlId.all := fun id => by cases id <;> decide
  have hselected := selected_setNorm (Decoder.reset regs) hnorm
  have hoff : (Decoder.setNorm (Decoder.reset regs) config.norm).read8 Register.analogControl &&&
      0x10 = 0 := by
    rw [Decoder.read8_setNorm _ _ (by decide) (by decide)]
    exact Decoder.gain_reset regs
  unfold bringUp
  dsimp only
  generalize Decoder.setNorm (Decoder.reset regs) config.norm = regs₀ at hselected hoff ⊢
  -- no control is in force yet
  obtain ⟨hsettled, hsame⟩ := settled_initControls
    { number
      board := Board.identify location.vendor location.device config.card
      file
      norm := config.norm }
    (fun id hid => absurd (hall id) hid) (show ControlId.all.Nodup by decide) fun _ => hoff
  have hselected₁ := hsame.selected hselected
  have hinput := hsame.input
  generalize ControlId.all.foldl _ _ = state at hsettled hselected₁ hinput ⊢
  -- the connector that is remembered from the beginning is the first
  obtain ⟨connector, hconnector, hroute⟩ := exists_initInput state.1 state.2
  have hfirst : state.1.onBoard.input state.1.input = .ok connector := by
    rw [hinput]
    exact hconnector
  exact portrayed_route hselected₁ hsettled hfirst hroute

/-! ## Settings and captures -/

/-- Settings and operations of queues lead on from a chip and its registers. The queues are any that
work on the registers, over any backend, and the chip may change the registers itself as far as they
do not hold what it is set to. -/
inductive Course (chip : Chip) (regs : RegisterFile) : Chip → RegisterFile → Prop where
  /-- Nothing has happened yet. -/
  | refl : Course chip regs chip regs
  /-- Something is set, or refused. -/
  | adjust {chip₁ : Chip} {regs₁ : RegisterFile} (setting : Setting) :
      Course chip regs chip₁ regs₁ →
      Course chip regs (chip₁.adjust regs₁ setting).1 (chip₁.adjust regs₁ setting).2
  /-- A queue is worked on. -/
  | perform {δ : Type} [DmaBackend δ] {chip₁ : Chip} {c c' : Channel δ}
      {operation : CaptureQueue.Operation} {answer : CaptureQueue.Answer} :
      Course chip regs chip₁ c.regs → c.perform operation = .ok (answer, c') →
      Course chip regs chip₁ c'.regs
  /-- A queue ends. -/
  | dispose {δ : Type} [DmaBackend δ] {chip₁ : Chip} {c : Channel δ} :
      Course chip regs chip₁ c.regs → Course chip regs chip₁ c.dispose.1
  /-- The chip changes its registers. -/
  | change {chip₁ : Chip} {regs₁ regs₂ : RegisterFile} : Course chip regs chip₁ regs₁ →
      regs₁.SamePicture regs₂ → Course chip regs chip₁ regs₂

/-- Sets one thing after the other. -/
def adjustAll (chip : Chip) (regs : RegisterFile) : List Setting → Chip × RegisterFile
  | [] => (chip, regs)
  | setting :: rest => (chip.adjust regs setting).1.adjustAll (chip.adjust regs setting).2 rest

/-- A course goes on with several settings. -/
lemma Course.adjustAll (settings : List Setting) (h : Course chip regs after regs') :
    Course chip regs (after.adjustAll regs' settings).1 (after.adjustAll regs' settings).2 := by
  induction settings generalizing after regs' with
  | nil => exact h
  | cons setting rest ih => exact ih (h.adjust setting)

/-- It goes on with several operations of a queue. -/
lemma Course.performAll {δ : Type} [DmaBackend δ] {c c' : Channel δ}
    {operations : List CaptureQueue.Operation} (h : Course chip regs after c.regs)
    (hrun : c.performAll operations = .ok c') : Course chip regs after c'.regs := by
  induction operations generalizing c with
  | nil => exact pure_eq_ok.mp hrun ▸ h
  | cons operation rest ih =>
    obtain ⟨⟨answer, c₁⟩, hperform, hrest⟩ := bind_eq_ok.mp hrun
    exact ih (h.perform hperform) hrest

/-- A setting that is refused changes neither the chip nor its registers. -/
structure Unmoved (chip : Chip) (regs : RegisterFile) : Prop where
  /-- There is no such norm. -/
  norm : ∀ standards error after regs',
    chip.setNorm regs standards = (.error error, after, regs') → after = chip ∧ regs' = regs
  /-- There is no such connector. -/
  input : ∀ index error after regs',
    chip.selectInput regs index = (.error error, after, regs') → after = chip ∧ regs' = regs
  /-- The control has no effect. -/
  control : ∀ id value error after regs',
    chip.setControl regs id value = (.error error, after, regs') → after = chip ∧ regs' = regs

/-- **A refusal changes nothing.**

**Proof sketch.** Each kind of setting either goes through or returns with what it was given. -/
lemma unmoved (chip : Chip) (regs : RegisterFile) : chip.Unmoved regs where
  norm standards error after regs' h := by
    obtain ⟨-, heq⟩ | ⟨_, _, _, -, -, ⟨-, heq⟩ | ⟨_, -, -, heq⟩⟩ :=
      setNorm_cases chip regs standards
    · cases heq.symm.trans h
      exact ⟨rfl, rfl⟩
    · cases heq.symm.trans h
    · cases heq.symm.trans h
  input index error after regs' h := by
    unfold Chip.selectInput at h
    split at h
    · cases h
      exact ⟨rfl, rfl⟩
    · split at h <;> cases h
      exact ⟨rfl, rfl⟩
  control id value error after regs' h := by
    obtain ⟨_, _, -, heq⟩ | ⟨_, -, heq⟩ := setControl_cases chip regs id value
    · cases heq.symm.trans h
    · cases heq.symm.trans h
      exact ⟨rfl, rfl⟩

/-- Driving the engine does not change the picture. -/
lemma samePicture_of_drives (h : Engine.Drives regs regs') : regs.SamePicture regs' := by
  have hword : ∀ (regs : RegisterFile) {offset : Nat} (value : UInt32),
      (∀ other ∈ Decoder.pictureOffsets, offset / 4 ≠ other / 4) →
      regs.SamePicture (regs.write32 offset value) :=
    fun regs _ value hoffset => regs.samePicture_write32 value hoffset
  refine h.keeps (P := fun regs₁ => regs.SamePicture regs₁) (.refl regs) ?_ ?_ ?_ ?_
  · exact fun hsame hstart => hsame.trans (Engine.samePicture_start hstart)
  · exact fun engine _ hsame => hsame.trans (engine.samePicture_stop _)
  · exact fun _ _ hsame => hsame.trans (hword _ _ (by decide))
  · exact fun hsame => hsame.trans (hword _ _ (by decide))

/-- **What is remembered about a chip is what its registers hold**, from power-on under any norm of
the decoder, through any settings, refused ones too, and whatever queues do to the same registers
meanwhile. A setting that is refused changes nothing.

**Proof sketch.** Induction on what happens. -/
theorem portrayed_of_course {number file : Nat} {location : Location} {config : Config}
    (hnorm : config.norm ∈ Norm.all)
    (h : Course (bringUp number location file regs config).1
      (bringUp number location file regs config).2 chip regs') :
    chip.Portrayed regs' ∧ chip.Unmoved regs' := by
  refine ⟨?_, unmoved chip regs'⟩
  induction h with
  | refl => exact portrayed_bringUp number location file regs hnorm
  | adjust setting _ ih => exact ih.adjust setting
  | perform _ hperform ih =>
    exact ih.congr (samePicture_of_drives (Channel.relating_drives.of_perform hperform))
  | dispose _ ih => exact ih.congr (samePicture_of_drives (Channel.drives_dispose _))
  | change _ hsame ih => exact ih.congr hsame

/-- What is seen of a chip that is set, captured with without hardware, and set again. -/
def courseView {α : Type} (start : Chip × RegisterFile) (before : List Setting)
    (operations : List CaptureQueue.Operation) (after : List Setting)
    (view : Chip → RegisterFile → α) : Option α := do
  let (chip, regs) := start.1.adjustAll start.2 before
  let c₀ ← (Channel.create regs HostDma.create {}).1.toOption
  let c ← (c₀.performAll operations).toOption
  let (chip, regs) := chip.adjustAll c.regs after
  return view chip regs

/-- What is seen of that chip is seen after a course. -/
lemma exists_course_of_courseView {α : Type} {start : Chip × RegisterFile}
    {before after : List Setting} {operations : List CaptureQueue.Operation}
    {view : Chip → RegisterFile → α} {value : α}
    (h : courseView start before operations after view = some value) :
    ∃ chip regs, Course start.1 start.2 chip regs ∧ view chip regs = value := by
  simp only [courseView, Option.bind_eq_bind, Option.bind_eq_some_iff, Option.pure_def,
    Option.some.injEq] at h
  obtain ⟨c₀, hcreate, c, hrun, rfl⟩ := h
  have hset : Course start.1 start.2 _ _ := Course.refl.adjustAll before
  obtain ⟨stopper, -, rfl⟩ := Channel.create_eq_ok (Prod.ext (toOption_eq_some.mp hcreate) rfl)
  have hcaptured := hset.performAll (toOption_eq_some.mp hrun)
  exact ⟨_, _, hcaptured.adjustAll after, rfl⟩

/-- A chip is brought up under SECAM, where its gain is refused, and switched to NTSC with the gain
on. It captures, and is switched back to SECAM, which has the gain off again. -/
theorem portrayed_of_course_secam :
    let secam : Norm := ⟨"SECAM", Standards.secam, 2, 924, 576, 186, 0x20⟩
    let config : Config := { norm := secam }
    let location : Location := { bus := 0, slot := 9, vendor := 0, device := 0 }
    config.norm ∈ Norm.all ∧ ∃ chip regs,
      Course (bringUp 0 location 0 {} config).1 (bringUp 0 location 0 {} config).2 chip regs ∧
        (chip.norm, chip.input, chip.controls .saturation, chip.controls .hue,
          chip.controls .chromaGain, Engine.running regs) = (secam, 2, 255, -90, 0, true) ∧
        chip.Portrayed regs ∧ chip.Unmoved regs := by
  intro secam config location
  have hnorm : config.norm ∈ Norm.all := by decide
  obtain ⟨chip, regs, hcourse, hview⟩ := exists_course_of_courseView
    (show courseView (bringUp 0 location 0 {} config)
      [.control .chromaGain 1, .control .saturation 300, .input 2, .input 4, .norm 0,
        .norm Standards.ntsc, .control .chromaGain 7]
      Channel.chainedOperations [.control .hue (-200), .norm Standards.secam]
      (fun chip regs => (chip.norm, chip.input, chip.controls .saturation, chip.controls .hue,
        chip.controls .chromaGain, Engine.running regs)) = some (secam, 2, 255, -90, 0, true)
      by decide +kernel)
  exact ⟨hnorm, chip, regs, hcourse, hview, portrayed_of_course hnorm hcourse⟩

end Chip

end VideoCapture
